import SourceIndex.Proofs.Host.Resolution
import SourceIndex.Proofs.Sync.Removal
import SourceIndex.Proofs.Sync.Repetition
import SourceIndex.Proofs.Sync.Visits

/-!
# Syncing a project that cannot be looked up

A sync starts with the lookup of its project, and what the lookup gives decides how it goes on. If
there is no such project, the sync ends with that, and it ends so for no other reason (`Finds`). If
the lookup fails or the client stops, the sync comes to nothing and has reported no more than that it
looks the project up: nothing is asked, mirrored or written. Only a complete project is ever synced.

Main statement: how the lookup of a sync ends, and what becomes of the sync
(`Sync.syncProject_lookup`).
-/

set_option autoImplicit false

namespace SourceIndex.Sync

open Fallible Host Rehearsal

variable {ε ι α β ν : Type}

/-! ## Steps for which the project is there -/

/-- The step does not fail because there is no such project. -/
def Finds (step : Sync ε ι α) : Prop :=
  ∀ run after name, step run ≠ (.error (.notFound name), after)

namespace Finds

variable {team : Collaborators ε} {backend : Backend ι} {projectId : String}

theorem pure (value : α) : Finds (Pure.pure value : Sync ε ι α) :=
  fun _ _ _ => pure_ne_error

theorem bind {step : Sync ε ι α} {next : α → Sync ε ι β} (first : Finds step)
    (second : ∀ value, Finds (next value)) : Finds (step >>= next) := by
  intro run after name failed
  rcases bind_eq_error_iff.1 failed with here | ⟨value, between, -, there⟩
  · exact first run after name here
  · exact second value between after name there

theorem nothingToIndex (projectId : String) :
    Finds (throw (.nothingToIndex projectId) : Sync ε ι α) := by
  intro run after name failed
  cases failed

theorem report (event : Event) : Finds (report event : Sync ε ι Unit) := by
  intro run after name failed
  cases failed

theorem work (task : Work ε α) : Finds (work task : Sync ε ι α) := by
  intro run after name failed
  unfold Sync.work at failed
  split at failed
  · cases failed
  · next halt session halted =>
    have same : SyncError.ofHalt halt = .notFound name := Except.error.inj (congrArg Prod.fst failed)
    unfold SyncError.ofHalt at same
    split at same <;> cases same

theorem query (operation : Operation) (read : ι → Except StoreError α) :
    Finds (query team operation read : Sync ε ι α) := by
  intro run after name failed
  obtain ⟨cause, stored, -⟩ := query_eq_error failed
  cases stored

theorem commit (write : Write) (change : ι → Except StoreError (α × ι)) :
    Finds (commit team write change : Sync ε ι α) := by
  intro run after name failed
  obtain ⟨cause, stored, -⟩ := commit_eq_error failed
  cases stored

theorem performAll (total count : Nat) (writes : List FileWrite) :
    Finds (performAll team backend projectId total count writes : Sync ε ι Unit) := by
  intro run after name failed
  obtain ⟨_, _, _, cause, _, -, stored, -⟩ := performAll_eq_error failed
  cases stored

theorem orUndo {step : Sync ε ι α} (finds : Finds step) (undo : Sync ε ι β) :
    Finds (orUndo step undo) := by
  intro run after name failed
  obtain ⟨between, here, -⟩ := orUndo_eq_error failed
  exact finds run between name here

theorem preparedPlan (setup : Setup) (listing : List RemoteFile) :
    Finds (preparedPlan team backend setup projectId listing : Sync ε ι Plan) := by
  refine bind (bind (query _ _) fun hashes => pure _) fun plan => ?_
  split
  · exact work _
  · exact pure _

theorem importedRecords (setup : Setup) (listing : List RemoteFile) :
    Finds (importedRecords team setup projectId listing : Sync ε ι (List FileRecord)) := by
  refine bind (report _) fun _ => bind (work _) fun extracted => ?_
  cases extracted with
  | none => exact nothingToIndex projectId
  | some files =>
    dsimp only
    split
    · exact nothingToIndex projectId
    · exact pure files

/-- Whatever becomes of a project that was found, it was found. -/
theorem settle (setup : Setup) (remote : RemoteProject) (indexed : Bool) :
    Finds (settle team backend setup projectId remote indexed : Sync ε ι Outcome) := by
  cases indexed with
  | true =>
    refine bind (bind (preparedPlan setup remote.files) fun plan => ?_) fun report => pure _
    exact bind (performAll _ _ _) fun _ => pure _
  | false =>
    refine bind (importedRecords setup remote.files) fun files => ?_
    refine bind (bind (commit _ _) fun _ => ?_) fun _ => pure _
    exact orUndo (performAll _ _ _) _

end Finds

/-! ## Syncs by the result of the lookup -/

section

variable {team : Collaborators ε} {backend : Backend ι} {setup : Setup} {address projectId : String}
variable {run : Run ε ι}

/-- A lookup that gives no project ends the sync, and all that the sync did is to report that it
looks the project up. -/
theorem syncProject_of_unresolved {world : ε} {result : Except Chain (Option RemoteProject)}
    (spelled : Address.projectId? address = some projectId)
    (answered : team.resolve address run.session.world = (result, world))
    (unfound : ∀ remote, result ≠ .ok (some remote)) :
    ∃ error, syncProject team backend setup address run =
        (.error error, ⟨⟨world, run.session.trace ++ [.reported (.resolving projectId)]⟩,
          run.index⟩) ∧
      (result = .ok none ∧ error = .notFound projectId ∨
        ∃ chain, result = .error chain ∧ error = .host chain) := by
  let announced : Run ε ι := onSession (·.record (.reported (.resolving projectId))) run
  let last : Run ε ι := onSession (fun session => { session with world := world }) announced
  have resolving : resolve team address announced = (result.mapError .host, last) :=
    resolve_of_answered answered
  obtain ⟨error, looking, reason⟩ :
      ∃ error, resolveProject team address projectId announced = (.error error, last) ∧
        (result = .ok none ∧ error = .notFound projectId ∨
          ∃ chain, result = .error chain ∧ error = .host chain) := by
    rcases result with chain | _ | remote
    · exact ⟨.host chain, bind_apply_of_error resolving _, .inr ⟨chain, rfl, rfl⟩⟩
    · refine ⟨.notFound projectId, ?_, .inl ⟨rfl, rfl⟩⟩
      rw [resolveProject, bind_apply_of_ok resolving]
      rfl
    · exact absurd rfl (unfound remote)
  have surveyed : survey team backend setup address run = (.error error, last) := by
    rw [survey, bind_apply_of_ok (projectIdOf_of_spelled spelled)]
    exact bind_apply_of_error looking _
  exact ⟨error, bind_apply_of_error surveyed _, reason⟩

/-- A sync of a project that was found does not end for want of it. -/
theorem syncProject_of_found {remote : RemoteProject} {world : ε} {after : Run ε ι} {name : String}
    (spelled : Address.projectId? address = some projectId)
    (resolved : team.resolve address run.session.world = (.ok (some remote), world)) :
    syncProject team backend setup address run ≠ (.error (.notFound name), after) := by
  intro failed
  rcases bind_eq_error_iff.1 failed with unsurveyed | ⟨⟨id, found, indexed⟩, between, -, rest⟩
  · rcases survey_error_cases spelled resolved unsurveyed with
      ⟨chain, mirroring, -⟩ | ⟨_, -, ⟨chain, refusal, -⟩ | ⟨cause, unread, -⟩⟩
    · cases mirroring
    · cases refusal
    · cases unread
  · have finds : Finds (do
        let outcome ← settle team backend setup id found indexed
        report (.finished id)
        pure outcome : Sync ε ι Outcome) :=
      .bind (.settle setup found indexed) fun outcome => .bind (.report _) fun _ => .pure outcome
    exact finds between after name rest

/-- A sync ends for want of the project exactly if the lookup gives none. -/
theorem syncProject_eq_notFound_iff {world : ε} {result : Except Chain (Option RemoteProject)}
    (answered : team.resolve address run.session.world = (result, world))
    (unnamed : Address.projectId? address = none → result = .ok none) (name : String) :
    (syncProject team backend setup address run).1 = .error (.notFound name) ↔
      result = .ok none ∧ name = (Address.projectId? address).getD address := by
  cases spelled : Address.projectId? address with
  | none =>
    have absent : result = .ok none := unnamed spelled
    rw [syncProject_unnamed spelled]
    constructor
    · rintro ⟨⟩
      exact ⟨absent, rfl⟩
    · rintro ⟨-, rfl⟩
      rfl
  | some projectId =>
    by_cases unfound : ∀ remote, result ≠ .ok (some remote)
    · obtain ⟨error, synced, ⟨absent, rfl⟩ | ⟨chain, failed, rfl⟩⟩ :=
        syncProject_of_unresolved spelled answered unfound
      · rw [synced]
        constructor
        · rintro ⟨⟩
          exact ⟨absent, rfl⟩
        · rintro ⟨-, rfl⟩
          rfl
      · rw [synced, failed]
        exact iff_of_false nofun fun both => nomatch both.1
    · obtain ⟨remote, found⟩ : ∃ remote, result = .ok (some remote) := by
        simpa using unfound
      rw [found] at answered ⊢
      refine iff_of_false (fun ended => ?_) fun both => nomatch both.1
      rcases synced : syncProject team backend setup address run with ⟨outcome, after⟩
      rw [synced] at ended
      cases ended
      exact syncProject_of_found spelled answered synced

end

/-- **How the lookup of a sync ends, and what becomes of the sync.** The lookup takes the turns of
one of the ways to end and no others. There is no project exactly if the address spells none or
there is no repository, and exactly then the sync ends with that. What is found is complete. The
lookup ends with the client exactly if the client stops after one of its turns. In every other case
the lookup fails, and the sync fails with its failure. If the lookup fails or ends with the client,
the sync comes to nothing: it did no more than to report that it looks the project up. -/
theorem syncProject_lookup (network : Network ν) (client : Client) (part : ε → ν)
    (team : Collaborators ε) (networked : team.Networked network client part)
    (backend : Backend ι) (setup : Setup) (address : String) (run : Run ε ι) :
    ∃ taken ending last,
      Client.resolve network.journaled client address ⟨part run.session.world, []⟩ =
          (ending, ⟨last, taken.flatMap (Pass.deeds client)⟩) ∧
        Client.Lookup network client address (part run.session.world) taken ending ∧
        (ending = .returned (.ok none) ↔ Address.projectId? address = none ∨
          Client.Absent network client address (part run.session.world)) ∧
        (∀ remote, ending = .returned (.ok (some remote)) ↔
          Client.Complete network client address (part run.session.world) taken remote) ∧
        (∀ remote, ending = .returned (.ok (some remote)) →
          Address.projectId? address = some remote.project.id) ∧
        (ending = .stopped ↔ ∃ pass ∈ taken, pass.turn.stops client pass.url = true) ∧
        (∀ name, (syncProject team backend setup address run).1 = .error (.notFound name) ↔
          ending = .returned (.ok none) ∧ name = (Address.projectId? address).getD address) ∧
        (∀ chain, ending = .returned (.error chain) →
          (syncProject team backend setup address run).1 = .error (.host chain)) ∧
        ((ending = .stopped ∨ ∃ chain, ending = .returned (.error chain)) →
          ∃ projectId error after, Address.projectId? address = some projectId ∧
            syncProject team backend setup address run = (.error error, after) ∧
            after.index = run.index ∧
            after.session.trace = run.session.trace ++ [.reported (.resolving projectId)]) := by
  obtain ⟨taken, ending, lookup⟩ :=
    Client.exists_lookup network client address (part run.session.world)
  obtain ⟨last, resolved⟩ := lookup.resolve_eq []
  -- The parties of the sync give the same without a journal.
  have plain := congrArg Prod.fst
    (Client.resolve_plain network client ⟨part run.session.world, []⟩ address)
  have answered : team.resolve address run.session.world =
      (ending.answer, (team.resolve address run.session.world).2) := by
    refine Prod.ext ((networked address run.session.world).trans ?_) rfl
    rw [← plain, resolved]
    rfl
  have comesToNothing (chain : Chain) (failed : ending.answer = .error chain) :
      ∃ projectId after, Address.projectId? address = some projectId ∧
        syncProject team backend setup address run = (.error (.host chain), after) ∧
        after.index = run.index ∧
        after.session.trace = run.session.trace ++ [.reported (.resolving projectId)] := by
    rw [failed] at answered
    cases spelled : Address.projectId? address with
    | none =>
      -- An address that spells no project is not looked up.
      rw [lookup.eq_none_iff.2 (.inl spelled)] at failed
      cases failed
    | some projectId =>
      obtain ⟨error, synced, ⟨absent, -⟩ | ⟨_, ⟨⟩, rfl⟩⟩ :=
        syncProject_of_unresolved spelled answered nofun
      · cases absent
      · exact ⟨projectId, _, rfl, synced, rfl, rfl⟩
  refine ⟨taken, ending, last, resolved, lookup, lookup.eq_none_iff,
    fun remote => lookup.eq_some_iff, fun remote found => (lookup.eq_some_iff.1 found).id_eq,
    lookup.eq_stopped_iff, fun name => ?_, ?_, ?_⟩
  · rw [← Ending.answer_eq_ok_iff]
    exact syncProject_eq_notFound_iff answered
      (fun unnamed => Ending.answer_eq_ok_iff.2 (lookup.eq_none_iff.2 (.inl unnamed))) name
  · rintro chain rfl
    obtain ⟨projectId, after, -, synced, -⟩ := comesToNothing chain rfl
    exact congrArg Prod.fst synced
  · rintro (rfl | ⟨chain, rfl⟩)
    · obtain ⟨projectId, after, spelled, synced, kept⟩ := comesToNothing _ rfl
      exact ⟨projectId, _, after, spelled, synced, kept⟩
    · obtain ⟨projectId, after, spelled, synced, kept⟩ := comesToNothing chain rfl
      exact ⟨projectId, _, after, spelled, synced, kept⟩

/-! ## Four lookups -/

/-- A server that answers these paths only. -/
def serving (routes : List Route) (index : MemoryIndex) : Run (Stage × Server) MemoryIndex :=
  opened (Scene.opening [] [] [] index) (Server.start true routes)

/-- A server that knows nothing, so that there is no repository either. -/
def forgetful : Run (Stage × Server) MemoryIndex :=
  serving [] (Scene.indexed [Scene.entry "A.java" "1"])

/-- A server that knows the repository of a project, but not its default branch. -/
def branchless : Run (Stage × Server) MemoryIndex :=
  serving ((reporting "").routes.take 1) (Scene.indexed [Scene.entry "A.java" "1"])

/-- A server that knows nothing, either, and has no requests left until a time that is beyond the
calendar. -/
def exhausted : Run (Stage × Server) MemoryIndex :=
  serving [⟨"/repos/o/p", [.answer ⟨404, Client.endless, []⟩]⟩]
    (Scene.indexed [Scene.entry "A.java" "1"])

/-- The lookup of the project of a run. -/
def lookup (run : Run (Stage × Server) MemoryIndex) :
    Ending (Except Chain (Option RemoteProject)) × Journal Server :=
  Client.resolve Server.network.journaled plainClient "o/p" ⟨run.session.world.2, []⟩

theorem lookup_forgetful : (lookup forgetful).1 = .returned (.ok none) := by
  decide +kernel

theorem lookup_branchless :
    (lookup branchless).1 = .returned (.error ["default branch main of o/p not found"]) := by
  decide +kernel

theorem lookup_cutOff :
    (lookup cutOff).1.answer.toOption.map (·.map fun remote =>
      remote.files.map RemoteFile.path) = some (some ["A.java"]) := by
  decide +kernel

/-- A repository that is not there is a project that is not there, and a branch that is not there is
a failure, which leaves the indexed project alone. Where all three requests succeed, the project is
complete. -/
theorem syncProject_lookup_missing :
    (networkedSync forgetful).1 = .error (.notFound "o/p") ∧
      ((networkedSync branchless).1 = .error (.host ["default branch main of o/p not found"]) ∧
        (networkedSync branchless).2.index = branchless.index) ∧
      ∃ taken remote, Client.Complete Server.network plainClient "o/p" cutOff.session.world.2 taken
        remote ∧ remote.files.map RemoteFile.path = ["A.java"] := by
  have named : Address.projectId? "o/p" = some "o/p" := by decide +kernel
  refine ⟨?_, ?_, ?_⟩
  · obtain ⟨taken, ending, last, resolved, -, -, -, -, -, ends, -⟩ := syncProject_lookup
      Server.network plainClient Prod.snd networking networked_networking MemoryIndex.backend
      Scene.setup "o/p" forgetful
    have absent := lookup_forgetful
    rw [lookup, resolved] at absent
    exact (ends "o/p").2 ⟨absent, by rw [named]; rfl⟩
  · obtain ⟨taken, ending, last, resolved, -, -, -, -, -, -, fails, idles⟩ := syncProject_lookup
      Server.network plainClient Prod.snd networking networked_networking MemoryIndex.backend
      Scene.setup "o/p" branchless
    have failed := lookup_branchless
    rw [lookup, resolved] at failed
    obtain ⟨projectId, error, after, -, synced, kept, -⟩ := idles (.inr ⟨_, failed⟩)
    refine ⟨fails _ failed, ?_⟩
    rw [networkedSync, synced]
    exact kept
  · obtain ⟨taken, ending, last, resolved, -, -, complete, -⟩ := syncProject_lookup Server.network
      plainClient Prod.snd networking networked_networking MemoryIndex.backend Scene.setup "o/p"
      cutOff
    have listed := lookup_cutOff
    rw [lookup, resolved] at listed
    rcases ending with (chain | _ | remote) | _
    · cases listed
    · cases listed
    · exact ⟨taken, remote, (complete remote).1 rfl, Option.some.inj (Option.some.inj listed)⟩
    · cases listed

/-- **A limit that is beyond the calendar ends a lookup with the client**, whatever the answer says.
The only answer says that there is no repository, but the lookup does not give that there is no such
project, and the sync does not end with that. -/
theorem syncProject_lookup_stopped :
    (∃ request, (lookup exhausted).2.deeds =
        [.sent request (.answered ⟨404, Client.endless, []⟩) Server.opening]) ∧
      (lookup exhausted).1 = .stopped ∧
      (networkedSync exhausted).1 ≠ .error (.notFound "o/p") := by
  let url : Url :=
    ⟨"http".toList, [], [], some (.address4 2130706433), none, "/repos/o/p".toList, [], []⟩
  refine ⟨⟨⟨url, none⟩, ?_⟩, ?_, ?_⟩
  · decide +kernel
  · decide +kernel
  · decide +kernel

end SourceIndex.Sync
