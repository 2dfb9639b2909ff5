import SourceIndex.Proofs.Index.Refusals
import SourceIndex.Proofs.Sync.Isolation

/-!
# What a call depends on

A call for a project asks the outside parties, and it asks and changes the index. From two runs
whose parties answer alike and whose indexes have enough in common, it ends with the same result,
adds the same acts to the trace, and leaves two such runs (`agrees_perform`). This is so step by
step: `Run.Alike` relates the two runs, and every step of a call agrees on it.

That the parties answer alike is told by a relation between their worlds that all their answers
respect (`Collaborators.Consistent`). If it relates any two worlds, then no answer depends on what
was asked before.

What the indexes have in common is told by a relation that the operations for the project respect
(`Backend.Congruence`). Indexes may have the obstacles and all that is within the project in common
(`Storage.Refusals.congruence`), or they may be the same (`Backend.congruence_eq`).
-/

set_option autoImplicit false

namespace SourceIndex

open Fallible

variable {ε ι ρ : Type}

/-! ## Parties that answer alike -/

/-- The answers are the same and leave worlds that are alike. -/
def SameAnswer {α : Type} (alike : ε → ε → Prop) (left right : α × ε) : Prop :=
  left.1 = right.1 ∧ alike left.2 right.2

/-- In worlds that are alike the parties answer every question in the same way and leave worlds that
are alike. -/
structure Collaborators.Consistent (team : Collaborators ε) (alike : ε → ε → Prop) : Prop where
  resolve : ∀ {left right : ε}, alike left right → ∀ address,
    SameAnswer alike (team.resolve address left) (team.resolve address right)
  mirror : ∀ {left right : ε}, alike left right → ∀ call,
    SameAnswer alike (team.mirror call left) (team.mirror call right)
  ask : ∀ {left right : ε}, alike left right → ∀ kind payload,
    SameAnswer alike (team.ask kind payload left) (team.ask kind payload right)
  read : ∀ {left right : ε}, alike left right → ∀ path, team.read path left = team.read path right
  pathExists : ∀ {left right : ε}, alike left right → ∀ path,
    team.pathExists path left = team.pathExists path right
  refuse : ∀ {left right : ε}, alike left right → ∀ operation,
    SameAnswer alike (team.refuse operation left) (team.refuse operation right)

/-! ## Indexes with something in common -/

/-- From related indexes an operation for the project ends in the same way and leaves related
indexes; so does every write that is covered, as all writes of the project are. -/
structure Backend.Congruence (backend : Backend ι) (projectId : String) (covers : Write → Prop)
    (common : ι → ι → Prop) : Prop where
  covers_own : ∀ {write : Write}, write.IsOf projectId → covers write
  hasProject : ∀ {left right : ι}, common left right →
    backend.hasProject left projectId = backend.hasProject right projectId
  fileHashes : ∀ {left right : ι}, common left right →
    backend.fileHashes left projectId = backend.fileHashes right projectId
  write : ∀ {left right : ι} {write : Write}, common left right → covers write →
    (∃ error, backend.write left write = .error error ∧ backend.write right write = .error error) ∨
      ∃ after after', backend.write left write = .ok after ∧
        backend.write right write = .ok after' ∧ common after after'
  deleteProject : ∀ {left right : ι}, common left right →
    (∃ error, backend.deleteProject left projectId = .error error ∧
        backend.deleteProject right projectId = .error error) ∨
      ∃ count after after', backend.deleteProject left projectId = .ok (count, after) ∧
        backend.deleteProject right projectId = .ok (count, after') ∧ common after after'

/-- What an operation for a project does is told by what is within the project and by what is in its
way. -/
theorem Storage.Refusals.congruence [Row ρ] {backend : Backend ι} {storage : Storage backend ρ}
    (refusals : storage.Refusals) (projectId : String) :
    backend.Congruence projectId (Write.IsOf projectId) fun left right =>
      refusals.obstacle left = refusals.obstacle right ∧
        (storage.holdings left).within projectId = (storage.holdings right).within projectId where
  covers_own own := own
  hasProject common := refusals.hasProject_congr common.1 common.2
  fileHashes common := refusals.fileHashes_congr common.1 common.2
  write common own := refusals.write_cases common.1 common.2 own
  deleteProject common := refusals.deleteProject_cases common.1 common.2

/-- The same index does the same. -/
theorem Backend.congruence_eq (backend : Backend ι) (projectId : String) :
    backend.Congruence projectId (fun _ => True) Eq where
  covers_own _ := trivial
  hasProject common := congrArg (backend.hasProject · projectId) common
  fileHashes common := congrArg (backend.fileHashes · projectId) common
  write := by
    rintro index _ write rfl -
    cases ended : backend.write index write with
    | error error => exact .inl ⟨error, rfl, rfl⟩
    | ok after => exact .inr ⟨after, after, rfl, rfl, rfl⟩
  deleteProject := by
    rintro index _ rfl
    rcases ended : backend.deleteProject index projectId with error | ⟨count, after⟩
    · exact .inl ⟨error, rfl, rfl⟩
    · exact .inr ⟨count, after, after, rfl, rfl, rfl⟩

/-! ## Sessions and runs that are alike -/

/-- The worlds are alike, and since the start of either session the same acts were recorded. -/
structure Session.Alike (alike : ε → ε → Prop) (start start' : List Act)
    (left right : Session ε) : Prop where
  world : alike left.world right.world
  acts : ∃ acts, left.trace = start ++ acts ∧ right.trace = start' ++ acts

namespace Session.Alike

variable {alike : ε → ε → Prop} {start start' : List Act} {left right : Session ε}

theorem of_record (same : Alike alike start start' left right) (act : Act) {world world' : ε}
    (worlds : alike world world') : Alike alike start start'
      { (left.record act) with world := world } { (right.record act) with world := world' } := by
  obtain ⟨acts, here, there⟩ := same.acts
  refine ⟨worlds, acts ++ [act], ?_, ?_⟩
  · exact (congrArg (· ++ [act]) here).trans (List.append_assoc _ _ _)
  · exact (congrArg (· ++ [act]) there).trans (List.append_assoc _ _ _)

end Session.Alike

/-- The sessions are alike, and the indexes are related. -/
structure Run.Alike (common : ι → ι → Prop) (alike : ε → ε → Prop) (start start' : List Act)
    (left right : Run ε ι) : Prop where
  session : Session.Alike alike start start' left.session right.session
  index : common left.index right.index

namespace Run.Alike

variable {common : ι → ι → Prop} {alike : ε → ε → Prop} {start start' : List Act}
variable {left right : Run ε ι}

theorem of_record (same : Alike common alike start start' left right) (act : Act)
    {world world' : ε} (worlds : alike world world') :
    Alike common alike start start'
      ⟨{ (left.session.record act) with world := world }, left.index⟩
      ⟨{ (right.session.record act) with world := world' }, right.index⟩ :=
  ⟨same.session.of_record act worlds, same.index⟩

theorem of_world (same : Alike common alike start start' left right)
    {world world' : ε} (worlds : alike world world') :
    Alike common alike start start'
      ⟨{ left.session with world := world }, left.index⟩
      ⟨{ right.session with world := world' }, right.index⟩ :=
  ⟨⟨worlds, same.session.acts⟩, same.index⟩

end Run.Alike

/-! ## Steps that agree -/

namespace Extraction

variable {team : Collaborators ε} {alike : ε → ε → Prop} {start start' : List Act}

/-- Extraction does the same in sessions that are alike. -/
theorem pervasive_agrees (consistent : team.Consistent alike) :
    Pervasive team fun (α : Type) (work : Work ε α) =>
      Agrees (Session.Alike alike start start') work where
  toComposable := Agrees.composable
  asking kind payload := by
    intro left right same
    obtain ⟨answers, worlds⟩ := consistent.ask same.world kind payload
    unfold ask
    dsimp only
    rw [answers]
    cases (team.ask kind payload right.world).1 with
    | text answer => exact ⟨rfl, same.of_record _ worlds⟩
    | failed error => exact ⟨rfl, same.of_record _ worlds⟩
    | crashed => exact ⟨rfl, same.of_record _ worlds⟩
  reading path := by
    intro left right same
    refine ⟨?_, same.of_record _ same.world⟩
    exact congrArg (fun content => Except.ok (content.map Utf8.asciiPart))
      (consistent.read same.world path)
  attempting := by
    intro α work agrees left right same
    obtain ⟨outcomes, ended⟩ := agrees left right same
    unfold attempt
    rcases here : work left with ⟨outcome, after⟩
    rcases there : work right with ⟨outcome', after'⟩
    rw [here, there] at outcomes ended
    cases outcomes
    rcases outcome with (error | _) | value
    · dsimp only
      split
      · exact ⟨rfl, ended⟩
      · exact ⟨rfl, ended⟩
    · exact ⟨rfl, ended⟩
    · exact ⟨rfl, ended⟩

end Extraction

namespace Sync

variable {α : Type} {team : Collaborators ε} {backend : Backend ι} {common : ι → ι → Prop}
variable {alike : ε → ε → Prop} {start start' : List Act}

/-! ## Questions -/

theorem agrees_report (event : Event) :
    Agrees (Run.Alike common alike start start') (report event : Sync ε ι Unit) :=
  fun _ _ same => ⟨rfl, same.of_record _ same.session.world⟩

theorem agrees_work {task : Work ε α} (agrees : Agrees (Session.Alike alike start start') task) :
    Agrees (Run.Alike common alike start start') (work task : Sync ε ι α) := by
  intro left right same
  obtain ⟨outcomes, ended⟩ := agrees left.session right.session same.session
  unfold work
  rcases here : task left.session with ⟨outcome, session⟩
  rcases there : task right.session with ⟨outcome', session'⟩
  rw [here, there] at outcomes ended
  cases outcomes
  cases outcome with
  | error halt => exact ⟨rfl, ended, same.index⟩
  | ok value => exact ⟨rfl, ended, same.index⟩

section

variable (consistent : team.Consistent alike)
include consistent

theorem agrees_resolve (address : String) :
    Agrees (Run.Alike common alike start start')
      (resolve team address : Sync ε ι (Option RemoteProject)) := by
  intro left right same
  obtain ⟨answers, worlds⟩ := consistent.resolve same.session.world address
  unfold resolve
  dsimp only
  rw [answers]
  cases (team.resolve address right.session.world).1 with
  | ok found => exact ⟨rfl, same.of_world worlds⟩
  | error chain => exact ⟨rfl, same.of_world worlds⟩

theorem agrees_mirror (call : MirrorCall) :
    Agrees (Run.Alike common alike start start')
      (mirror team call : Sync ε ι Unit) := by
  intro left right same
  obtain ⟨answers, worlds⟩ := consistent.mirror same.session.world call
  unfold mirror
  dsimp only
  rw [answers]
  cases (team.mirror call right.session.world).1 with
  | ok done => exact ⟨rfl, same.of_record _ worlds⟩
  | error chain => exact ⟨rfl, same.of_record _ worlds⟩

theorem agrees_hasWorkingCopy (path : String) :
    Agrees (Run.Alike common alike start start')
      (hasWorkingCopy team path : Sync ε ι Bool) := by
  intro left right same
  exact ⟨congrArg Except.ok (consistent.pathExists same.session.world _), same⟩

theorem agrees_permit (operation : Operation) :
    Agrees (Run.Alike common alike start start')
      (permit team operation : Sync ε ι Unit) := by
  intro left right same
  obtain ⟨answers, worlds⟩ := consistent.refuse same.session.world operation
  unfold permit
  dsimp only
  rw [answers]
  cases (team.refuse operation right.session.world).1 with
  | none => exact ⟨rfl, same.of_world worlds⟩
  | some chain => exact ⟨rfl, same.of_record _ worlds⟩

/-- A question that both indexes answer in the same way. -/
theorem agrees_query {operation : Operation} {read : ι → Except StoreError α}
    (reads : ∀ left right : Run ε ι, Run.Alike common alike start start' left right →
      read left.index = read right.index) :
    Agrees (Run.Alike common alike start start')
      (query team operation read : Sync ε ι α) := by
  refine Agrees.composable.bind (agrees_permit consistent operation) fun _ _ => ?_
  intro left right same
  dsimp only
  rw [reads left right same]
  cases read right.index with
  | ok value => exact ⟨rfl, same⟩
  | error error => exact ⟨rfl, same.of_record _ same.session.world⟩

section

variable {projectId : String} {covers : Write → Prop}
  (congruence : backend.Congruence projectId covers common)
include congruence

/-- Before its first write a call agrees on runs that are alike. -/
theorem inquiring_agrees :
    Inquiring team backend projectId fun (α : Type) (step : Sync ε ι α) =>
      Agrees (Run.Alike common alike start start') step where
  toComposable := Agrees.composable
  report := agrees_report
  resolve := agrees_resolve consistent
  mirror := agrees_mirror consistent
  hasWorkingCopy := agrees_hasWorkingCopy consistent
  hasProject := agrees_query consistent fun _ _ same => congruence.hasProject same.index
  fileHashes := agrees_query consistent fun _ _ same => congruence.fileHashes same.index

/-! ## Writes -/

omit congruence in
/-- A change that fails with the same error on both indexes, or succeeds on both and leaves related
ones. -/
theorem agrees_commit {write : Write} {change : ι → Except StoreError (α × ι)}
    (changes : ∀ left right : Run ε ι, Run.Alike common alike start start' left right →
      (∃ error, change left.index = .error error ∧ change right.index = .error error) ∨
        ∃ value after after', change left.index = .ok (value, after) ∧
          change right.index = .ok (value, after') ∧ common after after') :
    Agrees (Run.Alike common alike start start')
      (commit team write change : Sync ε ι α) := by
  refine Agrees.composable.bind (agrees_permit consistent write.operation) fun _ _ => ?_
  intro left right same
  dsimp only
  rcases changes left right same with
    ⟨error, here, there⟩ | ⟨value, after, after', here, there, kept⟩
  · rw [here, there]
    exact ⟨rfl, same.of_record _ same.session.world⟩
  · rw [here, there]
    exact ⟨rfl, same.session.of_record _ same.session.world, kept⟩

theorem agrees_write {write : Write} (covered : covers write) :
    Agrees (Run.Alike common alike start start')
      (commit team write (silent fun index => backend.write index write) : Sync ε ι Unit) := by
  refine agrees_commit consistent fun left right same => ?_
  rcases congruence.write same.index covered with
    ⟨error, here, there⟩ | ⟨after, after', here, there, kept⟩
  · exact .inl ⟨error, map_eq_error_iff.2 here, map_eq_error_iff.2 there⟩
  · exact .inr ⟨(), after, after', map_eq_ok_iff.2 ⟨after, here, rfl⟩,
      map_eq_ok_iff.2 ⟨after', there, rfl⟩, kept⟩

theorem agrees_performAll {total count : Nat} {writes : List FileWrite}
    (own : ∀ write ∈ writes, write.write.IsOf projectId) :
    Agrees (Run.Alike common alike start start')
      (performAll team backend projectId total count writes : Sync ε ι Unit) := by
  induction writes generalizing count with
  | nil => exact Agrees.composable.pure ()
  | cons write rest ih =>
    rw [performAll, perform_eq]
    refine Agrees.composable.bind (agrees_write consistent congruence
      (congruence.covers_own (own write List.mem_cons_self)))
      fun _ _ => ?_
    refine Agrees.composable.bind (agrees_report _) fun _ _ => ?_
    exact ih fun later member => own later (List.mem_cons_of_mem write member)

theorem agrees_removeProject :
    Agrees (Run.Alike common alike start start')
      (removeProject team backend projectId : Sync ε ι Nat) :=
  agrees_commit consistent fun _ _ same => congruence.deleteProject same.index

omit consistent congruence in
theorem agrees_orUndo {β : Type} {step : Sync ε ι α} {undo : Sync ε ι β}
    (steps : Agrees (Run.Alike common alike start start') step)
    (undoes : Agrees (Run.Alike common alike start start') undo) :
    Agrees (Run.Alike common alike start start') (orUndo step undo) := by
  intro left right same
  obtain ⟨outcomes, ended⟩ := steps left right same
  unfold orUndo
  rcases here : step left with ⟨outcome, after⟩
  rcases there : step right with ⟨outcome', after'⟩
  rw [here, there] at outcomes ended
  cases outcomes
  cases outcome with
  | ok value => exact ⟨rfl, ended⟩
  | error error => exact ⟨rfl, (undoes after after' ended).2⟩

/-! ## Calls -/

theorem agrees_reconcile (setup : Setup) (listing : List RemoteFile) :
    Agrees (Run.Alike common alike start start')
      (reconcile team backend setup projectId listing : Sync ε ι Report) := by
  refine Agrees.composable.bind ((inquiring_agrees consistent congruence).preparedPlan
    ((Extraction.pervasive_agrees consistent).visiting _ _) agrees_work) fun planned prepared => ?_
  obtain ⟨before, between, prepared⟩ := prepared
  obtain ⟨hashes, answered, extracted⟩ := preparedPlan_eq_ok prepared
  have whole : Planned backend before.index projectId listing planned.writes :=
    fun _ => ⟨hashes, planned, answered, extracted, List.prefix_rfl⟩
  have own : ∀ write ∈ writesOf planned, write.write.IsOf projectId := by
    intro write member
    have written := List.mem_map_of_mem (f := FileWrite.write) member
    rw [map_write_writesOf] at written
    exact whole.isOf _ written
  exact Agrees.composable.bind (agrees_performAll consistent congruence own) fun _ _ =>
    Agrees.composable.pure _

theorem agrees_addProject {project : Project} (covered : covers (.createProject project))
    {listing : List RemoteFile} {files : List FileRecord}
    (listed : ∀ file ∈ files, file.Listed projectId listing) :
    Agrees (Run.Alike common alike start start')
      (addProject team backend projectId project files : Sync ε ι Unit) := by
  refine Agrees.composable.bind (agrees_write consistent congruence covered) fun _ _ => ?_
  refine agrees_orUndo (agrees_performAll consistent congruence fun write member => ?_)
    (agrees_removeProject consistent congruence)
  obtain ⟨file, asked, rfl⟩ := List.mem_map.1 member
  exact ⟨(listed file asked).projectId, (listed file asked).isIdOf⟩

theorem agrees_firstImport (setup : Setup) {remote : RemoteProject}
    (covered : covers (.createProject remote.project)) :
    Agrees (Run.Alike common alike start start')
      (firstImport team backend setup projectId remote : Sync ε ι Outcome) := by
  refine Agrees.composable.bind (composable_importedRecords
    ((Extraction.pervasive_agrees consistent).visiting _ _) agrees_work Agrees.composable
      agrees_report) fun files imported => ?_
  obtain ⟨before, after, imported⟩ := imported
  have listed := listed_of_importedRecords imported
  exact Agrees.composable.bind (agrees_addProject consistent congruence covered listed) fun _ _ =>
    Agrees.composable.pure _

theorem agrees_syncProject (setup : Setup) {address : String}
    (spelled : Address.projectId? address = some projectId)
    (offered : ∀ world remote after, team.resolve address world = (.ok (some remote), after) →
      covers (.createProject remote.project)) :
    Agrees (Run.Alike common alike start start')
      (syncProject team backend setup address : Sync ε ι Outcome) := by
  have surveys : Agrees (Run.Alike common alike start start')
      (survey team backend setup address : Sync ε ι (String × RemoteProject × Bool)) := by
    refine composable_survey Agrees.composable (fun other known => ?_) setup
    cases spelled.symm.trans known
    exact inquiring_agrees consistent congruence
  refine Agrees.composable.bind surveys fun surveyed survey => ?_
  obtain ⟨before, after, survey⟩ := survey
  obtain ⟨known, ⟨world, found⟩, -⟩ := survey_eq_ok survey
  obtain ⟨id, remote, indexed⟩ := surveyed
  cases spelled.symm.trans known
  refine Agrees.composable.bind ?_ fun _ _ =>
    Agrees.composable.bind (agrees_report _) fun _ _ => Agrees.composable.pure _
  unfold settle
  split
  · refine Agrees.composable.bind (agrees_reconcile consistent congruence setup remote.files) ?_
    exact fun _ _ => Agrees.composable.pure _
  · exact agrees_firstImport consistent congruence setup (offered _ _ _ found)

theorem agrees_deleteProject {address : String}
    (spelled : Address.projectId? address = some projectId) :
    Agrees (Run.Alike common alike start start')
      (deleteProject team backend address : Sync ε ι Outcome) := by
  refine Agrees.composable.bind (composable_projectIdOf Agrees.composable address)
    fun id named => ?_
  obtain ⟨before, after, named⟩ := named
  cases spelled.symm.trans (projectIdOf_eq_ok named).1
  have asks : Agrees (Run.Alike common alike start start')
      (hasProject team backend projectId : Sync ε ι Bool) :=
    (inquiring_agrees consistent congruence).hasProject
  refine Agrees.composable.bind asks fun indexed _ => ?_
  split
  · refine Agrees.composable.bind (agrees_removeProject consistent congruence) fun _ _ => ?_
    exact Agrees.composable.bind (agrees_report _) fun _ _ => Agrees.composable.pure _
  · exact Agrees.composable.pure _

/-- **A call depends on nothing but what is alike.** From runs that are alike it ends with the same
result and leaves such runs. -/
theorem agrees_perform {call : Call} (spelled : Address.projectId? call.address = some projectId)
    (offered : ∀ world remote after, team.resolve call.address world = (.ok (some remote), after) →
      covers (.createProject remote.project)) :
    Agrees (Run.Alike common alike start start')
      (call.perform team backend : Sync ε ι Outcome) := by
  cases call with
  | sync setup address => exact agrees_syncProject consistent congruence setup spelled offered
  | delete address => exact agrees_deleteProject consistent congruence spelled

end

end

end Sync

end SourceIndex
