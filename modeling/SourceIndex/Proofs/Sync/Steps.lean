import SourceIndex.Proofs.Extraction
import SourceIndex.Proofs.Index.Anchoring
import SourceIndex.Proofs.Index.Storage
import SourceIndex.Proofs.Plan.Application
import SourceIndex.Proofs.Plan.Making

/-!
# What the steps of a sync do

A step that reports, asks an outside party, extracts or reads the index leaves the index alone and
attempts no write (`Run.Untouched`). Everything that a sync does before its first write is made of
such steps, and whatever composable property they have it has as well (`Inquiring`). A write to the
index ends in one of two ways: it is done and the trace shows it (`Run.Wrote`), or it changes
nothing and the trace shows what failed (`Run.Failed`).

Writes in order are done up to the first that fails. `Performed` says what a run of writes leaves
behind: the acts in the trace and the index after exactly these writes. A list of writes that ends
well is performed in full (`performAll_eq_ok`); one that ends with an error was performed up to a
write that failed, after which nothing follows (`performAll_eq_error`).

For a sync as a whole, what its parts gave is read off from its success: what was resolved, answered
and extracted (`survey_eq_ok`, `importedRecords_eq_ok`, `preparedPlan_eq_ok`).
-/

set_option autoImplicit false

namespace SourceIndex

open Fallible

variable {ε ι α : Type}

/-! ## Runs that leave the index alone -/

/-- From one run to the next the index stays, and only acts of some kind were added to the trace. -/
structure Run.Adds (allowed : Act → Prop) (before after : Run ε ι) : Prop where
  index : after.index = before.index
  session : before.session.Adds allowed after.session

/-- From one run to the next the index stays and no write to it is attempted. -/
abbrev Run.Untouched (before after : Run ε ι) : Prop :=
  Run.Adds (fun act => act.attemptsWrite = false) before after

/-- A failed operation changes nothing, and the trace shows it. -/
structure Run.Failed (operation : Operation) (cause : StoreError) (before after : Run ε ι) :
    Prop where
  index : after.index = before.index
  trace : after.session.trace = before.session.trace ++ [.failed operation cause]

/-- A write that was done changes the index, and the trace shows it. -/
structure Run.Wrote (backend : Backend ι) (write : Write) (before after : Run ε ι) : Prop where
  index : backend.write before.index write = .ok after.index
  trace : after.session.trace = before.session.trace ++ [.wrote write]

namespace Run.Adds

variable {allowed : Act → Prop}

instance : IsPreorder (Run ε ι) (Run.Adds allowed) where
  refl run := ⟨rfl, Session.Adds.refl run.session⟩
  trans _ _ _ earlier later :=
    ⟨later.index.trans earlier.index, earlier.session.trans later.session⟩

theorem of_record (run : Run ε ι) {act : Act} (harmless : allowed act) (world : ε) :
    Run.Adds allowed run ⟨{ (run.session.record act) with world := world }, run.index⟩ :=
  ⟨rfl, Session.Adds.of_record run.session harmless world⟩

theorem of_world (run : Run ε ι) (world : ε) :
    Run.Adds allowed run ⟨{ run.session with world := world }, run.index⟩ :=
  ⟨rfl, [], (List.append_nil _).symm, by simp⟩

/-- The failure of an operation leaves the index alone. -/
theorem of_failed {operation : Operation} {cause : StoreError} {before after : Run ε ι}
    (harmless : allowed (.failed operation cause))
    (failed : Run.Failed operation cause before after) : Run.Adds allowed before after :=
  ⟨failed.index, [.failed operation cause], failed.trace,
    fun _ member => List.mem_singleton.1 member ▸ harmless⟩

end Run.Adds

namespace Sync

variable {team : Collaborators ε} {backend : Backend ι} {allowed : Act → Prop}

/-! ## Steps that leave the index alone -/

theorem adds_report {event : Event} (harmless : allowed (.reported event)) :
    Keeps (Run.Adds allowed) (report event : Sync ε ι Unit) :=
  fun run => Run.Adds.of_record run harmless run.session.world

theorem adds_resolve (address : String) :
    Keeps (Run.Adds allowed) (resolve team address : Sync ε ι (Option RemoteProject)) := by
  intro run
  unfold resolve
  dsimp only
  split
  all_goals exact Run.Adds.of_world run _

theorem adds_mirror {call : MirrorCall} (harmless : allowed (.mirrored call)) :
    Keeps (Run.Adds allowed) (mirror team call : Sync ε ι Unit) := by
  intro run
  unfold mirror
  dsimp only
  split
  all_goals exact Run.Adds.of_record run harmless _

theorem mirrored_of_mirror {call : MirrorCall} {run after : Run ε ι} {value : Unit}
    (done : mirror team call run = (.ok value, after)) :
    team.mirror call run.session.world = (.ok (), after.session.world) := by
  unfold mirror at done
  dsimp only at done
  split at done
  · next mirrored =>
    cases done
    exact Prod.ext mirrored rfl
  · cases done

theorem adds_hasWorkingCopy (path : String) :
    Keeps (Run.Adds allowed) (hasWorkingCopy team path : Sync ε ι Bool) :=
  fun run => refl_of (Run.Adds allowed) run

theorem untouched_work {task : Work ε α} (writeless : Keeps Session.Writeless task) :
    Keeps Run.Untouched (work task : Sync ε ι α) := by
  intro run
  unfold work
  split
  · next value session done => exact ⟨rfl, writeless.ok done⟩
  · next halt session halted => exact ⟨rfl, writeless.error halted⟩

theorem work_eq_ok {task : Work ε α} {run after : Run ε ι} {value : α}
    (worked : work task run = (.ok value, after)) :
    ∃ session, task run.session = (.ok value, session) ∧
      after = { run with session := session } := by
  unfold work at worked
  split at worked
  · next found session done =>
    cases worked
    exact ⟨session, done, rfl⟩
  · cases worked

/-! ## Operations of the index -/

theorem permit_eq_ok {operation : Operation} {run after : Run ε ι} {value : Unit}
    (permitted : permit team operation run = (.ok value, after)) :
    after.index = run.index ∧ after.session.trace = run.session.trace := by
  unfold permit at permitted
  dsimp only at permitted
  split at permitted
  · cases permitted
    exact ⟨rfl, rfl⟩
  · cases permitted

theorem permit_eq_error {operation : Operation} {run after : Run ε ι} {error : SyncError}
    (refused : permit team operation run = (.error error, after)) :
    ∃ cause, error = .store cause ∧ Run.Failed operation cause run after := by
  unfold permit at refused
  dsimp only at refused
  split at refused
  · cases refused
  · next chain _ =>
    cases refused
    exact ⟨.refused chain, rfl, rfl, rfl⟩

theorem permitted_of_permit {operation : Operation} {run after : Run ε ι} {value : Unit}
    (done : permit team operation run = (.ok value, after)) :
    team.refuse operation run.session.world = (none, after.session.world) := by
  unfold permit at done
  dsimp only at done
  split at done
  · next permitted =>
    cases done
    exact Prod.ext permitted rfl
  · cases done

/-- Failing after a permission shows as the failure of the operation. -/
theorem failed_of_permit {operation : Operation} {run between : Run ε ι} {value : Unit}
    (permitted : permit team operation run = (.ok value, between)) (cause : StoreError) :
    Run.Failed operation cause run (onSession (·.record (.failed operation cause)) between) where
  index := (permit_eq_ok permitted).1
  trace := by
    rw [← (permit_eq_ok permitted).2]
    rfl

theorem query_eq_ok {operation : Operation} {read : ι → Except StoreError α} {run after : Run ε ι}
    {value : α} (answered : query team operation read run = (.ok value, after)) :
    read run.index = .ok value ∧ after.index = run.index ∧
      after.session.trace = run.session.trace := by
  obtain ⟨_, between, permitted, answered⟩ := bind_eq_ok_iff.1 answered
  obtain ⟨same, silent⟩ := permit_eq_ok permitted
  rw [← same]
  split at answered
  · next found given =>
    cases answered
    exact ⟨given, rfl, silent⟩
  · cases answered

theorem permitted_of_query {operation : Operation} {read : ι → Except StoreError α}
    {run after : Run ε ι} {value : α} (done : query team operation read run = (.ok value, after)) :
    team.refuse operation run.session.world = (none, after.session.world) := by
  obtain ⟨_, between, permitted, answered⟩ := bind_eq_ok_iff.1 done
  rw [permitted_of_permit permitted]
  split at answered
  · cases answered
    rfl
  · cases answered

theorem query_eq_error {operation : Operation} {read : ι → Except StoreError α}
    {run after : Run ε ι} {error : SyncError}
    (unanswered : query team operation read run = (.error error, after)) :
    ∃ cause, error = .store cause ∧ Run.Failed operation cause run after := by
  rcases bind_eq_error_iff.1 unanswered with refused | ⟨_, between, permitted, unanswered⟩
  · exact permit_eq_error refused
  · split at unanswered
    · cases unanswered
    · next cause _ =>
      cases unanswered
      exact ⟨cause, rfl, failed_of_permit permitted cause⟩

/-- A question is not answered if the outside world refuses it, or if the index cannot answer. -/
theorem query_error_cases {operation : Operation} {read : ι → Except StoreError α}
    {run after : Run ε ι} {error : SyncError}
    (unanswered : query team operation read run = (.error error, after)) :
    (∃ chain, error = .store (.refused chain) ∧
        (team.refuse operation run.session.world).1 = some chain) ∨
      ∃ cause, error = .store cause ∧ read run.index = .error cause := by
  rcases bind_eq_error_iff.1 unanswered with refused | ⟨_, between, permitted, unanswered⟩
  · unfold permit at refused
    dsimp only at refused
    split at refused
    · cases refused
    · next chain refusal =>
      cases refused
      exact .inl ⟨chain, rfl, refusal⟩
  · rw [← (permit_eq_ok permitted).1]
    split at unanswered
    · cases unanswered
    · next cause unread =>
      cases unanswered
      exact .inr ⟨cause, rfl, unread⟩

theorem commit_eq_ok {write : Write} {change : ι → Except StoreError (α × ι)}
    {run after : Run ε ι} {value : α}
    (committed : commit team write change run = (.ok value, after)) :
    change run.index = .ok (value, after.index) ∧
      after.session.trace = run.session.trace ++ [.wrote write] := by
  obtain ⟨_, between, permitted, committed⟩ := bind_eq_ok_iff.1 committed
  obtain ⟨same, silent⟩ := permit_eq_ok permitted
  rw [← same, ← silent]
  split at committed
  · next found index changed =>
    cases committed
    exact ⟨changed, rfl⟩
  · cases committed

theorem commit_eq_error {write : Write} {change : ι → Except StoreError (α × ι)}
    {run after : Run ε ι} {error : SyncError}
    (uncommitted : commit team write change run = (.error error, after)) :
    ∃ cause, error = .store cause ∧ Run.Failed write.operation cause run after := by
  rcases bind_eq_error_iff.1 uncommitted with refused | ⟨_, between, permitted, uncommitted⟩
  · exact permit_eq_error refused
  · split at uncommitted
    · cases uncommitted
    · next cause _ =>
      cases uncommitted
      exact ⟨cause, rfl, failed_of_permit permitted cause⟩

theorem adds_query {operation : Operation}
    (harmless : ∀ cause, allowed (.failed operation cause)) (read : ι → Except StoreError α) :
    Keeps (Run.Adds allowed) (query team operation read : Sync ε ι α) := by
  intro run
  rcases ended : query team operation read run with ⟨error | value, after⟩
  · obtain ⟨cause, -, failed⟩ := query_eq_error ended
    exact Run.Adds.of_failed (harmless cause) failed
  · obtain ⟨-, same, silent⟩ := query_eq_ok ended
    exact ⟨same, [], by rw [silent, List.append_nil], by simp⟩

/-! ## Everything before the first write -/

/-- A composable property that reports, questions to the outside parties and questions to the index
about one project have. -/
structure Inquiring (team : Collaborators ε) (backend : Backend ι) (projectId : String)
    (holds : (α : Type) → Sync ε ι α → Prop) : Prop extends Composable holds where
  report : ∀ event, holds Unit (report event)
  resolve : ∀ address, holds (Option RemoteProject) (resolve team address)
  mirror : ∀ call, holds Unit (mirror team call)
  hasWorkingCopy : ∀ path, holds Bool (hasWorkingCopy team path)
  hasProject : holds Bool (hasProject team backend projectId)
  fileHashes : holds Hashes (fileHashes team backend projectId)

theorem projectIdOf_of_spelled {address projectId : String} {run : Run ε ι}
    (spelled : Address.projectId? address = some projectId) :
    projectIdOf address run = (.ok projectId, run) := by
  rw [projectIdOf, spelled]
  rfl

theorem projectIdOf_eq_ok {address projectId : String} {run after : Run ε ι}
    (named : projectIdOf address run = (.ok projectId, after)) :
    Address.projectId? address = some projectId ∧ after = run := by
  cases spelled : Address.projectId? address with
  | none =>
    rw [projectIdOf, spelled] at named
    exact absurd named throw_ne_ok
  | some id =>
    rw [projectIdOf, spelled] at named
    obtain ⟨rfl, rfl⟩ := pure_eq_ok_iff.1 named
    exact ⟨rfl, rfl⟩

section

variable {holds : (α : Type) → Sync ε ι α → Prop} {address projectId : String}

theorem composable_projectIdOf (composable : Composable holds) (address : String) :
    holds String (projectIdOf address) := by
  unfold projectIdOf
  split
  · exact composable.pure _
  · exact composable.throw _

theorem Inquiring.resolveProject (inquiring : Inquiring team backend projectId holds)
    (address named : String) : holds RemoteProject (resolveProject team address named) := by
  refine inquiring.bind (inquiring.resolve address) fun found _ => ?_
  split
  · exact inquiring.pure _
  · exact inquiring.throw _

/-- A survey has what its steps have. The index is asked about the project that the address
spells. -/
theorem composable_survey (composable : Composable holds)
    (inquiring : ∀ projectId, Address.projectId? address = some projectId →
      Inquiring team backend projectId holds) (setup : Setup) :
    holds (String × RemoteProject × Bool) (survey team backend setup address) := by
  refine composable.bind (composable_projectIdOf composable address) fun projectId named => ?_
  obtain ⟨before, after, named⟩ := named
  have steps := inquiring projectId (projectIdOf_eq_ok named).1
  refine composable.bind (steps.report _) fun _ _ => ?_
  refine composable.bind (steps.resolveProject address projectId) fun remote _ => ?_
  refine composable.bind (steps.hasWorkingCopy _) fun present _ => ?_
  refine composable.bind (steps.report _) fun _ _ => ?_
  refine composable.bind (steps.mirror _) fun _ _ => ?_
  exact composable.bind steps.hasProject fun indexed _ => composable.pure _

variable {worked : (α : Type) → Work ε α → Prop} {setup : Setup} {listing : List RemoteFile}
variable (visiting : Extraction.Visiting team (setup.localPath projectId) listing worked)
  (working : ∀ {α : Type} {task : Work ε α}, worked α task → holds α (work task))
include visiting working

/-- A prepared plan extracts the records of listed files only. -/
theorem Inquiring.preparedPlan (inquiring : Inquiring team backend projectId holds) :
    holds Plan (preparedPlan team backend setup projectId listing) := by
  have loaded : holds Plan (loadPlan team backend projectId listing) :=
    inquiring.bind inquiring.fileHashes fun _ _ => inquiring.pure _
  refine inquiring.bind loaded fun plan found => ?_
  obtain ⟨before, after, found⟩ := found
  obtain ⟨hashes, last, -, made⟩ := bind_eq_ok_iff.1 found
  obtain ⟨rfl, -⟩ := pure_eq_ok_iff.1 made
  split
  · refine working (composable_preparePlan visiting.toComposable fun file asked => ?_)
    obtain ⟨remote, listed, rfl⟩ := Plan.listed_of_planned asked
    exact visiting.enrich _ _ _ (visiting.asksFile remote listed) (visiting.reads remote listed)
  · exact inquiring.pure _

theorem composable_importedRecords (composable : Composable holds)
    (reporting : ∀ event, holds Unit (report event)) :
    holds (List FileRecord) (importedRecords team setup projectId listing) := by
  refine composable.bind (reporting _) fun _ _ => ?_
  refine composable.bind (working (visiting_extractProject visiting)) fun found _ => ?_
  cases found with
  | none => exact composable.throw _
  | some files =>
    dsimp only
    split
    · exact composable.throw _
    · exact composable.pure files

end

/-- Whatever a sync asks before its first write leaves the index alone. It adds reports, mirror
calls and failed questions to the trace. -/
theorem inquiring_adds (team : Collaborators ε) (backend : Backend ι) (projectId : String)
    (reports : ∀ event, allowed (.reported event)) (mirrors : ∀ call, allowed (.mirrored call))
    (fails : ∀ operation cause, operation.method.isWrite = false →
      allowed (.failed operation cause)) :
    Inquiring team backend projectId fun (α : Type) (step : Sync ε ι α) =>
      Keeps (Run.Adds allowed) step where
  toComposable := Keeps.composable
  report event := adds_report (reports event)
  resolve := adds_resolve
  mirror call := adds_mirror (mirrors call)
  hasWorkingCopy := adds_hasWorkingCopy
  hasProject := adds_query (fun cause => fails _ cause rfl) _
  fileHashes := adds_query (fun cause => fails _ cause rfl) _

theorem inquiring_untouched (team : Collaborators ε) (backend : Backend ι) (projectId : String) :
    Inquiring team backend projectId fun (α : Type) (step : Sync ε ι α) =>
      Keeps Run.Untouched step :=
  inquiring_adds team backend projectId (fun _ => rfl) (fun _ => rfl) fun _ _ reading => reading

theorem untouched_report (event : Event) : Keeps Run.Untouched (report event : Sync ε ι Unit) :=
  adds_report rfl

theorem untouched_preparedPlan (setup : Setup) (projectId : String) (listing : List RemoteFile) :
    Keeps Run.Untouched (preparedPlan team backend setup projectId listing : Sync ε ι Plan) :=
  (inquiring_untouched team backend projectId).preparedPlan
    ((Extraction.pervasive_writeless team).visiting _ _) untouched_work

theorem untouched_importedRecords (setup : Setup) (projectId : String)
    (listing : List RemoteFile) :
    Keeps Run.Untouched
      (importedRecords team setup projectId listing : Sync ε ι (List FileRecord)) :=
  composable_importedRecords ((Extraction.pervasive_writeless team).visiting _ _) untouched_work
    Keeps.composable untouched_report

theorem untouched_survey (setup : Setup) (address : String) :
    Keeps Run.Untouched
      (survey team backend setup address : Sync ε ι (String × RemoteProject × Bool)) :=
  composable_survey Keeps.composable
    (fun projectId _ => inquiring_untouched team backend projectId) setup

/-! ## Writes of projects and files -/

theorem silent_eq_ok {change : ι → Except StoreError ι} {index after : ι} {value : Unit}
    (changed : silent change index = .ok (value, after)) : change index = .ok after := by
  obtain ⟨found, written, same⟩ := map_eq_ok_iff.1 changed
  cases same
  exact written

theorem createProject_eq_ok {project : Project} {run after : Run ε ι} {value : Unit}
    (created : createProject team backend project run = (.ok value, after)) :
    Run.Wrote backend (.createProject project) run after :=
  ⟨silent_eq_ok (commit_eq_ok created).1, (commit_eq_ok created).2⟩

theorem removeProject_eq_ok {id : String} {run after : Run ε ι} {count : Nat}
    (removed : removeProject team backend id run = (.ok count, after)) :
    Run.Wrote backend (.deleteProject id) run after :=
  ⟨map_eq_ok_iff.2 ⟨_, (commit_eq_ok removed).1, rfl⟩, (commit_eq_ok removed).2⟩

/-- A write of a file is the write to the index that it is. -/
theorem perform_eq (write : FileWrite) :
    (perform team backend write : Sync ε ι Unit) =
      commit team write.write (silent fun index => backend.write index write.write) := by
  cases write <;> rfl

theorem perform_eq_ok {write : FileWrite} {run after : Run ε ι} {value : Unit}
    (performed : perform team backend write run = (.ok value, after)) :
    Run.Wrote backend write.write run after := by
  rw [perform_eq] at performed
  exact ⟨silent_eq_ok (commit_eq_ok performed).1, (commit_eq_ok performed).2⟩

theorem perform_eq_error {write : FileWrite} {run after : Run ε ι} {error : SyncError}
    (unperformed : perform team backend write run = (.error error, after)) :
    ∃ cause, error = .store cause ∧ Run.Failed write.write.operation cause run after := by
  rw [perform_eq] at unperformed
  exact commit_eq_error unperformed

/-! ## Writes in order -/

/-- The acts of writes in order, each reported, the first as number `count + 1` of `total`. -/
def actsOf (projectId : String) (total : Nat) : Nat → List FileWrite → List Act
  | _, [] => []
  | count, write :: rest =>
    .wrote write.write :: .reported (.writing projectId (count + 1) total) ::
      actsOf projectId total (count + 1) rest

theorem writes_actsOf (projectId : String) (total count : Nat) (writes : List FileWrite) :
    (actsOf projectId total count writes).filterMap Act.write? = writes.map FileWrite.write := by
  induction writes generalizing count with
  | nil => rfl
  | cons write rest ih => exact congrArg (write.write :: ·) (ih (count + 1))

theorem failures_actsOf (projectId : String) (total count : Nat) (writes : List FileWrite) :
    (actsOf projectId total count writes).filterMap Act.failure? = [] := by
  induction writes generalizing count with
  | nil => rfl
  | cons write rest ih => exact ih (count + 1)

/-- Writes of files were all done, in order and with their reports, and nothing else was. -/
structure Performed (backend : Backend ι) (projectId : String) (total count : Nat)
    (writes : List FileWrite) (before after : Run ε ι) : Prop where
  trace : after.session.trace = before.session.trace ++ actsOf projectId total count writes
  index : backend.writeAll (writes.map FileWrite.write) before.index = .ok after.index

namespace Performed

variable {projectId : String} {total count : Nat}

theorem nil (run : Run ε ι) : Performed backend projectId total count [] run run :=
  ⟨(List.append_nil _).symm, rfl⟩

theorem cons {write : FileWrite} {rest : List FileWrite} {before between after : Run ε ι}
    (wrote : Run.Wrote backend write.write before between)
    (others : Performed backend projectId total (count + 1) rest
      (onSession (·.record (.reported (.writing projectId (count + 1) total))) between) after) :
    Performed backend projectId total count (write :: rest) before after where
  trace := by
    rw [others.trace]
    change (between.session.trace ++ [_]) ++ _ = _
    rw [wrote.trace, List.append_assoc, List.append_assoc]
    rfl
  index := (Backend.writeAll_cons_of_ok wrote.index _).trans others.index

end Performed

theorem performAll_eq_ok {projectId : String} {total count : Nat} {writes : List FileWrite}
    {run after : Run ε ι} {value : Unit}
    (performed : performAll team backend projectId total count writes run = (.ok value, after)) :
    Performed backend projectId total count writes run after := by
  induction writes generalizing count run with
  | nil =>
    obtain ⟨-, rfl⟩ := pure_eq_ok_iff.1 performed
    exact .nil run
  | cons write rest ih =>
    obtain ⟨_, between, first, performed⟩ := bind_eq_ok_iff.1 performed
    obtain ⟨_, reported, same, performed⟩ := bind_eq_ok_iff.1 performed
    cases same
    exact .cons (perform_eq_ok first) (ih performed)

/-- Writes that end with an error were done up to one that failed, and that is where they end. -/
theorem performAll_eq_error {projectId : String} {total count : Nat} {writes : List FileWrite}
    {run after : Run ε ι} {error : SyncError}
    (unperformed : performAll team backend projectId total count writes run =
      (.error error, after)) :
    ∃ done write rest cause between, writes = done ++ write :: rest ∧ error = .store cause ∧
      Performed backend projectId total count done run between ∧
        Run.Failed write.write.operation cause between after := by
  induction writes generalizing count run with
  | nil => exact absurd unperformed pure_ne_error
  | cons write rest ih =>
    rcases bind_eq_error_iff.1 unperformed with failed | ⟨_, between, first, unperformed⟩
    · obtain ⟨cause, stored, refused⟩ := perform_eq_error failed
      exact ⟨[], write, rest, cause, run, rfl, stored, .nil run, refused⟩
    · rcases bind_eq_error_iff.1 unperformed with failed | ⟨_, reported, same, unperformed⟩
      · cases failed
      · cases same
        obtain ⟨done, culprit, others, cause, last, split, stored, performed, refused⟩ :=
          ih unperformed
        exact ⟨write :: done, culprit, others, cause, last, congrArg (write :: ·) split, stored,
          .cons (perform_eq_ok first) performed, refused⟩

/-! ## A plan for a listing and its application -/

/-- A prepared plan is the plan for the listing and the indexed hashes, with its records
extracted. -/
theorem preparedPlan_eq_ok {setup : Setup} {projectId : String} {listing : List RemoteFile}
    {run after : Run ε ι} {planned : Plan}
    (done : preparedPlan team backend setup projectId listing run = (.ok planned, after)) :
    ∃ hashes, backend.fileHashes run.index projectId = .ok hashes ∧
      (Plan.make projectId listing hashes).Extracted planned := by
  obtain ⟨plan, between, loaded, done⟩ := bind_eq_ok_iff.1 done
  obtain ⟨hashes, last, answered, made⟩ := bind_eq_ok_iff.1 loaded
  obtain ⟨rfl, -⟩ := pure_eq_ok_iff.1 made
  refine ⟨hashes, (query_eq_ok answered).1, ?_⟩
  split at done
  · obtain ⟨session, worked, -⟩ := work_eq_ok done
    exact preparePlan_dressed worked
  · obtain ⟨rfl, -⟩ := pure_eq_ok_iff.1 done
    exact Plan.Extracted.refl _

theorem map_write_writesOf (plan : Plan) :
    (writesOf plan).map FileWrite.write = plan.writes := by
  simp only [writesOf, Plan.writes, List.map_append, List.map_map]
  rfl

theorem apply_eq_ok {projectId : String} {plan : Plan} {run after : Run ε ι} {report : Report}
    (applied : apply team backend projectId plan run = (.ok report, after)) :
    report = plan.report ∧
      Performed backend projectId plan.writeCount 0 (writesOf plan) run after := by
  obtain ⟨_, between, performed, ended⟩ := bind_eq_ok_iff.1 applied
  obtain ⟨rfl, rfl⟩ := pure_eq_ok_iff.1 ended
  exact ⟨rfl, performAll_eq_ok performed⟩

theorem apply_eq_error {projectId : String} {plan : Plan} {run after : Run ε ι}
    {error : SyncError}
    (unapplied : apply team backend projectId plan run = (.error error, after)) :
    performAll team backend projectId plan.writeCount 0 (writesOf plan) run =
      (.error error, after) := by
  rcases bind_eq_error_iff.1 unapplied with failed | ⟨_, between, _, ended⟩
  · exact failed
  · exact absurd ended pure_ne_error

/-! ## A step and its undoing -/

theorem orUndo_eq_ok_iff {β : Type} {step : Sync ε ι α} {undo : Sync ε ι β} {run after : Run ε ι}
    {value : α} : orUndo step undo run = (.ok value, after) ↔ step run = (.ok value, after) := by
  unfold orUndo
  rcases step run with ⟨error | found, between⟩
  · constructor
    · intro undone
      cases undone
    · intro stepped
      cases stepped
  · exact Iff.rfl

/-- A step that was undone failed, and its error is the error. -/
theorem orUndo_eq_error {β : Type} {step : Sync ε ι α} {undo : Sync ε ι β} {run after : Run ε ι}
    {error : SyncError} (undone : orUndo step undo run = (.error error, after)) :
    ∃ between, step run = (.error error, between) ∧ after = (undo between).2 := by
  unfold orUndo at undone
  rcases ended : step run with ⟨cause | found, between⟩
  · rw [ended] at undone
    cases undone
    exact ⟨between, rfl, rfl⟩
  · rw [ended] at undone
    cases undone

/-! ## A sync as a whole -/

theorem resolveProject_eq_ok {address projectId : String} {run after : Run ε ι}
    {remote : RemoteProject}
    (looked : resolveProject team address projectId run = (.ok remote, after)) :
    ∃ world, team.resolve address run.session.world = (.ok (some remote), world) := by
  obtain ⟨answer, between, asked, looked⟩ := bind_eq_ok_iff.1 looked
  have given : (team.resolve address run.session.world).1 = .ok answer := by
    unfold resolve at asked
    dsimp only at asked
    split at asked
    · next project known =>
      cases asked
      exact known
    · cases asked
  cases answer with
  | none => exact absurd looked throw_ne_ok
  | some there =>
    obtain ⟨rfl, -⟩ := pure_eq_ok_iff.1 looked
    exact ⟨_, Prod.ext given rfl⟩

theorem survey_eq_ok {setup : Setup} {address : String} {run after : Run ε ι}
    {surveyed : String × RemoteProject × Bool}
    (done : survey team backend setup address run = (.ok surveyed, after)) :
    Address.projectId? address = some surveyed.1 ∧
      (∃ world, team.resolve address run.session.world = (.ok (some surveyed.2.1), world)) ∧
        backend.hasProject run.index surveyed.1 = .ok surveyed.2.2 ∧ after.index = run.index := by
  obtain ⟨projectId, first, named, done⟩ := bind_eq_ok_iff.1 done
  obtain ⟨_, second, announced, done⟩ := bind_eq_ok_iff.1 done
  obtain ⟨remote, third, looked, done⟩ := bind_eq_ok_iff.1 done
  obtain ⟨present, fourth, visited, done⟩ := bind_eq_ok_iff.1 done
  obtain ⟨_, fifth, told, done⟩ := bind_eq_ok_iff.1 done
  obtain ⟨_, sixth, mirrored, done⟩ := bind_eq_ok_iff.1 done
  obtain ⟨indexed, seventh, answered, done⟩ := bind_eq_ok_iff.1 done
  obtain ⟨rfl, rfl⟩ := pure_eq_ok_iff.1 done
  obtain ⟨spelled, rfl⟩ := projectIdOf_eq_ok named
  cases announced
  have steps := inquiring_untouched team backend projectId
  have quiet : sixth.index = first.index :=
    ((steps.mirror _).ok mirrored).index.trans
      (((steps.report _).ok told).index.trans
        (((steps.hasWorkingCopy _).ok visited).index.trans
          ((steps.resolveProject _ _).ok looked).index))
  obtain ⟨world, found⟩ := resolveProject_eq_ok looked
  obtain ⟨given, same, -⟩ := query_eq_ok answered
  rw [quiet] at given same
  exact ⟨spelled, ⟨world, found⟩, given, same⟩

theorem importedRecords_eq_ok {setup : Setup} {projectId : String} {listing : List RemoteFile}
    {run after : Run ε ι} {files : List FileRecord}
    (done : importedRecords team setup projectId listing run = (.ok files, after)) :
    List.Forall₂ Dressed (listing.map (FileRecord.ofRemote projectId)) files := by
  obtain ⟨_, between, _, done⟩ := bind_eq_ok_iff.1 done
  obtain ⟨extracted, last, worked, done⟩ := bind_eq_ok_iff.1 done
  cases extracted with
  | none => exact absurd done throw_ne_ok
  | some found =>
    dsimp only at done
    split at done
    · exact absurd done throw_ne_ok
    · obtain ⟨rfl, -⟩ := pure_eq_ok_iff.1 done
      obtain ⟨session, extraction, -⟩ := work_eq_ok worked
      exact extractProject_dressed extraction

theorem map_write_creates (files : List FileRecord) :
    (files.map FileWrite.create).map FileWrite.write = files.map .createFile := by
  rw [List.map_map]
  rfl

theorem addProject_eq_ok {projectId : String} {project : Project} {files : List FileRecord}
    {run after : Run ε ι} {value : Unit}
    (added : addProject team backend projectId project files run = (.ok value, after)) :
    backend.writeAll (additions project files) run.index = .ok after.index := by
  obtain ⟨_, between, created, added⟩ := bind_eq_ok_iff.1 added
  have performed := performAll_eq_ok (orUndo_eq_ok_iff.1 added)
  rw [additions, Backend.writeAll_cons_of_ok (createProject_eq_ok created).index,
    ← map_write_creates]
  exact performed.index

theorem syncProject_eq_ok {setup : Setup} {address : String} {run after : Run ε ι}
    {outcome : Outcome}
    (synced : syncProject team backend setup address run = (.ok outcome, after)) :
    ∃ surveyed between settled, survey team backend setup address run = (.ok surveyed, between) ∧
      settle team backend setup surveyed.1 surveyed.2.1 surveyed.2.2 between =
        (.ok outcome, settled) ∧ after.index = settled.index := by
  obtain ⟨surveyed, between, done, synced⟩ := bind_eq_ok_iff.1 synced
  obtain ⟨result, settled, ended, synced⟩ := bind_eq_ok_iff.1 synced
  obtain ⟨_, last, reported, synced⟩ := bind_eq_ok_iff.1 synced
  obtain ⟨rfl, rfl⟩ := pure_eq_ok_iff.1 synced
  exact ⟨surveyed, between, settled, done, ended, ((untouched_report _).ok reported).index⟩

end Sync

end SourceIndex
