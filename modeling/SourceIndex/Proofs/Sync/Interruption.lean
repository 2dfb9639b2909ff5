import SourceIndex.Proofs.Plan.Reconciliation
import SourceIndex.Proofs.Sync.Steps
import SourceIndex.Rehearsal.Scene

/-!
# Interrupted reconciliations

Any write of a reconciliation may fail, and then nothing follows. What was done is a prefix of the
writes of the plan, and the index is what exactly these writes make of it (`Applied`). Creates and
updates come before deletes, so as long as one of them fails nothing is deleted: the prefix is a
smaller plan without deletes, and each row it leaves is an old one or was written in full
(`landed_of_interrupted`).

Main statement: both together, for the index behind any storage (`apply_interrupted`).
-/

set_option autoImplicit false

namespace SourceIndex.Sync

open Fallible Rehearsal

variable {ε ι ρ : Type} [Row ρ] {team : Collaborators ε} {backend : Backend ι}

/-! ## Prefixes of a plan -/

/-- What applying a plan did, by the acts that it added to the trace. -/
structure Applied (backend : Backend ι) (plan : Plan) (result : Except SyncError Report)
    (before after : Run ε ι) (acts : List Act) : Prop where
  trace : after.session.trace = before.session.trace ++ acts
  /-- The writes that succeeded are the first ones of the plan, in its order. -/
  inOrder : acts.filterMap Act.write? <+: plan.writes
  /-- The index is what exactly these writes make of it. -/
  index : backend.writeAll (acts.filterMap Act.write?) before.index = .ok after.index
  /-- If it ends well, every write of the plan was done and none failed. -/
  complete : ∀ report, result = .ok report →
    acts.filterMap Act.write? = plan.writes ∧ acts.filterMap Act.failure? = [] ∧
      report = plan.report
  /-- If it ends with an error, the next write of the plan failed with that error, as the first
  operation that did, and nothing was done after it. -/
  interrupted : ∀ error, result = .error error →
    ∃ earlier culprit rest cause, acts = earlier ++ [.failed culprit.operation cause] ∧
      earlier.filterMap Act.failure? = [] ∧
        plan.writes = acts.filterMap Act.write? ++ culprit :: rest ∧ error = .store cause

theorem applied_of_ok {projectId : String} {plan : Plan} {run after : Run ε ι} {report : Report}
    (applied : apply team backend projectId plan run = (.ok report, after)) :
    Applied backend plan (.ok report) run after
      (actsOf projectId plan.writeCount 0 (writesOf plan)) := by
  obtain ⟨counted, performed⟩ := apply_eq_ok applied
  have all : (actsOf projectId plan.writeCount 0 (writesOf plan)).filterMap Act.write? =
      plan.writes := by
    rw [writes_actsOf, map_write_writesOf]
  refine ⟨performed.trace, all ▸ List.prefix_rfl, ?_, ?_, ?_⟩
  · rw [all, ← map_write_writesOf]
    exact performed.index
  · intro found same
    cases same
    exact ⟨all, failures_actsOf _ _ _ _, counted⟩
  · intro error same
    cases same

theorem applied_of_error {projectId : String} {plan : Plan} {run after : Run ε ι}
    {error : SyncError}
    (unapplied : apply team backend projectId plan run = (.error error, after)) :
    ∃ acts, Applied backend plan (.error error) run after acts := by
  obtain ⟨done, culprit, rest, cause, between, split, stored, performed, failed⟩ :=
    performAll_eq_error (apply_eq_error unapplied)
  have writes : (actsOf projectId plan.writeCount 0 done ++
      [Act.failed culprit.write.operation cause]).filterMap Act.write? =
        done.map FileWrite.write := by
    rw [List.filterMap_append, writes_actsOf]
    exact List.append_nil _
  have whole : plan.writes =
      done.map FileWrite.write ++ culprit.write :: rest.map FileWrite.write := by
    rw [← map_write_writesOf, split, List.map_append, List.map_cons]
  refine ⟨actsOf projectId plan.writeCount 0 done ++ [.failed culprit.write.operation cause],
    ?_, ?_, ?_, ?_, ?_⟩
  · rw [failed.trace, performed.trace, List.append_assoc]
  · rw [writes, whole]
    exact List.prefix_append _ _
  · rw [writes, failed.index]
    exact performed.index
  · intro report same
    cases same
  · intro found same
    cases same
    exact ⟨_, culprit.write, _, cause, rfl, failures_actsOf _ _ _ _, by rw [writes]; exact whole,
      stored⟩

theorem exists_applied {projectId : String} {plan : Plan} {run after : Run ε ι}
    {result : Except SyncError Report}
    (applied : apply team backend projectId plan run = (result, after)) :
    ∃ acts, Applied backend plan result run after acts := by
  cases result with
  | ok report => exact ⟨_, applied_of_ok applied⟩
  | error error => exact applied_of_error applied

/-- A failure while a plan was applied is that of the next write of the plan. -/
theorem Applied.culprit_of_failed {plan : Plan} {result : Except SyncError Report}
    {before after : Run ε ι} {acts : List Act} {operation : Operation} {cause : StoreError}
    (applied : Applied backend plan result before after acts)
    (failed : .failed operation cause ∈ acts) :
    ∃ culprit rest, culprit.operation = operation ∧
      plan.writes = acts.filterMap Act.write? ++ culprit :: rest := by
  cases result with
  | ok report =>
    have member := Act.mem_failures_iff.2 failed
    rw [(applied.complete report rfl).2.1] at member
    cases member
  | error error =>
    obtain ⟨earlier, culprit, rest, reason, last, first, split, -⟩ :=
      applied.interrupted error rfl
    refine ⟨culprit, rest, ?_, split⟩
    rw [last] at failed
    rcases List.mem_append.1 failed with before | single
    · have member := Act.mem_failures_iff.2 before
      rw [first] at member
      cases member
    · cases List.mem_singleton.1 single
      rfl

/-! ## The rows that an interrupted plan leaves -/

variable {storage : Storage backend ρ}

/-- The rows after a reconciliation of which a create or an update failed: those of a smaller plan
that deletes nothing. -/
theorem landed_of_interrupted {projectId : String} {listing : List RemoteFile} {planned : Plan}
    {result : Except SyncError Report} {before after : Run ε ι} {acts : List Act}
    {operation : Operation} {cause : StoreError}
    (extracted : (Plan.make projectId listing
      ((storage.holdings before.index).hashesOf projectId)).Extracted planned)
    (applied : Applied backend planned result before after acts)
    (failed : .failed operation cause ∈ acts)
    (filling : operation.method = .createFile ∨ operation.method = .updateFile) :
    ∃ partly : Plan, partly.toCreate <+: planned.toCreate ∧
      partly.toUpdate <+: planned.toUpdate ∧
        ∀ row, row ∈ (storage.holdings after.index).files.entries ↔
          Holdings.Landed partly (storage.holdings before.index) row := by
  obtain ⟨culprit, rest, same, split⟩ := applied.culprit_of_failed failed
  have fills : ∀ id, culprit ≠ .deleteFile id := by
    rintro id rfl
    rw [← same] at filling
    rcases filling with wrong | wrong
    · cases wrong
    · cases wrong
  obtain ⟨partly, done, creates, updates, nothing⟩ := Plan.writes_before_fill split fills
  have replayed := (storage.replay_of_writeAll applied.index).1
  rw [done] at replayed
  obtain ⟨distinct, known⟩ := Holdings.updates_of_extracted extracted
  refine ⟨partly, creates, updates, fun row => ?_⟩
  rw [Holdings.mem_replay_writes_iff (distinct.sublist (updates.sublist.map FileRecord.id))
    (fun file asked => known file (updates.subset asked)) replayed, nothing]
  simp

/-- A reconciliation in which a create or an update failed had its plan prepared and was applying
it. -/
theorem applied_of_reconcile {setup : Setup} {projectId : String} {listing : List RemoteFile}
    {run after : Run ε ι} {result : Except SyncError Report} {acts : List Act}
    {operation : Operation} {cause : StoreError}
    (reconciled : reconcile team backend setup projectId listing run = (result, after))
    (extended : after.session.trace = run.session.trace ++ acts)
    (failed : .failed operation cause ∈ acts) (writing : operation.method.isWrite = true) :
    ∃ planned between others, preparedPlan team backend setup projectId listing run =
        (.ok planned, between) ∧ between.index = run.index ∧
      Applied backend planned result between after others ∧ .failed operation cause ∈ others := by
  have quiet : Keeps Run.Untouched (preparedPlan team backend setup projectId listing) :=
    untouched_preparedPlan setup projectId listing
  rcases bind_cases reconciled with ⟨error, unprepared, -⟩ | ⟨planned, between, prepared, applying⟩
  · -- Nothing was written before the plan was prepared, so this was not where it failed.
    obtain ⟨same, earlier, grown, harmless⟩ := quiet.error unprepared
    rw [extended] at grown
    rw [List.append_cancel_left grown] at failed
    have attempt : (Act.failed operation cause).attemptsWrite = false := harmless _ failed
    rw [Act.attemptsWrite, writing] at attempt
    cases attempt
  · obtain ⟨others, applied⟩ := exists_applied applying
    obtain ⟨same, earlier, grown, harmless⟩ := quiet.ok prepared
    have whole := applied.trace
    rw [extended, grown, List.append_assoc] at whole
    rw [List.append_cancel_left whole] at failed
    rcases List.mem_append.1 failed with before | later
    · have attempt : (Act.failed operation cause).attemptsWrite = false := harmless _ before
      rw [Act.attemptsWrite, writing] at attempt
      cases attempt
    · exact ⟨planned, between, others, prepared, same, applied, later⟩

/-- **Deletes come last, and an interrupted run is an exact prefix.** Applying any plan does a
prefix of its writes, and stops at the first that fails. When a create or an update of a
reconciliation fails, every file that was indexed is still indexed, and each row is an old one, or a
planned record as a create or an update stores it. -/
theorem apply_interrupted (storage : Storage backend ρ) (team : Collaborators ε) :
    (∀ (projectId : String) (plan : Plan) (run after : Run ε ι)
        (result : Except SyncError Report),
      apply team backend projectId plan run = (result, after) →
        ∃ acts, Applied backend plan result run after acts) ∧
    (∀ (setup : Setup) (projectId : String) (listing : List RemoteFile) (run after : Run ε ι)
        (result : Except SyncError Report) (acts : List Act) (operation : Operation)
        (cause : StoreError),
      reconcile team backend setup projectId listing run = (result, after) →
      after.session.trace = run.session.trace ++ acts →
      .failed operation cause ∈ acts →
      operation.method = .createFile ∨ operation.method = .updateFile →
        (∀ row ∈ (storage.holdings run.index).files.entries,
          (storage.holdings after.index).files.contains (Row.id row) = true) ∧
        ∃ planned between,
          preparedPlan team backend setup projectId listing run = (.ok planned, between) ∧
          ∀ row ∈ (storage.holdings after.index).files.entries,
            row ∈ (storage.holdings run.index).files.entries ∨
            (∃ file ∈ planned.toCreate, row = Row.ofRecord file) ∨
            ∃ old ∈ (storage.holdings run.index).files.entries, ∃ file ∈ planned.toUpdate,
              file.id = Row.id old ∧ row = Row.updatedBy old file) := by
  refine ⟨fun _ _ _ _ _ => exists_applied, ?_⟩
  intro setup projectId listing run after result acts operation cause reconciled extended failed
    filling
  have writing : operation.method.isWrite = true := by
    rcases filling with creates | updates
    · rw [creates]
      rfl
    · rw [updates]
      rfl
  obtain ⟨planned, between, others, prepared, same, applied, later⟩ :=
    applied_of_reconcile reconciled extended failed writing
  obtain ⟨hashes, answered, extracted⟩ := preparedPlan_eq_ok prepared
  obtain ⟨-, rfl⟩ := storage.fileHashes_eq_ok_iff.1 answered
  rw [← same] at extracted ⊢
  obtain ⟨partly, creates, updates, landed⟩ :=
    landed_of_interrupted extracted applied later filling
  constructor
  · intro row there
    -- An old row is kept as it was, or an update of its file was done.
    have stands : ∃ kept ∈ (storage.holdings after.index).files.entries,
        Row.id kept = Row.id row := by
      by_cases named : ∃ file ∈ partly.toUpdate, file.id = Row.id row
      · obtain ⟨file, asked, equal⟩ := named
        exact ⟨_, (landed _).2 (.updated there asked equal),
          (Row.id_updatedBy row file).trans equal⟩
      · exact ⟨row, (landed row).2 (.kept there fun file asked equal => named ⟨file, asked, equal⟩),
          rfl⟩
    obtain ⟨kept, member, equal⟩ := stands
    rw [Keyed.contains, (Keyed.find?_eq_some_iff _ _ _).2 ⟨member, equal⟩]
    rfl
  · refine ⟨planned, between, prepared, fun row member => ?_⟩
    rcases (landed row).1 member with ⟨there, -⟩ | ⟨asked⟩ | ⟨there, asked, equal⟩
    · exact .inl there
    · exact .inr (.inl ⟨_, creates.subset asked, rfl⟩)
    · exact .inr (.inr ⟨_, there, _, updates.subset asked, equal, rfl⟩)

/-- A listing with one new and two changed files. -/
def updatedListing : List RemoteFile :=
  [Scene.entry "B.txt" "1", Scene.entry "A.txt" "2",
    Scene.entry "D.txt" "2"]

/-- An indexed project in which the second of two changed files cannot be updated and one file is to
be deleted. -/
def refusing : Run Stage MemoryIndex :=
  Scene.opening updatedListing [] [⟨.updateFile, some "o/p/D.txt", ["disk full"]⟩]
    (Scene.indexed [Scene.entry "A.txt" "1", Scene.entry "D.txt" "1",
      Scene.entry "X.txt" "1"])

/-- The file to be deleted is still there when an update failed. -/
theorem apply_interrupted_refusing :
    let done := reconcile Stage.team MemoryIndex.backend Scene.setup "o/p"
      updatedListing refusing
    done.1 = .error (.store (.refused ["disk full"])) ∧
      ∀ row ∈ refusing.index.files.entries, done.2.index.files.contains row.id = true := by
  intro done
  have last : done.2.session.trace.getLast? =
      some (.failed ⟨.updateFile, "o/p/D.txt"⟩ (.refused ["disk full"])) := by rfl
  have spared := (apply_interrupted MemoryIndex.storage Stage.team).2
    Scene.setup "o/p" updatedListing refusing done.2 done.1 done.2.session.trace
    ⟨.updateFile, "o/p/D.txt"⟩ (.refused ["disk full"]) rfl rfl (List.mem_of_getLast? last)
    (.inr rfl)
  exact ⟨by rfl, spared.1⟩

end SourceIndex.Sync
