import SourceIndex.Proofs.Plan.Resumption
import SourceIndex.Proofs.Sync.Interruption

/-!
# Recovery after aborted runs

A reconciliation makes a plan, prepares its records by some step and does the writes
(`reconcileBy`); the reconciliation of a sync is the one whose step extracts (`reconcile_eq`). When
a write fails, the writes before it have been done, and the next reconciliation plans against an
index that is half brought in line. If the step makes of each record the same whenever it is asked,
that plan has exactly the writes that are still missing.

Main statement: if a reconciliation succeeds, then after any number of aborted reconciliations from
the same index one that is not disturbed succeeds as well, and ends with the same index
(`reconcileBy_recovers`).
-/

set_option autoImplicit false

namespace SourceIndex

open Fallible Rehearsal

variable {ε ι ρ α : Type} [Row ρ]

/-- The outside world refuses no operation of the index. -/
def Collaborators.Undisturbed (team : Collaborators ε) : Prop :=
  ∀ operation world, (team.refuse operation world).1 = none

namespace Sync

/-! ## Reconciliations that prepare records by a step -/

/-- Brings an indexed project in line with its listing, with the records prepared by a step. -/
def reconcileBy (team : Collaborators ε) (backend : Backend ι)
    (step : FileRecord → Work ε FileRecord) (projectId : String) (listing : List RemoteFile) :
    Sync ε ι Report := do
  let plan ← loadPlan team backend projectId listing
  let prepared ← work (preparePlan step plan)
  apply team backend projectId prepared

/-- The step makes of each record what a function does, whatever else it does. -/
def Fixed (step : FileRecord → Work ε FileRecord)
    (change : FileRecord → Except Halt FileRecord) : Prop :=
  ∀ file session, (step file session).1 = change file

variable {team : Collaborators ε} {backend : Backend ι} {storage : Storage backend ρ}
variable {step : FileRecord → Work ε FileRecord} {change : FileRecord → Except Halt FileRecord}
variable {projectId : String} {listing : List RemoteFile} {plan planned : Plan}
variable {run after : Run ε ι} {hashes : Hashes}

/-- The reconciliation of a sync prepares the records by extracting them. -/
theorem reconcile_eq (team : Collaborators ε) (backend : Backend ι) (setup : Setup)
    (projectId : String) (listing : List RemoteFile) :
    reconcile team backend setup projectId listing =
      reconcileBy team backend (extractRecord team setup projectId) projectId listing := by
  unfold reconcile preparedPlan reconcileBy
  rw [bind_assoc]
  congr 1
  funext plan
  split
  · rfl
  · next empty =>
    -- There is nothing to prepare.
    rcases plan with ⟨created, updated, deleted, unchanged⟩
    have none : created = [] ∧ updated = [] := by simpa [Plan.hasRecords] using empty
    obtain ⟨rfl, rfl⟩ := none
    rfl

/-! ## Plans prepared by a fixed step -/

theorem prepared_of_preparePlan (fixed : Fixed step change) {session last : Session ε}
    (done : preparePlan step plan session = (.ok planned, last)) :
    plan.Prepared change planned := by
  have steps : ∀ file prepared (before between : Session ε),
      step file before = (.ok prepared, between) → change file = .ok prepared :=
    fun file prepared before between made => (fixed file before).symm.trans (congrArg Prod.fst made)
  rw [preparePlan_eq, ← Plan.prepare_eq] at done
  obtain ⟨creates, updates, deletes, unchanged⟩ := Plan.prepare_prepared steps done
  exact ⟨creates, updates, deletes, unchanged⟩

theorem mapM_of_forall₂ (fixed : Fixed step change) {files results : List FileRecord}
    (made : List.Forall₂ (fun file result => change file = .ok result) files results)
    (session : Session ε) : ∃ last, files.mapM step session = (.ok results, last) := by
  induction made generalizing session with
  | nil => exact ⟨session, rfl⟩
  | @cons file result _ _ single _ ih =>
    have first : step file session = (.ok result, (step file session).2) :=
      Prod.ext ((fixed file session).trans single) rfl
    obtain ⟨last, others⟩ := ih (step file session).2
    rw [List.mapM_cons, bind_apply_of_ok first, bind_apply_of_ok others]
    exact ⟨last, rfl⟩

theorem preparePlan_of_prepared (fixed : Fixed step change) (made : plan.Prepared change planned)
    (session : Session ε) : ∃ last, preparePlan step plan session = (.ok planned, last) := by
  obtain ⟨between, creates⟩ := mapM_of_forall₂ fixed made.creates session
  obtain ⟨last, updates⟩ := mapM_of_forall₂ fixed made.updates between
  refine ⟨last, ?_⟩
  rw [preparePlan_eq, bind_apply_of_ok creates, bind_apply_of_ok updates]
  rcases planned with ⟨created, updated, deleted, unchanged⟩
  cases made.deletes
  cases made.unchanged
  rfl

/-! ## How a reconciliation ends -/

/-- However a reconciliation ends, it has left the index alone, or it has done the first writes of
the prepared plan, and all of them if it succeeded. -/
theorem reconcileBy_cases (fixed : Fixed step change) {result : Except SyncError Report}
    (ended : reconcileBy team backend step projectId listing run = (result, after)) :
    after.index = run.index ∧ (∃ error, result = .error error) ∨
      ∃ hashes planned done rest, backend.fileHashes run.index projectId = .ok hashes ∧
        (Plan.make projectId listing hashes).Prepared change planned ∧
          planned.writes = done ++ rest ∧ backend.writeAll done run.index = .ok after.index ∧
            ∀ report, result = .ok report → rest = [] := by
  have inquiring := inquiring_untouched team backend projectId
  rcases bind_cases ended with ⟨error, unloaded, rfl⟩ | ⟨plan, loaded, loading, ended⟩
  · have quiet : Keeps Run.Untouched (loadPlan team backend projectId listing) :=
      inquiring.bind inquiring.fileHashes fun _ _ => inquiring.pure _
    exact .inl ⟨(quiet.error unloaded).index, error, rfl⟩
  obtain ⟨hashes, asked, asking, made⟩ := bind_eq_ok_iff.1 loading
  obtain ⟨rfl, rfl⟩ := pure_eq_ok_iff.1 made
  obtain ⟨answered, same, -⟩ := query_eq_ok asking
  rcases bind_cases ended with ⟨error, unprepared, rfl⟩ | ⟨planned, prepared, preparing, ended⟩
  · have kept : after.index = asked.index := by
      unfold work at unprepared
      split at unprepared
      · cases unprepared
      · cases unprepared
        rfl
    exact .inl ⟨kept.trans same, error, rfl⟩
  · obtain ⟨session, worked, rfl⟩ := work_eq_ok preparing
    obtain ⟨acts, applied⟩ := exists_applied ended
    obtain ⟨rest, split⟩ := applied.inOrder
    have written := applied.index
    rw [show (Run.mk session asked.index).index = run.index from same] at written
    refine .inr ⟨hashes, planned, _, rest, answered, prepared_of_preparePlan fixed worked,
      split.symm, written, ?_⟩
    intro report succeeded
    rw [(applied.complete report succeeded).1] at split
    exact List.append_right_eq_self.1 split

/-! ## Undisturbed reconciliations -/

theorem permit_of_undisturbed (undisturbed : team.Undisturbed) (operation : Operation)
    (run : Run ε ι) : ∃ after, permit team operation run = (.ok (), after) ∧
      after.index = run.index := by
  refine ⟨onSession (fun session =>
    { session with world := (team.refuse operation run.session.world).2 }) run, ?_, rfl⟩
  unfold permit
  dsimp only
  rw [undisturbed]

theorem query_of_undisturbed (undisturbed : team.Undisturbed) {operation : Operation}
    {read : ι → Except StoreError α} {value : α} (answered : read run.index = .ok value) :
    ∃ after, query team operation read run = (.ok value, after) ∧ after.index = run.index := by
  obtain ⟨between, permitted, same⟩ := permit_of_undisturbed undisturbed operation run
  refine ⟨between, ?_, same⟩
  rw [query, bind_apply_of_ok permitted, same, answered]

theorem perform_of_undisturbed (undisturbed : team.Undisturbed) {write : FileWrite} {index : ι}
    (written : backend.write run.index write.write = .ok index) :
    ∃ after, perform team backend write run = (.ok (), after) ∧ after.index = index := by
  obtain ⟨between, permitted, same⟩ :=
    permit_of_undisturbed undisturbed write.write.operation run
  refine ⟨⟨between.session.record (.wrote write.write), index⟩, ?_, rfl⟩
  rw [perform_eq, commit, bind_apply_of_ok permitted, silent, same, written]
  rfl

/-- Writes that the index accepts are done if nobody refuses them. -/
theorem performAll_of_undisturbed (undisturbed : team.Undisturbed) {total count : Nat}
    {writes : List FileWrite} {index : ι}
    (written : backend.writeAll (writes.map FileWrite.write) run.index = .ok index) :
    ∃ after, performAll team backend projectId total count writes run = (.ok (), after) ∧
      after.index = index := by
  induction writes generalizing run count with
  | nil =>
    cases written
    exact ⟨run, rfl, rfl⟩
  | cons write rest ih =>
    rw [List.map_cons, Backend.writeAll] at written
    split at written
    · cases written
    · next between first =>
      obtain ⟨performed, performing, same⟩ := perform_of_undisturbed undisturbed first
      rw [← same] at written
      let reported := onSession
        (·.record (.reported (.writing projectId (count + 1) total))) performed
      have remaining : backend.writeAll (rest.map FileWrite.write) reported.index = .ok index :=
        written
      obtain ⟨after, others, ended⟩ := ih remaining
      refine ⟨after, ?_, ended⟩
      rw [performAll, bind_apply_of_ok performing]
      exact others

/-- An undisturbed reconciliation succeeds if its plan can be prepared and the index accepts the
writes. -/
theorem reconcileBy_of_prepared (undisturbed : team.Undisturbed) (fixed : Fixed step change)
    (answered : backend.fileHashes run.index projectId = .ok hashes)
    (made : (Plan.make projectId listing hashes).Prepared change planned) {index : ι}
    (written : backend.writeAll planned.writes run.index = .ok index) :
    ∃ report after, reconcileBy team backend step projectId listing run = (.ok report, after) ∧
      after.index = index := by
  have asking : ∃ asked, fileHashes team backend projectId run = (.ok hashes, asked) ∧
      asked.index = run.index := query_of_undisturbed undisturbed answered
  obtain ⟨asked, asking, same⟩ := asking
  have loaded : loadPlan team backend projectId listing run =
      (.ok (Plan.make projectId listing hashes), asked) :=
    bind_apply_of_ok asking _
  obtain ⟨session, preparing⟩ := preparePlan_of_prepared fixed made asked.session
  have worked : work (preparePlan step (Plan.make projectId listing hashes)) asked =
      (.ok planned, ⟨session, asked.index⟩) := by
    unfold work
    rw [preparing]
  have performing : ∃ after, performAll team backend projectId planned.writeCount 0
      (writesOf planned) ⟨session, asked.index⟩ = (.ok (), after) ∧ after.index = index := by
    refine performAll_of_undisturbed undisturbed ?_
    rw [map_write_writesOf, ← written]
    exact congrArg _ same
  obtain ⟨after, performing, ended⟩ := performing
  refine ⟨planned.report, after, ?_, ended⟩
  rw [reconcileBy, bind_apply_of_ok loaded, bind_apply_of_ok worked, apply,
    bind_apply_of_ok performing]
  rfl

/-! ## Aborted reconciliations -/

/-- An index that some reconciliations left that failed one after the other, at whatever points.
Each had parties and a session of its own. -/
inductive Aborted (backend : Backend ι) (change : FileRecord → Except Halt FileRecord)
    (projectId : String) (listing : List RemoteFile) (start : ι) : ι → Prop
  | none : Aborted backend change projectId listing start start
  | again {ε : Type} {team : Collaborators ε} {step : FileRecord → Work ε FileRecord}
      {run after : Run ε ι} {error : SyncError}
      (earlier : Aborted backend change projectId listing start run.index)
      (fixed : Fixed step change)
      (failed : reconcileBy team backend step projectId listing run = (.error error, after)) :
      Aborted backend change projectId listing start after.index

/-- The index answers questions, and the writes of the plan made against it, prepared by a function,
lead to a given index. -/
structure Pending (storage : Storage backend ρ) (change : FileRecord → Except Halt FileRecord)
    (projectId : String) (listing : List RemoteFile) (final index : ι) : Prop where
  isOpen : storage.IsOpen index
  planned : ∃ planned,
    (Plan.make projectId listing ((storage.holdings index).hashesOf projectId)).Prepared
        change planned ∧
      backend.writeAll planned.writes index = .ok final

section

variable {final : ι} (keeps : Plan.KeepsIdentity change)

/-- A reconciliation that succeeds does the writes of its plan. -/
theorem pending_of_reconcileBy {report : Report} (fixed : Fixed step change)
    (done : reconcileBy team backend step projectId listing run = (.ok report, after)) :
    Pending storage change projectId listing after.index run.index := by
  rcases reconcileBy_cases fixed done with ⟨-, error, failed⟩ |
    ⟨hashes, planned, writes, rest, answered, made, split, written, complete⟩
  · cases failed
  obtain ⟨opened, rfl⟩ := storage.fileHashes_eq_ok_iff.1 answered
  rw [complete report rfl, List.append_nil] at split
  exact ⟨opened, planned, made, split ▸ written⟩

include keeps

/-- **What an aborted reconciliation leaves to do leads to the same index as its own plan.** -/
theorem Pending.of_reconcileBy {result : Except SyncError Report} (fixed : Fixed step change)
    (pending : Pending storage change projectId listing final run.index)
    (ended : reconcileBy team backend step projectId listing run = (result, after)) :
    Pending storage change projectId listing final after.index := by
  rcases reconcileBy_cases fixed ended with ⟨same, -⟩ |
    ⟨hashes, begun, done, rest, answered, again, split, written, -⟩
  · exact same ▸ pending
  obtain ⟨opened, planned, made, complete⟩ := pending
  obtain ⟨-, rfl⟩ := storage.fileHashes_eq_ok_iff.1 answered
  cases made.unique again
  -- Since all the writes succeed, the listing names no file twice.
  have distinct := Holdings.listedIds_distinct_of_ids (made.map_id_creates keeps)
    (storage.replay_of_writeAll complete).1
  obtain ⟨replayed, open_⟩ := storage.replay_of_writeAll written
  obtain ⟨next, resumed, remaining⟩ :=
    Holdings.prepared_of_replay keeps distinct made split replayed
  refine ⟨open_ opened, next, resumed, ?_⟩
  rw [split, Backend.writeAll_append_of_ok written] at complete
  rw [remaining, complete]

theorem Aborted.pending {start index : ι}
    (aborted : Aborted backend change projectId listing start index)
    (pending : Pending storage change projectId listing final start) :
    Pending storage change projectId listing final index := by
  induction aborted with
  | none => exact pending
  | again _ fixed failed ih => exact ih.of_reconcileBy keeps fixed failed

end

/-- **A reconciliation recovers from aborted ones.** If an undisturbed reconciliation succeeds, then
after any number of reconciliations from the same index that were aborted, each at a point of its
own, an undisturbed one succeeds too and ends with the same index. The records are prepared by a
step that makes of each record the same whenever it is asked and keeps its id, its project and its
hash. -/
theorem reconcileBy_recovers (storage : Storage backend ρ)
    (change : FileRecord → Except Halt FileRecord) (keeps : Plan.KeepsIdentity change)
    (team : Collaborators ε) (step : FileRecord → Work ε FileRecord) (fixed : Fixed step change)
    (projectId : String) (listing : List RemoteFile) (run after : Run ε ι) (report : Report)
    (undisturbed : reconcileBy team backend step projectId listing run = (.ok report, after))
    (index : ι) (aborted : Aborted backend change projectId listing run.index index)
    {ε' : Type} (later : Collaborators ε') (willing : later.Undisturbed)
    (step' : FileRecord → Work ε' FileRecord) (fixed' : Fixed step' change) (again : Run ε' ι)
    (resumed : again.index = index) :
    ∃ report' last, reconcileBy later backend step' projectId listing again = (.ok report', last) ∧
      last.index = after.index := by
  have begun : Pending storage change projectId listing after.index run.index :=
    pending_of_reconcileBy fixed undisturbed
  obtain ⟨opened, planned, made, written⟩ := resumed ▸ aborted.pending keeps begun
  exact reconcileBy_of_prepared willing fixed' (storage.fileHashes_eq_ok_iff.2 ⟨opened, rfl⟩) made
    written

/-! ## A reconciliation that is aborted twice -/

/-- Notes the path of a file as its content. -/
def noted (file : FileRecord) : Except Halt FileRecord :=
  .ok { file with rawContent := some file.path }

/-- A reconciliation of the project with changed files that notes the paths of its records. -/
def notingSync (team : Collaborators Stage) (run : Run Stage MemoryIndex) :
    Except SyncError Report × Run Stage MemoryIndex :=
  reconcileBy team MemoryIndex.backend (fun file session => (noted file, session)) "o/p"
    updatedListing run

/-- After the update of one file was refused, the deletion of another one is refused. -/
def refusingAgain : Run Stage MemoryIndex :=
  Scene.opening updatedListing [] [⟨.deleteFile, some "o/p/X.txt", ["disk full"]⟩]
    (notingSync Stage.team refusing).2.index

/-- The index that two failed reconciliations left, and nothing in the way of a third one. -/
def unhindered : Run Stage MemoryIndex :=
  Scene.opening updatedListing [] [] (notingSync Stage.team refusingAgain).2.index

/-- Two reconciliations fail, and the third one ends like one that was never disturbed. -/
theorem reconcileBy_recovers_refusing :
    (notingSync Stage.team refusing).1 = .error (.store (.refused ["disk full"])) ∧
      (notingSync Stage.team refusingAgain).1 = .error (.store (.refused ["disk full"])) ∧
        ∃ report last, notingSync Scene.permitting unhindered = (.ok report, last) ∧
          last.index = (notingSync Scene.permitting refusing).2.index := by
  have fixed : Fixed (fun file (session : Session Stage) => (noted file, session)) noted :=
    fun _ _ => rfl
  have keeps : Plan.KeepsIdentity noted := by
    intro file prepared made
    cases made
    exact ⟨rfl, rfl, rfl⟩
  have first : (notingSync Stage.team refusing).1 = .error (.store (.refused ["disk full"])) := by
    decide +kernel
  have second : (notingSync Stage.team refusingAgain).1 =
      .error (.store (.refused ["disk full"])) := by
    decide +kernel
  have whole : (notingSync Scene.permitting refusing).1 = .ok ⟨1, 2, 1, 0⟩ := by
    decide +kernel
  refine ⟨first, second, ?_⟩
  have once : Aborted MemoryIndex.backend noted "o/p" updatedListing refusing.index
      refusingAgain.index := by
    rcases failed : notingSync Stage.team refusing with ⟨result, after⟩
    rw [failed] at first
    cases first
    have left : refusingAgain.index = after.index := by
      rw [refusingAgain, Scene.opening, failed]
    rw [left]
    exact Aborted.none.again fixed failed
  have twice : Aborted MemoryIndex.backend noted "o/p" updatedListing refusing.index
      unhindered.index := by
    rcases failed : notingSync Stage.team refusingAgain with ⟨result, after⟩
    rw [failed] at second
    cases second
    have left : unhindered.index = after.index := by
      rw [unhindered, Scene.opening, failed]
    rw [left]
    exact once.again fixed failed
  rcases undisturbed : notingSync Scene.permitting refusing with ⟨result, after⟩
  rw [undisturbed] at whole
  cases whole
  exact reconcileBy_recovers MemoryIndex.storage noted keeps Scene.permitting
    (fun file session => (noted file, session)) fixed "o/p" updatedListing refusing after
    ⟨1, 2, 1, 0⟩ undisturbed unhindered.index twice Scene.permitting (fun _ _ => rfl)
    (fun file session => (noted file, session)) fixed unhindered rfl

end Sync

end SourceIndex
