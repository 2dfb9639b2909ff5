import SourceIndex.Proofs.Sync.Steps
import SourceIndex.Rehearsal.Scene

/-!
# Failures outside the index

A sync can fail for many reasons that are not the index: there is no such project, the hosting
service or the mirror fails, there is nothing to index, extraction fails, or the task that extracts
dies. Whatever was to be extracted is extracted before the first write, when a project is reconciled
as well as when it is imported, and from the first write on only the index can fail.

Main statement: a sync that fails for a reason outside the index has attempted no write and leaves
the index as it was (`syncProject_untouched`).
-/

set_option autoImplicit false

namespace SourceIndex.Sync

open Fallible Rehearsal

variable {ε ι α β : Type}

/-- A failure for a reason outside the index leaves the index alone. -/
def Contained (step : Sync ε ι α) : Prop :=
  ∀ run error after, step run = (.error error, after) → (∀ cause, error ≠ .store cause) →
    Run.Untouched run after

/-- The only reason for which a step fails is the index. -/
def FailsByIndex (step : Sync ε ι α) : Prop :=
  ∀ run error after, step run = (.error error, after) → ∃ cause, error = .store cause

namespace Contained

theorem of_failsByIndex {step : Sync ε ι α} (fails : FailsByIndex step) : Contained step := by
  intro run error after failed outside
  obtain ⟨cause, stored⟩ := fails run error after failed
  exact absurd stored (outside cause)

/-- What comes after a step that leaves the index alone decides. -/
theorem bind {step : Sync ε ι α} {next : α → Sync ε ι β} (untouched : Keeps Run.Untouched step)
    (contained : ∀ value, Contained (next value)) : Contained (step >>= next) := by
  intro run error after failed outside
  rcases bind_eq_error_iff.1 failed with first | ⟨value, between, done, second⟩
  · exact untouched.error first
  · exact trans_of Run.Untouched (untouched.ok done)
      (contained value between error after second outside)

/-- What comes after a step does not matter if it cannot fail. -/
theorem bind_of_total {step : Sync ε ι α} {next : α → Sync ε ι β} (contained : Contained step)
    (total : ∀ value run error after, next value run ≠ (.error error, after)) :
    Contained (step >>= next) := by
  intro run error after failed outside
  rcases bind_eq_error_iff.1 failed with first | ⟨value, between, done, second⟩
  · exact contained run error after first outside
  · exact absurd second (total value between error after)

end Contained

variable {team : Collaborators ε} {backend : Backend ι}

/-! ## Writes fail by the index -/

theorem failsByIndex_performAll (projectId : String) (total count : Nat)
    (writes : List FileWrite) :
    FailsByIndex (performAll team backend projectId total count writes : Sync ε ι Unit) := by
  intro run error after failed
  obtain ⟨_, _, _, cause, _, _, stored, _, _⟩ := performAll_eq_error failed
  exact ⟨cause, stored⟩

theorem failsByIndex_apply (projectId : String) (plan : Plan) :
    FailsByIndex (apply team backend projectId plan : Sync ε ι Report) := by
  intro run error after failed
  exact failsByIndex_performAll projectId _ _ _ _ _ _ (apply_eq_error failed)

theorem failsByIndex_addProject (projectId : String) (project : Project)
    (files : List FileRecord) :
    FailsByIndex (addProject team backend projectId project files : Sync ε ι Unit) := by
  intro run error after failed
  rcases bind_eq_error_iff.1 failed with first | ⟨_, between, _, second⟩
  · obtain ⟨cause, stored, _⟩ := commit_eq_error first
    exact ⟨cause, stored⟩
  · obtain ⟨last, undone, _⟩ := orUndo_eq_error second
    exact failsByIndex_performAll projectId _ _ _ _ _ _ undone

/-! ## A sync as a whole -/

theorem contained_reconcile (setup : Setup) (projectId : String) (listing : List RemoteFile) :
    Contained (reconcile team backend setup projectId listing : Sync ε ι Report) :=
  Contained.bind (untouched_preparedPlan setup projectId listing) fun plan =>
    Contained.of_failsByIndex (failsByIndex_apply projectId plan)

theorem contained_firstImport (setup : Setup) (projectId : String) (remote : RemoteProject) :
    Contained (firstImport team backend setup projectId remote : Sync ε ι Outcome) := by
  refine Contained.bind (untouched_importedRecords setup projectId remote.files) fun files => ?_
  refine Contained.bind_of_total
    (Contained.of_failsByIndex (failsByIndex_addProject projectId remote.project files)) ?_
  exact fun _ _ _ _ => pure_ne_error

theorem contained_settle (setup : Setup) (projectId : String) (remote : RemoteProject)
    (indexed : Bool) :
    Contained (settle team backend setup projectId remote indexed : Sync ε ι Outcome) := by
  unfold settle
  split
  · exact Contained.bind_of_total (contained_reconcile setup projectId remote.files)
      fun _ _ _ _ => pure_ne_error
  · exact contained_firstImport setup projectId remote

theorem contained_syncProject (setup : Setup) (address : String) :
    Contained (syncProject team backend setup address : Sync ε ι Outcome) := by
  refine Contained.bind (untouched_survey setup address) fun surveyed => ?_
  refine Contained.bind_of_total
    (contained_settle setup surveyed.1 surveyed.2.1 surveyed.2.2) ?_
  intro outcome between cause last finished
  rcases bind_eq_error_iff.1 finished with reported | ⟨_, reported, _, ended⟩
  · cases reported
  · exact absurd ended pure_ne_error

/-- **A sync that fails for a reason outside the index leaves the index alone.** It attempts no
write, whether the project was indexed or not and wherever the failure came from. -/
theorem syncProject_untouched (team : Collaborators ε) (backend : Backend ι) (setup : Setup)
    (address : String) (run after : Run ε ι) (error : SyncError)
    (failed : syncProject team backend setup address run = (.error error, after))
    (outside : ∀ cause, error ≠ .store cause) :
    after.index = run.index ∧
      ∃ acts, after.session.trace = run.session.trace ++ acts ∧
        ∀ act ∈ acts, act.attemptsWrite = false := by
  have untouched := contained_syncProject setup address run error after failed outside
  exact ⟨untouched.index, untouched.session⟩

/-- An indexed project with one new and one changed file. The parser reads the new one and dies over
the changed one. -/
def crashing : Run Stage MemoryIndex :=
  Scene.opening
    [Scene.entry "A.java" "2", Scene.entry "B.java" "1"]
    [⟨.file, "/w/o/p/B.java", [.text "\x7b\x7d"]⟩, ⟨.file, "/w/o/p/A.java", [.crashed]⟩] []
    (Scene.indexed
      [Scene.entry "A.java" "1", Scene.entry "C.java" "1"])

/-- Nothing is written when the parser dies over the last file of a reconciliation. -/
theorem syncProject_untouched_crashing :
    let synced := syncProject Stage.team MemoryIndex.backend Scene.setup "o/p"
      crashing
    synced.1 = .error .task ∧ synced.2.index = crashing.index ∧
      ∃ acts, synced.2.session.trace = crashing.session.trace ++ acts ∧
        ∀ act ∈ acts, act.attemptsWrite = false := by
  intro synced
  have ended : synced.1 = .error .task := by rfl
  have outside : ∀ cause, SyncError.task ≠ .store cause := by
    intro cause equal
    cases equal
  exact ⟨ended, syncProject_untouched Stage.team MemoryIndex.backend
    Scene.setup "o/p" crashing synced.2 .task (Prod.ext ended rfl) outside⟩

end SourceIndex.Sync
