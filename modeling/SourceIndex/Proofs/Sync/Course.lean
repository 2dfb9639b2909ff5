import SourceIndex.Proofs.Plan.Reconciliation
import SourceIndex.Proofs.Sync.Steps

/-!
# The course of a sync

What a sync does to the index is told by the writes that it did and by those that failed, each in
order (`Run.Did`). There are only a few ways it can go (`Course`). Nothing is attempted at all; or
an indexed project is reconciled, by the first writes of the plan for the listing (`Planned`); or a
project that is not indexed is imported (`Addition`). An import is added in full, or fails at the
project, or fails at a file, and then removing the project succeeds or fails as well.

Main statement: every sync takes one of these courses (`syncProject_course`).
-/

set_option autoImplicit false

namespace SourceIndex

open Fallible

variable {ε ι α : Type}

/-! ## Writes done and failed -/

/-- The failed write of an act with its error, if it is one. -/
def Act.failedWrite? (act : Act) : Option (Operation × StoreError) :=
  act.failure?.filter fun failure => failure.1.method.isWrite

/-- From one run to the next these writes were done and these failed, each in order. -/
structure Run.Did (backend : Backend ι) (writes : List Write)
    (failures : List (Operation × StoreError)) (before after : Run ε ι) : Prop where
  index : backend.writeAll writes before.index = .ok after.index
  acts : ∃ acts, after.session.trace = before.session.trace ++ acts ∧
    acts.filterMap Act.write? = writes ∧ acts.filterMap Act.failedWrite? = failures

theorem Act.write?_of_harmless {act : Act} (harmless : act.attemptsWrite = false) :
    act.write? = none := by
  cases act with
  | wrote write => cases harmless
  | _ => rfl

theorem Act.failedWrite?_of_harmless {act : Act} (harmless : act.attemptsWrite = false) :
    act.failedWrite? = none := by
  cases act with
  | failed operation error =>
    change operation.method.isWrite = false at harmless
    exact Option.filter_some_neg (by simpa using harmless)
  | _ => rfl

namespace Run.Did

variable {backend : Backend ι} {before after : Run ε ι}

theorem of_untouched (untouched : Run.Untouched before after) :
    Did backend [] [] before after := by
  obtain ⟨same, acts, extended, harmless⟩ := untouched
  refine ⟨by rw [same]; rfl, acts, extended, ?_, ?_⟩
  · exact List.filterMap_eq_nil_iff.2 fun act member =>
      Act.write?_of_harmless (harmless act member)
  · exact List.filterMap_eq_nil_iff.2 fun act member =>
      Act.failedWrite?_of_harmless (harmless act member)

theorem of_wrote {write : Write} (wrote : Run.Wrote backend write before after) :
    Did backend [write] [] before after :=
  ⟨Backend.writeAll_cons_of_ok wrote.index [], [.wrote write], wrote.trace, rfl, rfl⟩

theorem of_failed {write : Write} {cause : StoreError}
    (failed : Run.Failed write.operation cause before after) :
    Did backend [] [(write.operation, cause)] before after := by
  refine ⟨by rw [failed.index]; rfl, [.failed write.operation cause], failed.trace, rfl, ?_⟩
  have kept : (Act.failed write.operation cause).failedWrite? = some (write.operation, cause) :=
    Option.filter_some_pos write.isWrite_operation
  rw [List.filterMap_cons_some kept]
  rfl

theorem of_performed {projectId : String} {total count : Nat} {writes : List Sync.FileWrite}
    (performed : Sync.Performed backend projectId total count writes before after) :
    Did backend (writes.map Sync.FileWrite.write) [] before after := by
  refine ⟨performed.index, _, performed.trace, Sync.writes_actsOf _ _ _ _, ?_⟩
  refine List.filterMap_eq_nil_iff.2 fun act member => ?_
  have unfailed : act.failure? = none :=
    List.filterMap_eq_nil_iff.1 (Sync.failures_actsOf projectId total count writes) act member
  rw [Act.failedWrite?, unfailed]
  rfl

theorem trans {between : Run ε ι} {earlier later : List Write}
    {first second : List (Operation × StoreError)}
    (start : Did backend earlier first before between)
    (rest : Did backend later second between after) :
    Did backend (earlier ++ later) (first ++ second) before after := by
  obtain ⟨acts, extended, writes, failures⟩ := start.acts
  obtain ⟨others, further, alike, likewise⟩ := rest.acts
  refine ⟨(Backend.writeAll_append_of_ok start.index later).trans rest.index, acts ++ others,
    ?_, ?_, ?_⟩
  · rw [further, extended, List.append_assoc]
  · rw [List.filterMap_append, writes, alike]
  · rw [List.filterMap_append, failures, likewise]

end Run.Did

namespace Sync

variable {team : Collaborators ε} {backend : Backend ι} {setup : Setup} {projectId : String}
variable {run after : Run ε ι}

/-! ## Reconciling -/

/-- The writes are the first ones of the plan that brings a project in line with a listing. -/
def Planned (backend : Backend ι) (index : ι) (projectId : String) (listing : List RemoteFile)
    (writes : List Write) : Prop :=
  writes ≠ [] → ∃ hashes plan, backend.fileHashes index projectId = .ok hashes ∧
    (Plan.make projectId listing hashes).Extracted plan ∧ writes <+: plan.writes

namespace Planned

variable {index : ι} {listing : List RemoteFile} {writes : List Write}

/-- A planned write is of a listed file, or deletes one that is indexed and not listed. -/
theorem cases (planned : Planned backend index projectId listing writes) {write : Write}
    (member : write ∈ writes) :
    (∃ file, (write = .createFile file ∨ write = .updateFile file) ∧
        file.Listed projectId listing) ∨
      ∃ hashes id, write = .deleteFile id ∧ backend.fileHashes index projectId = .ok hashes ∧
        (∃ entry, hashes.find? id = some entry) ∧ id ∉ Plan.listedIds projectId listing := by
  obtain ⟨hashes, plan, answered, extracted, first⟩ := planned (List.ne_nil_of_mem member)
  rcases List.mem_append.1 (first.subset member) with filling | deleting
  · left
    rcases List.mem_append.1 filling with creating | updating
    · obtain ⟨file, asked, rfl⟩ := List.mem_map.1 creating
      exact ⟨file, .inl rfl, extracted.listed_of_asked (.inl asked)⟩
    · obtain ⟨file, asked, rfl⟩ := List.mem_map.1 updating
      exact ⟨file, .inr rfl, extracted.listed_of_asked (.inr asked)⟩
  · right
    obtain ⟨id, asked, rfl⟩ := List.mem_map.1 deleting
    rw [extracted.deletes, Plan.mem_toDelete_iff] at asked
    exact ⟨hashes, id, rfl, answered, asked⟩

theorem filed (planned : Planned backend index projectId listing writes) :
    ∀ write ∈ writes, write.FiledUnder projectId := by
  intro write member
  rcases planned.cases member with ⟨file, rfl | rfl, listed⟩ | ⟨hashes, id, rfl, -⟩
  · exact listed.projectId
  · exact listed.projectId
  · trivial

end Planned

/-- However writes end, those done are the first ones. -/
theorem performAll_did {total count : Nat} {writes : List FileWrite}
    {result : Except SyncError Unit}
    (ended : performAll team backend projectId total count writes run = (result, after)) :
    ∃ done failures, Run.Did backend done failures run after ∧
      done <+: writes.map FileWrite.write := by
  cases result with
  | ok value =>
    exact ⟨_, _, Run.Did.of_performed (performAll_eq_ok ended), List.prefix_rfl⟩
  | error error =>
    obtain ⟨done, culprit, rest, cause, between, rfl, -, performed, failed⟩ :=
      performAll_eq_error ended
    have both := (Run.Did.of_performed performed).trans (Run.Did.of_failed failed)
    rw [List.append_nil] at both
    refine ⟨_, _, both, ?_⟩
    rw [List.map_append]
    exact List.prefix_append _ _

theorem reconcile_did {listing : List RemoteFile} {result : Except SyncError Report}
    (ended : reconcile team backend setup projectId listing run = (result, after)) :
    ∃ writes failures, Run.Did backend writes failures run after ∧
      Planned backend run.index projectId listing writes := by
  have quiet : Keeps Run.Untouched (preparedPlan team backend setup projectId listing) :=
    untouched_preparedPlan setup projectId listing
  rcases bind_cases ended with ⟨error, unprepared, -⟩ | ⟨planned, between, prepared, applying⟩
  · exact ⟨[], [], .of_untouched (quiet.error unprepared), fun some => absurd rfl some⟩
  · obtain ⟨hashes, answered, extracted⟩ := preparedPlan_eq_ok prepared
    have performing : ∃ outcome, performAll team backend projectId planned.writeCount 0
        (writesOf planned) between = (outcome, after) := by
      rcases bind_cases applying with ⟨error, unperformed, -⟩ | ⟨value, last, performed, reported⟩
      · exact ⟨_, unperformed⟩
      · cases reported
        exact ⟨_, performed⟩
    obtain ⟨outcome, performed⟩ := performing
    obtain ⟨done, failures, did, first⟩ := performAll_did performed
    rw [map_write_writesOf] at first
    exact ⟨done, failures, (Run.Did.of_untouched (quiet.ok prepared)).trans did,
      fun _ => ⟨hashes, planned, answered, extracted, first⟩⟩

/-! ## Importing -/

/-- How adding a project with its files can go: the error of the write that failed, if one did, and
the writes done and failed. -/
inductive Addition (projectId : String) (project : Project) (listing : List RemoteFile) :
    Option StoreError → List Write → List (Operation × StoreError) → Prop where
  | added {files : List FileRecord} (listed : ∀ file ∈ files, file.Listed projectId listing) :
      Addition projectId project listing none (additions project files) []
  /-- The project could not be added. -/
  | unadded (cause : StoreError) :
      Addition projectId project listing (some cause) [] [(⟨.createProject, project.id⟩, cause)]
  /-- A file could not be added, and the project was removed again. -/
  | undone {files : List FileRecord} (listed : ∀ file ∈ files, file.Listed projectId listing)
      (culprit : String) (cause : StoreError) :
      Addition projectId project listing (some cause)
        (additions project files ++ [.deleteProject projectId])
        [(⟨.createFile, culprit⟩, cause)]
  /-- A file could not be added, and the project could not be removed. -/
  | stuck {files : List FileRecord} (listed : ∀ file ∈ files, file.Listed projectId listing)
      (culprit : String) (cause reason : StoreError) :
      Addition projectId project listing (some cause) (additions project files)
        [(⟨.createFile, culprit⟩, cause), (⟨.deleteProject, projectId⟩, reason)]

theorem additions_did {project : Project} {files : List FileRecord} {total : Nat}
    {created between : Run ε ι} (wrote : Run.Wrote backend (.createProject project) run created)
    (performed : Performed backend projectId total 0 (files.map .create) created between) :
    Run.Did backend (additions project files) [] run between := by
  have both := (Run.Did.of_wrote wrote).trans (Run.Did.of_performed performed)
  rw [map_write_creates] at both
  exact both

theorem addProject_did {project : Project} {listing : List RemoteFile} {files : List FileRecord}
    (listed : ∀ file ∈ files, file.Listed projectId listing) {result : Except SyncError Unit}
    (ended : addProject team backend projectId project files run = (result, after)) :
    ∃ failure writes failures, Run.Did backend writes failures run after ∧
      Addition projectId project listing failure writes failures ∧
        ∀ cause, failure = some cause → result = .error (.store cause) := by
  rcases bind_cases ended with ⟨error, refused, rfl⟩ | ⟨value, created, creation, ended⟩
  · -- The project cannot be added.
    obtain ⟨cause, rfl, failed⟩ := commit_eq_error refused
    refine ⟨some cause, _, _, .of_failed failed, .unadded cause, ?_⟩
    rintro _ ⟨⟩
    rfl
  · have wrote := createProject_eq_ok creation
    cases result with
    | ok value =>
      have performed := performAll_eq_ok (orUndo_eq_ok_iff.1 ended)
      refine ⟨none, _, _, additions_did wrote performed, .added listed, ?_⟩
      rintro _ ⟨⟩
    | error error =>
      obtain ⟨stopped, unperformed, rfl⟩ := orUndo_eq_error ended
      obtain ⟨done, culprit, rest, cause, last, split, rfl, performed, failed⟩ :=
        performAll_eq_error unperformed
      obtain ⟨written, others, rfl, rfl, remaining⟩ := List.map_eq_append_iff.1 split
      obtain ⟨file, unwritten, rfl, rfl, -⟩ := List.map_eq_cons_iff.1 remaining
      have own : ∀ file ∈ written, file.Listed projectId listing := fun file member =>
        listed file (List.mem_append_left _ member)
      have refused : Run.Failed (Write.createFile file).operation cause last stopped := failed
      have before := (additions_did wrote performed).trans (.of_failed refused)
      rw [List.append_nil] at before
      rcases removal : removeProject team backend projectId stopped with ⟨reason | count, removed⟩
      · -- The project cannot be removed again.
        obtain ⟨reason, -, unremoved⟩ := commit_eq_error removal
        have whole := before.trans (.of_failed unremoved)
        rw [List.append_nil] at whole
        refine ⟨some cause, _, _, whole, .stuck own file.id cause reason, ?_⟩
        rintro _ ⟨⟩
        rfl
      · have whole := before.trans (.of_wrote (removeProject_eq_ok removal))
        refine ⟨some cause, _, _, whole, .undone own file.id cause, ?_⟩
        rintro _ ⟨⟩
        rfl

theorem listed_of_importedRecords {listing : List RemoteFile} {files : List FileRecord}
    (imported : importedRecords team setup projectId listing run = (.ok files, after)) :
    ∀ file ∈ files, file.Listed projectId listing := by
  intro file member
  obtain ⟨source, named, single⟩ := Plan.exists_source (importedRecords_eq_ok imported) member
  obtain ⟨entry, there, rfl⟩ := List.mem_map.1 named
  exact ⟨entry, there, single⟩

theorem firstImport_did {remote : RemoteProject} {result : Except SyncError Outcome}
    (ended : firstImport team backend setup projectId remote run = (result, after)) :
    Run.Did backend [] [] run after ∨
      ∃ failure writes failures, Run.Did backend writes failures run after ∧
        Addition projectId remote.project remote.files failure writes failures ∧
          ∀ cause, failure = some cause → result = .error (.store cause) := by
  have quiet : Keeps Run.Untouched
      (importedRecords team setup projectId remote.files : Sync ε ι (List FileRecord)) :=
    untouched_importedRecords setup projectId remote.files
  rcases bind_cases ended with ⟨error, unextracted, -⟩ | ⟨files, between, extracted, ended⟩
  · exact .inl (.of_untouched (quiet.error unextracted))
  · have listed := listed_of_importedRecords extracted
    have adding : ∃ outcome, addProject team backend projectId remote.project files between =
        (outcome, after) ∧
          ∀ cause, outcome = .error (.store cause) → result = .error (.store cause) := by
      rcases bind_cases ended with ⟨error, unadded, rfl⟩ | ⟨value, last, added, ended⟩
      · refine ⟨_, unadded, ?_⟩
        rintro cause ⟨⟩
        rfl
      · cases ended
        refine ⟨_, added, ?_⟩
        rintro cause ⟨⟩
    obtain ⟨outcome, adding, passed⟩ := adding
    obtain ⟨failure, writes, failures, did, addition, failing⟩ := addProject_did listed adding
    exact .inr ⟨failure, writes, failures,
      (Run.Did.of_untouched (quiet.ok extracted)).trans did, addition,
      fun cause failed => passed cause (failing cause failed)⟩

/-! ## Syncing and deleting -/

/-- What a sync can do to the index: the writes done and failed. -/
inductive Course (team : Collaborators ε) (backend : Backend ι) (address : String)
    (run : Run ε ι) (result : Except SyncError Outcome) :
    List Write → List (Operation × StoreError) → Prop where
  /-- No write is attempted. -/
  | idle : Course team backend address run result [] []
  | reconciled {projectId : String} {remote : RemoteProject} {world : ε} {writes : List Write}
      {failures : List (Operation × StoreError)}
      (spelled : Address.projectId? address = some projectId)
      (found : team.resolve address run.session.world = (.ok (some remote), world))
      (indexed : backend.hasProject run.index projectId = .ok true)
      (planned : Planned backend run.index projectId remote.files writes) :
      Course team backend address run result writes failures
  | imported {projectId : String} {remote : RemoteProject} {world : ε}
      {failure : Option StoreError} {writes : List Write}
      {failures : List (Operation × StoreError)}
      (spelled : Address.projectId? address = some projectId)
      (found : team.resolve address run.session.world = (.ok (some remote), world))
      (unindexed : backend.hasProject run.index projectId = .ok false)
      (addition : Addition projectId remote.project remote.files failure writes failures)
      (failing : ∀ cause, failure = some cause → result = .error (.store cause)) :
      Course team backend address run result writes failures

/-- What comes after the survey of a project. -/
theorem settle_course {address : String} {surveyed : String × RemoteProject × Bool}
    {between : Run ε ι} {result : Except SyncError Outcome}
    (surveying : survey team backend setup address run = (.ok surveyed, between))
    (ended : settle team backend setup surveyed.1 surveyed.2.1 surveyed.2.2 between =
      (result, after)) :
    ∃ writes failures, Run.Did backend writes failures run after ∧
      Course team backend address run result writes failures := by
  have untouched := (untouched_survey setup address).ok surveying
  obtain ⟨spelled, ⟨world, found⟩, answered, -⟩ := survey_eq_ok surveying
  obtain ⟨projectId, remote, indexed⟩ := surveyed
  cases indexed with
  | true =>
    have reconciling : ∃ outcome, reconcile team backend setup projectId remote.files between =
        (outcome, after) := by
      rcases bind_cases ended with ⟨error, unreconciled, -⟩ | ⟨report, last, reconciled, ended⟩
      · exact ⟨_, unreconciled⟩
      · cases ended
        exact ⟨_, reconciled⟩
    obtain ⟨outcome, reconciled⟩ := reconciling
    obtain ⟨writes, failures, did, planned⟩ := reconcile_did reconciled
    rw [untouched.index] at planned
    exact ⟨writes, failures, (Run.Did.of_untouched untouched).trans did,
      .reconciled spelled found answered planned⟩
  | false =>
    rcases firstImport_did ended with idle | ⟨failure, writes, failures, did, addition, failing⟩
    · exact ⟨[], [], (Run.Did.of_untouched untouched).trans idle, .idle⟩
    · exact ⟨writes, failures, (Run.Did.of_untouched untouched).trans did,
        .imported spelled found answered addition failing⟩

/-- **A sync takes one of a few courses**, however it ends. -/
theorem syncProject_course {address : String} {result : Except SyncError Outcome}
    (ended : syncProject team backend setup address run = (result, after)) :
    ∃ writes failures, Run.Did backend writes failures run after ∧
      Course team backend address run result writes failures := by
  rcases bind_cases ended with
    ⟨error, unsurveyed, -⟩ | ⟨⟨projectId, remote, indexed⟩, between, surveying, ended⟩
  · exact ⟨[], [], .of_untouched ((untouched_survey setup address).error unsurveyed), .idle⟩
  · rcases bind_cases ended with ⟨error, unsettled, rfl⟩ | ⟨outcome, settled, settling, ended⟩
    · exact settle_course surveying unsettled
    · cases ended
      obtain ⟨writes, failures, did, course⟩ := settle_course surveying settling
      have reported := did.trans (.of_untouched (untouched_report (.finished projectId) settled))
      rw [List.append_nil, List.append_nil] at reported
      exact ⟨writes, failures, reported, course⟩

/-- Deleting a project does one write or none: it removes the project that the address spells. -/
theorem deleteProject_did {address : String} {result : Except SyncError Outcome}
    (ended : deleteProject team backend address run = (result, after)) :
    ∃ writes failures, Run.Did backend writes failures run after ∧
      (writes = [] ∨ ∃ projectId, Address.projectId? address = some projectId ∧
        writes = [.deleteProject projectId]) := by
  have looks : ∀ projectId,
      Keeps Run.Untouched (hasProject team backend projectId : Sync ε ι Bool) :=
    fun projectId => (inquiring_untouched team backend projectId).hasProject
  rcases bind_cases ended with ⟨error, unnamed, -⟩ | ⟨projectId, named, naming, looking⟩
  · exact ⟨[], [], .of_untouched ((composable_projectIdOf Keeps.composable address).error unnamed),
      .inl rfl⟩
  obtain ⟨spelled, rfl⟩ := projectIdOf_eq_ok naming
  rcases bind_cases looking with ⟨error, unasked, -⟩ | ⟨indexed, asked, asking, removing⟩
  · exact ⟨[], [], .of_untouched ((looks projectId).error unasked), .inl rfl⟩
  have quiet : Run.Did backend [] [] named asked := .of_untouched ((looks projectId).ok asking)
  cases indexed with
  | false =>
    cases removing
    exact ⟨[], [], quiet, .inl rfl⟩
  | true =>
    rcases bind_cases removing with ⟨error, unremoved, -⟩ | ⟨count, removed, removal, reporting⟩
    · obtain ⟨cause, -, failed⟩ := commit_eq_error unremoved
      exact ⟨[], _, quiet.trans (.of_failed failed), .inl rfl⟩
    · cases reporting
      have deleted := quiet.trans (.of_wrote (removeProject_eq_ok removal))
      exact ⟨_, _, deleted.trans (.of_untouched (untouched_report (.finished projectId) removed)),
        .inr ⟨projectId, spelled, rfl⟩⟩

end Sync

end SourceIndex
