import SourceIndex.Proofs.Index.Holdings

/-!
# Rows under their projects

Holdings are anchored when every row is filed under a project that is there. Adding a project keeps
them anchored, and so does removing one together with its rows (`Anchored.createProject`,
`Anchored.deleteProject`). A write of a file does if its project is there, and then the projects
stay as they are, so that any number of such writes does (`Anchored.replay_filed`).

Adding a project with files and removing it again changes nothing at all (`replay_undone`): no row
was filed under the project before.
-/

set_option autoImplicit false

namespace SourceIndex

/-- The write is of a file that is filed under a project. -/
def Write.FiledUnder (projectId : String) : Write → Prop
  | .createFile file | .updateFile file => file.projectId = projectId
  | .deleteFile _ => True
  | .createProject _ | .deleteProject _ => False

/-- The hash that a write of a file leaves behind, if it leaves the file there. -/
def Write.sha? : Write → Option String
  | .createFile file | .updateFile file => some file.sha
  | .createProject _ | .deleteProject _ | .deleteFile _ => none

/-- The writes that add a project with its files. -/
def additions (project : Project) (files : List FileRecord) : List Write :=
  .createProject project :: files.map .createFile

namespace Holdings

variable {ρ : Type} [Row ρ] {before after : Holdings ρ} {projectId : String}

theorem anchored_empty : (empty : Holdings ρ).Anchored := by
  intro row member
  cases member

/-- No row is filed under a project that is not there. -/
theorem Anchored.rowsOf_of_absent (anchored : before.Anchored)
    (absent : before.projects.contains projectId = false) : before.rowsOf projectId = [] := by
  refine List.filter_eq_nil_iff.2 fun row there filed => ?_
  have contained := anchored row there
  rw [eq_of_beq filed, absent] at contained
  cases contained

/-! ## One write -/

theorem Anchored.createProject (anchored : before.Anchored) {project : Project}
    (written : before.write? (.createProject project) = some after) :
    after.Anchored ∧ after.projects.contains project.id = true := by
  rw [write?] at written
  split at written
  · cases written
  · cases written
    refine ⟨fun row there => ?_, (Keyed.contains_put _ _ _).2 (.inl rfl)⟩
    exact (Keyed.contains_put _ _ _).2 (.inr (anchored row there))

theorem Anchored.deleteProject (anchored : before.Anchored) {id : String}
    (written : before.write? (.deleteProject id) = some after) : after.Anchored := by
  cases written
  intro row member
  obtain ⟨there, other⟩ := List.mem_filter.1 member
  exact (Keyed.contains_erase _ _ _).2 ⟨by simpa using other, anchored row there⟩

/-- A write of a file whose project is there. -/
theorem Anchored.filed (anchored : before.Anchored) {write : Write}
    (filed : write.FiledUnder projectId) (present : before.projects.contains projectId = true)
    (written : before.write? write = some after) :
    after.Anchored ∧ after.projects = before.projects := by
  cases write with
  | createProject project => exact filed.elim
  | deleteProject id => exact filed.elim
  | createFile file =>
    rw [write?] at written
    split at written
    · cases written
    · cases written
      refine ⟨fun row member => ?_, rfl⟩
      rcases (Keyed.mem_put _ _ _).1 member with rfl | ⟨there, -⟩
      · rw [Row.projectId_ofRecord, show file.projectId = projectId from filed]
        exact present
      · exact anchored row there
  | updateFile file =>
    obtain ⟨old, found, rfl⟩ := Option.map_eq_some_iff.1 written
    refine ⟨fun row member => ?_, rfl⟩
    rcases (Keyed.mem_put _ _ _).1 member with rfl | ⟨there, -⟩
    · rw [Row.projectId_updatedBy, show file.projectId = projectId from filed]
      exact present
    · exact anchored row there
  | deleteFile id =>
    cases written
    exact ⟨fun row member => anchored row (List.mem_filter.1 member).1, rfl⟩

/-- Of the hashes of a project, a write of a file changes that of its own file. -/
theorem find?_hashesOf_of_write? {write : Write} (filed : write.FiledUnder projectId)
    (written : before.write? write = some after) (id : String) :
    (after.hashesOf projectId).find? id =
      if id = write.operation.id then write.sha?.map (id, ·)
      else (before.hashesOf projectId).find? id := by
  rw [find?_hashesOf, find?_hashesOf, find?_of_write? written]
  cases write with
  | createProject project => exact filed.elim
  | deleteProject other => exact filed.elim
  | createFile file =>
    change _ = if id = file.id then some (id, file.sha) else _
    by_cases same : id = file.id
    · rw [rowAfter, if_pos same, if_pos same,
        map_filter_own ((Row.projectId_ofRecord file).trans filed), Row.sha_ofRecord]
    · rw [rowAfter, if_neg same, if_neg same]
  | updateFile file =>
    change _ = if id = file.id then some (id, file.sha) else _
    obtain ⟨row, found, -⟩ := Option.map_eq_some_iff.1 written
    by_cases same : id = file.id
    · rw [rowAfter, if_pos same, if_pos same, same, found, Option.map_some,
        map_filter_own ((Row.projectId_updatedBy row file).trans filed), Row.sha_updatedBy]
    · rw [rowAfter, if_neg same, if_neg same]
  | deleteFile unwanted =>
    by_cases same : id = unwanted
    · simp [rowAfter, Write.operation, Write.sha?, same]
    · simp [rowAfter, Write.operation, same]

/-! ## Writes in order -/

theorem Anchored.replay_filed (anchored : before.Anchored) {writes : List Write}
    (filed : ∀ write ∈ writes, write.FiledUnder projectId)
    (present : before.projects.contains projectId = true)
    (written : replay writes before = some after) : after.Anchored := by
  induction writes generalizing before with
  | nil =>
    cases written
    exact anchored
  | cons write rest ih =>
    obtain ⟨between, first, others⟩ := replay_cons_eq_some_iff.1 written
    obtain ⟨kept, same⟩ := anchored.filed (filed write List.mem_cons_self) present first
    rw [← same] at present
    exact ih kept (fun other member => filed other (List.mem_cons_of_mem write member)) present
      others

variable {project : Project} {files : List FileRecord}

theorem Anchored.replay_additions (anchored : before.Anchored) (named : project.id = projectId)
    (filed : ∀ file ∈ files, file.projectId = projectId)
    (written : replay (additions project files) before = some after) : after.Anchored := by
  obtain ⟨between, first, others⟩ := replay_cons_eq_some_iff.1 written
  obtain ⟨kept, present⟩ := anchored.createProject first
  rw [named] at present
  refine kept.replay_filed (fun write member => ?_) present others
  obtain ⟨file, asked, rfl⟩ := List.mem_map.1 member
  exact filed file asked

theorem replay_additions (written : replay (additions project files) before = some after) :
    after.projects = before.projects.put project ∧
      after.files.entries = before.files.entries ++ files.map Row.ofRecord := by
  obtain ⟨between, first, others⟩ := replay_cons_eq_some_iff.1 written
  obtain ⟨same, added⟩ := entries_replay_creates others
  rw [write?] at first
  split at first
  · cases first
  · cases first
    exact ⟨same, added⟩

/-- **Removing a project undoes adding it**, with as many of its files as were added. -/
theorem replay_undone (anchored : before.Anchored) (named : project.id = projectId)
    (absent : before.projects.contains projectId = false)
    (filed : ∀ file ∈ files, file.projectId = projectId)
    (written : replay (additions project files ++ [.deleteProject projectId]) before =
      some after) : after = before := by
  obtain ⟨between, adding, removing⟩ := replay_append_eq_some_iff.1 written
  obtain ⟨last, removed, ended⟩ := replay_cons_eq_some_iff.1 removing
  cases ended
  cases removed
  obtain ⟨projects, entries⟩ := replay_additions adding
  subst named
  have restored : (between.files.filter fun row => Row.projectId row != project.id) =
      before.files := by
    refine Keyed.ext_entries ?_
    change between.files.entries.filter _ = _
    rw [entries, List.filter_append, List.filter_eq_self.2, List.filter_eq_nil_iff.2]
    · exact List.append_nil _
    · intro row member other
      obtain ⟨file, asked, rfl⟩ := List.mem_map.1 member
      rw [Row.projectId_ofRecord, filed file asked] at other
      simp at other
    · intro row there
      have apart := List.filter_eq_nil_iff.1 (anchored.rowsOf_of_absent absent) row there
      simpa using apart
  rw [projects, Keyed.erase_put_of_absent absent, restored]

end Holdings

end SourceIndex
