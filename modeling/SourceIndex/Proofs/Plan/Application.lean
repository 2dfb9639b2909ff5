import SourceIndex.Plan
import SourceIndex.Proofs.Index.Holdings

/-!
# What a plan does to holdings

The writes of a plan are its creates, then its updates, then its deletes (`Plan.writes`). Done in
full, they leave each row in one of three ways: kept as it was, created from a record of the plan,
or made from an old row by an update of the plan (`Landed`), and no row whose file is to be deleted.

Main statement: these are all the rows and no others (`mem_replay_writes_iff`), provided that the
updates are of different files that were there.
-/

set_option autoImplicit false

namespace SourceIndex

/-- The writes to the index that a plan asks for, in the order they are done. -/
def Plan.writes (plan : Plan) : List Write :=
  plan.toCreate.map .createFile ++ plan.toUpdate.map .updateFile ++ plan.toDelete.map .deleteFile

/-- The writes before one that is no delete are those of a smaller plan, which deletes nothing. -/
theorem Plan.writes_before_fill {plan : Plan} {done rest : List Write} {culprit : Write}
    (split : plan.writes = done ++ culprit :: rest) (filling : ∀ id, culprit ≠ .deleteFile id) :
    ∃ partly : Plan, done = partly.writes ∧ partly.toCreate <+: plan.toCreate ∧
      partly.toUpdate <+: plan.toUpdate ∧ partly.toDelete = [] := by
  rcases List.append_eq_append_iff.1 split with ⟨extra, -, deletes⟩ | ⟨others, filled, -⟩
  · -- The write in question would be one of the deletes.
    have member : culprit ∈ plan.toDelete.map Write.deleteFile := by
      rw [deletes]
      exact List.mem_append_right extra List.mem_cons_self
    obtain ⟨id, -, same⟩ := List.mem_map.1 member
    exact absurd same.symm (filling id)
  · rcases List.append_eq_append_iff.1 filled with ⟨updates, rfl, rest⟩ | ⟨creates, rest, -⟩
    · obtain ⟨updated, within, rfl⟩ := List.prefix_map_iff.1 ⟨others, rest.symm⟩
      exact ⟨⟨plan.toCreate, updated, [], 0⟩, (List.append_nil _).symm, List.prefix_rfl, within,
        rfl⟩
    · obtain ⟨created, within, rfl⟩ := List.prefix_map_iff.1 ⟨creates, rest.symm⟩
      exact ⟨⟨created, [], [], 0⟩, by simp [writes], within, List.nil_prefix, rfl⟩

namespace Holdings

variable {ρ : Type} [Row ρ] {plan : Plan} {before after : Holdings ρ}

/-- How a row comes to be there when a plan was applied to holdings. -/
inductive Landed (plan : Plan) (before : Holdings ρ) : ρ → Prop where
  /-- The row was there and no update is of its file. -/
  | kept {row : ρ} (there : row ∈ before.files.entries)
      (spared : ∀ file ∈ plan.toUpdate, file.id ≠ Row.id row) : Landed plan before row
  | created {file : FileRecord} (asked : file ∈ plan.toCreate) :
      Landed plan before (Row.ofRecord file)
  | updated {old : ρ} {file : FileRecord} (there : old ∈ before.files.entries)
      (asked : file ∈ plan.toUpdate) (same : file.id = Row.id old) :
      Landed plan before (Row.updatedBy old file)

/-- The rows after a plan, as one list. -/
theorem entries_replay_writes (written : replay plan.writes before = some after) :
    after.projects = before.projects ∧
      ((before.files.entries ++ plan.toCreate.map Row.ofRecord).map fun row =>
        Row.id row).Nodup ∧
      after.files.entries =
        ((before.files.entries ++ plan.toCreate.map Row.ofRecord).map
          (Row.updatedByAll plan.toUpdate)).filter fun row =>
            !plan.toDelete.contains (Row.id row) := by
  obtain ⟨filled, filling, deleting⟩ := replay_append_eq_some_iff.1 written
  obtain ⟨between, creating, updating⟩ := replay_append_eq_some_iff.1 filling
  obtain ⟨keptFirst, created⟩ := entries_replay_creates creating
  obtain ⟨keptSecond, updated⟩ := entries_replay_updates updating
  obtain ⟨keptThird, deleted⟩ := entries_replay_deletes deleting
  refine ⟨keptThird.trans (keptSecond.trans keptFirst), ?_, ?_⟩
  · rw [← created]
    exact between.files.distinct
  · rw [deleted, updated, created]

/-- Created rows have new ids of their own. -/
theorem distinct_of_replay_writes (written : replay plan.writes before = some after) :
    (plan.toCreate.map FileRecord.id).Nodup ∧
      ∀ file ∈ plan.toCreate, ∀ row ∈ before.files.entries, Row.id row ≠ file.id := by
  obtain ⟨-, distinct, -⟩ := entries_replay_writes written
  rw [List.map_append, List.nodup_append] at distinct
  obtain ⟨-, once, apart⟩ := distinct
  rw [List.map_map] at once apart
  have ids : ((fun row : ρ => Row.id row) ∘ Row.ofRecord) = FileRecord.id :=
    funext fun file => Row.id_ofRecord file
  rw [ids] at once apart
  exact ⟨once, fun file asked row there =>
    apart _ (List.mem_map_of_mem there) _ (List.mem_map_of_mem asked)⟩

variable (distinct : (plan.toUpdate.map FileRecord.id).Nodup)
  (known : ∀ file ∈ plan.toUpdate, ∃ row ∈ before.files.entries, Row.id row = file.id)
include distinct known

/-- **The rows after a plan was applied** are those it kept, created or updated and did not
delete. -/
theorem mem_replay_writes_iff (written : replay plan.writes before = some after) {row : ρ} :
    row ∈ after.files.entries ↔ Row.id row ∉ plan.toDelete ∧ Landed plan before row := by
  obtain ⟨-, -, entries⟩ := entries_replay_writes written
  obtain ⟨-, fresh⟩ := distinct_of_replay_writes written
  -- No update is of a file that was just created.
  have untouched : ∀ file ∈ plan.toCreate,
      Row.updatedByAll plan.toUpdate (Row.ofRecord file : ρ) = Row.ofRecord file := by
    intro file asked
    refine Row.updatedByAll_of_absent fun other updates equal => ?_
    obtain ⟨old, there, named⟩ := known other updates
    rw [Row.id_ofRecord] at equal
    exact fresh file asked old there (named.trans equal)
  have landed : row ∈ (before.files.entries ++ plan.toCreate.map Row.ofRecord).map
      (Row.updatedByAll plan.toUpdate) ↔ Landed plan before row := by
    rw [List.mem_map]
    constructor
    · rintro ⟨source, member, rfl⟩
      rcases List.mem_append.1 member with there | new
      · by_cases named : ∃ file ∈ plan.toUpdate, file.id = Row.id source
        · obtain ⟨file, asked, same⟩ := named
          rw [Row.updatedByAll_of_mem distinct asked same]
          exact .updated there asked same
        · have spared : ∀ file ∈ plan.toUpdate, file.id ≠ Row.id source :=
            fun file asked same => named ⟨file, asked, same⟩
          rw [Row.updatedByAll_of_absent spared]
          exact .kept there spared
      · obtain ⟨file, asked, rfl⟩ := List.mem_map.1 new
        rw [untouched file asked]
        exact .created asked
    · rintro (⟨there, spared⟩ | ⟨asked⟩ | ⟨there, asked, same⟩)
      · exact ⟨row, List.mem_append_left _ there, Row.updatedByAll_of_absent spared⟩
      · exact ⟨_, List.mem_append_right _ (List.mem_map_of_mem asked), untouched _ asked⟩
      · exact ⟨_, List.mem_append_left _ there, Row.updatedByAll_of_mem distinct asked same⟩
  rw [entries, List.mem_filter, landed, and_comm, Bool.not_eq_true', List.contains_eq_mem,
    decide_eq_false_iff_not]

end Holdings

end SourceIndex
