import Mathlib.Data.List.Nodup
import SourceIndex.Proofs.Address
import SourceIndex.Proofs.Index.Holdings

/-!
# The part of a project

File ids are of one kind for all projects, so what an index holds is divided in two ways. By the
project that rows are filed under there is what lies outside a project (`Holdings.outside`): writes
of the project leave that alone if the rows they replace are filed under it (`outside_replay`). By
file ids there is the part within a project (`Holdings.within`), which also has rows filed elsewhere
whose ids are of the project's files: what a write of the project does to that part is determined by
that part (`write?_within`).

If every row has an id of its own project, then what is within one project is outside every other
one (`within_outside`), and two holdings with the same parts are the same but for the order
(`same_of_parts`).
-/

set_option autoImplicit false

namespace SourceIndex

/-! ## Ids of a project's files -/

/-- The id is that of a file of the project. -/
def FileRecord.isIdOf (projectId id : String) : Bool :=
  (FileRecord.idOf projectId "").toList.isPrefixOf id.toList

theorem FileRecord.isIdOf_iff {projectId id : String} :
    isIdOf projectId id = true ↔ ∃ path, id = idOf projectId path := by
  rw [isIdOf, List.isPrefixOf_iff_prefix]
  constructor
  · rintro ⟨rest, same⟩
    refine ⟨String.ofList rest, String.toList_inj.1 ?_⟩
    rw [← same]
    simp [idOf]
  · rintro ⟨path, rfl⟩
    exact ⟨path.toList, by simp [idOf]⟩

/-! ## Collections in any order -/

/-- Two collections with the same entries have them in some order. -/
theorem Keyed.perm_of_mem_iff {α : Type} {key : α → String} {first second : Keyed α key}
    (same : ∀ entry, entry ∈ first.entries ↔ entry ∈ second.entries) :
    first.entries.Perm second.entries :=
  (List.perm_ext_iff_of_nodup first.distinct.of_map second.distinct.of_map).2 same

/-! ## Writes of a project -/

/-- The write is of a project or of one of its files. -/
def Write.IsOf (projectId : String) : Write → Prop
  | .createProject project => project.id = projectId
  | .deleteProject id => id = projectId
  | .createFile file | .updateFile file =>
    file.projectId = projectId ∧ FileRecord.isIdOf projectId file.id = true
  | .deleteFile _ => True

/-- The id whose row a write replaces or drops. -/
def Write.replaced? : Write → Option String
  | .updateFile file => some file.id
  | .deleteFile id => some id
  | .createProject _ | .deleteProject _ | .createFile _ => none

namespace Holdings

variable {ρ : Type} [Row ρ] {before after left right : Holdings ρ} {projectId other id : String}
variable {write : Write}

/-! ## Outside a project -/

/-- The other projects, and the rows that are not filed under the project. -/
def outside (holdings : Holdings ρ) (projectId : String) : Holdings ρ :=
  ⟨holdings.projects.filter fun project => project.id != projectId,
    holdings.files.filter fun row => Row.projectId row != projectId⟩

/-- If there is a row under the id, it is filed under the project. -/
def Owned (holdings : Holdings ρ) (projectId id : String) : Prop :=
  ∀ row, holdings.files.find? id = some row → Row.projectId row = projectId

/-- What a project has indexed is filed under it. -/
theorem owned_of_hashesOf {entry : String × String}
    (found : (before.hashesOf projectId).find? id = some entry) : before.Owned projectId id := by
  intro row there
  rw [find?_hashesOf, there] at found
  obtain ⟨kept, filtered, -⟩ := Option.map_eq_some_iff.1 found
  obtain ⟨same, filed⟩ := Option.filter_eq_some_iff.1 filtered
  cases same
  exact eq_of_beq filed

theorem Owned.write? (owned : before.Owned projectId id) (own : write.IsOf projectId)
    (written : before.write? write = some after) : after.Owned projectId id := by
  intro row found
  rw [find?_of_write? written] at found
  cases write with
  | createProject project => exact owned row found
  | deleteProject unwanted => exact owned row (Option.filter_eq_some_iff.1 found).1
  | createFile file =>
    rw [rowAfter] at found
    split at found
    · cases found
      exact (Row.projectId_ofRecord file).trans own.1
    · exact owned row found
  | updateFile file =>
    rw [rowAfter] at found
    split at found
    · obtain ⟨old, -, rfl⟩ := Option.map_eq_some_iff.1 found
      exact (Row.projectId_updatedBy old file).trans own.1
    · exact owned row found
  | deleteFile unwanted =>
    rw [rowAfter] at found
    split at found
    · cases found
    · exact owned row found

/-- The write is of the project and replaces no row but one filed under it. -/
def Confined (holdings : Holdings ρ) (projectId : String) (write : Write) : Prop :=
  write.IsOf projectId ∧ ∀ id, write.replaced? = some id → holdings.Owned projectId id

/-- A confined write leaves what is outside the project alone. -/
theorem Confined.outside_write? (confined : before.Confined projectId write)
    (written : before.write? write = some after) :
    after.outside projectId = before.outside projectId := by
  obtain ⟨own, owned⟩ := confined
  cases write with
  | createProject project =>
    rw [Holdings.write?] at written
    split at written
    · cases written
    · cases written
      have named : project.id = projectId := own
      refine congrArg (Holdings.mk · _)
        (Keyed.filter_put_of_neg (by simp [named]) fun old found => ?_)
      have same := ((before.projects.find?_eq_some_iff _ _).1 found).2
      simp [same, named]
  | deleteProject unwanted =>
    cases written
    cases (show unwanted = projectId from own)
    have projects : (before.projects.erase projectId).filter
        (fun project => project.id != projectId) =
          before.projects.filter fun project => project.id != projectId :=
      Keyed.filter_erase_of_neg fun old found => by
        simp [((before.projects.find?_eq_some_iff _ _).1 found).2]
    have files : (before.files.filter fun row => Row.projectId row != projectId).filter
        (fun row => Row.projectId row != projectId) =
          before.files.filter fun row => Row.projectId row != projectId :=
      Keyed.ext_entries (List.filter_filter.trans (List.filter_congr fun _ _ => Bool.and_self _))
    exact congrArg₂ Holdings.mk projects files
  | createFile file =>
    rw [Holdings.write?] at written
    split at written
    · cases written
    · next absent =>
      cases written
      refine congrArg (Holdings.mk _) (Keyed.filter_put_of_neg ?_ fun old found => ?_)
      · rw [Row.projectId_ofRecord, own.1, bne_self_eq_false]
      · rw [Row.id_ofRecord] at found
        rw [Keyed.contains, found] at absent
        exact absurd rfl absent
  | updateFile file =>
    obtain ⟨row, there, rfl⟩ := Option.map_eq_some_iff.1 written
    refine congrArg (Holdings.mk _) (Keyed.filter_put_of_neg ?_ fun old found => ?_)
    · rw [Row.projectId_updatedBy, own.1, bne_self_eq_false]
    · rw [Row.id_updatedBy] at found
      rw [owned file.id rfl old found, bne_self_eq_false]
  | deleteFile unwanted =>
    cases written
    refine congrArg (Holdings.mk _) (Keyed.filter_erase_of_neg fun old found => ?_)
    rw [owned unwanted rfl old found, bne_self_eq_false]

/-- **Confined writes leave what is outside the project alone.** They are confined by what was there
at the start, since a write of the project leaves a row of the project in place of one. -/
theorem outside_replay {writes : List Write}
    (confined : ∀ write ∈ writes, before.Confined projectId write)
    (written : replay writes before = some after) :
    after.outside projectId = before.outside projectId := by
  induction writes generalizing before with
  | nil =>
    cases written
    rfl
  | cons write rest ih =>
    obtain ⟨between, first, others⟩ := replay_cons_eq_some_iff.1 written
    have here := confined write List.mem_cons_self
    refine (ih (fun later member => ?_) others).trans (here.outside_write? first)
    obtain ⟨own, owned⟩ := confined later (List.mem_cons_of_mem _ member)
    exact ⟨own, fun id replaces => (owned id replaces).write? here.1 first⟩

/-! ## Rows with ids of their projects -/

/-- Every row has an id of the project that it is filed under. -/
def WellNamed (holdings : Holdings ρ) : Prop :=
  ∀ row ∈ holdings.files.entries, ∃ path, Row.id row = FileRecord.idOf (Row.projectId row) path

theorem WellNamed.write? (named : before.WellNamed) (own : write.IsOf projectId)
    (written : before.write? write = some after) : after.WellNamed := by
  have fresh : ∀ file : FileRecord,
      file.projectId = projectId ∧ FileRecord.isIdOf projectId file.id = true →
        ∃ path, file.id = FileRecord.idOf file.projectId path := by
    rintro file ⟨rfl, within⟩
    exact FileRecord.isIdOf_iff.1 within
  cases write with
  | createProject project =>
    rw [Holdings.write?] at written
    split at written
    · cases written
    · cases written
      exact named
  | deleteProject unwanted =>
    cases written
    exact fun row member => named row (List.mem_filter.1 member).1
  | createFile file =>
    rw [Holdings.write?] at written
    split at written
    · cases written
    · cases written
      intro row member
      rcases (Keyed.mem_put _ _ _).1 member with rfl | ⟨there, -⟩
      · rw [Row.id_ofRecord, Row.projectId_ofRecord]
        exact fresh file own
      · exact named row there
  | updateFile file =>
    obtain ⟨old, -, rfl⟩ := Option.map_eq_some_iff.1 written
    intro row member
    rcases (Keyed.mem_put _ _ _).1 member with rfl | ⟨there, -⟩
    · rw [Row.id_updatedBy, Row.projectId_updatedBy]
      exact fresh file own
    · exact named row there
  | deleteFile unwanted =>
    cases written
    exact fun row member => named row (List.mem_filter.1 member).1

theorem WellNamed.replay (named : before.WellNamed) {writes : List Write}
    (own : ∀ write ∈ writes, write.IsOf projectId)
    (written : replay writes before = some after) : after.WellNamed := by
  induction writes generalizing before with
  | nil =>
    cases written
    exact named
  | cons write rest ih =>
    obtain ⟨between, first, others⟩ := replay_cons_eq_some_iff.1 written
    exact ih (named.write? (own write List.mem_cons_self) first)
      (fun later member => own later (List.mem_cons_of_mem _ member)) others

/-! ## Within a project -/

/-- A row of the project: it is filed under it, or its id is that of one of its files. -/
def inProject (projectId : String) (row : ρ) : Bool :=
  Row.projectId row == projectId || FileRecord.isIdOf projectId (Row.id row)

/-- The project itself and its rows. -/
def within (holdings : Holdings ρ) (projectId : String) : Holdings ρ :=
  ⟨holdings.projects.filter fun project => project.id == projectId,
    holdings.files.filter (inProject projectId)⟩

theorem find?_within (holdings : Holdings ρ)
    (named : FileRecord.isIdOf projectId id = true) :
    (holdings.within projectId).files.find? id = holdings.files.find? id := by
  refine (Keyed.find?_filter _ _ _).trans ?_
  cases found : holdings.files.find? id with
  | none => rfl
  | some row =>
    have same := ((holdings.files.find?_eq_some_iff _ _).1 found).2
    refine Option.filter_some_pos ?_
    rw [inProject, same, named, Bool.or_true]

theorem contains_within (holdings : Holdings ρ) (projectId : String) :
    (holdings.within projectId).projects.contains projectId =
      holdings.projects.contains projectId := by
  refine congrArg Option.isSome ((Keyed.find?_filter _ _ _).trans ?_)
  cases found : holdings.projects.find? projectId with
  | none => rfl
  | some project =>
    have same := ((holdings.projects.find?_eq_some_iff _ _).1 found).2
    exact Option.filter_some_pos (by simp [same])

/-- The rows filed under a project are within it. -/
theorem rowsOf_within (holdings : Holdings ρ) (projectId : String) :
    (holdings.within projectId).rowsOf projectId = holdings.rowsOf projectId := by
  refine List.filter_filter.trans (List.filter_congr fun row _ => ?_)
  rw [inProject]
  cases Row.projectId row == projectId with
  | true => rfl
  | false => rfl

theorem hashesOf_within (holdings : Holdings ρ) (projectId : String) :
    (holdings.within projectId).hashesOf projectId = holdings.hashesOf projectId :=
  Keyed.ext_entries (congrArg (List.map _) (rowsOf_within holdings projectId))

/-- **What a write of a project does within the project is determined by what is within it.** -/
theorem write?_within (holdings : Holdings ρ) (own : write.IsOf projectId) :
    (holdings.within projectId).write? write =
      (holdings.write? write).map (within · projectId) := by
  -- A row under an id of the project is within the project.
  have replaced : ∀ id, FileRecord.isIdOf projectId id = true →
      ∀ old, holdings.files.find? id = some old → inProject projectId old = true := by
    intro id named old found
    rw [inProject, ((holdings.files.find?_eq_some_iff _ _).1 found).2, named, Bool.or_true]
  cases write with
  | createProject project =>
    cases (show project.id = projectId from own)
    rw [write?, write?, contains_within]
    split
    · rfl
    · refine congrArg (fun projects => some (Holdings.mk projects _))
        (Keyed.filter_put_of_pos (by simp) fun old found => ?_).symm
      simp [((holdings.projects.find?_eq_some_iff _ _).1 found).2]
  | deleteProject unwanted =>
    exact congrArg₂ (fun projects files => some (Holdings.mk projects files))
      (Keyed.filter_comm _ _ _) (Keyed.filter_comm _ _ _)
  | createFile file =>
    have same : (holdings.within projectId).files.contains file.id =
        holdings.files.contains file.id := congrArg Option.isSome (find?_within holdings own.2)
    rw [write?, write?, same]
    split
    · rfl
    · refine congrArg (fun files => some (Holdings.mk _ files))
        (Keyed.filter_put_of_pos ?_ ?_).symm
      · rw [inProject, Row.id_ofRecord, own.2, Bool.or_true]
      · rw [Row.id_ofRecord]
        exact replaced file.id own.2
  | updateFile file =>
    rw [write?, write?, find?_within holdings own.2]
    cases holdings.files.find? file.id with
    | none => rfl
    | some row =>
      refine congrArg (fun files => some (Holdings.mk _ files))
        (Keyed.filter_put_of_pos ?_ ?_).symm
      · rw [inProject, Row.id_updatedBy, own.2, Bool.or_true]
      · rw [Row.id_updatedBy]
        exact replaced file.id own.2
  | deleteFile unwanted =>
    exact congrArg (fun files => some (Holdings.mk _ files)) (Keyed.filter_comm _ _ _)

/-! ## Two projects -/

/-- **What is within one project is outside another one.** -/
theorem within_outside (named : before.WellNamed) (formed : Address.IsProjectId projectId)
    (formed' : Address.IsProjectId other) (apart : projectId ≠ other) :
    (before.outside other).within projectId = before.within projectId := by
  refine congrArg₂ Holdings.mk (Keyed.ext_entries (List.filter_filter.trans ?_))
    (Keyed.ext_entries (List.filter_filter.trans ?_))
  · refine List.filter_congr fun project _ => ?_
    by_cases same : project.id = projectId
    · simp [same, apart]
    · simp [same]
  · refine List.filter_congr fun row there => ?_
    by_cases filed : Row.projectId row = other
    · -- The row has an id of the other project, which is no id of this one.
      have unrelated : FileRecord.isIdOf projectId (Row.id row) = false := by
        refine Bool.eq_false_iff.2 fun related => ?_
        obtain ⟨path, called⟩ := named row there
        obtain ⟨path', alsoCalled⟩ := FileRecord.isIdOf_iff.1 related
        rw [filed, alsoCalled] at called
        exact apart (formed.idOf_inj formed' called).1
      simp [inProject, unrelated, filed, Ne.symm apart]
    · simp [filed]

/-- The same projects and rows, in whatever order. -/
def Same (left right : Holdings ρ) : Prop :=
  left.projects.entries.Perm right.projects.entries ∧ left.files.entries.Perm right.files.entries

theorem outside_comm (holdings : Holdings ρ) (projectId other : String) :
    (holdings.outside projectId).outside other = (holdings.outside other).outside projectId :=
  congrArg₂ Holdings.mk (Keyed.filter_comm _ _ _) (Keyed.filter_comm _ _ _)

/-- **Holdings with the same parts are the same.** -/
theorem same_of_parts (here : left.within projectId = right.within projectId)
    (there : left.within other = right.within other)
    (elsewhere : (left.outside projectId).outside other =
      (right.outside projectId).outside other) : Same left right := by
  constructor
  · refine Keyed.perm_of_mem_iff fun project => ?_
    have own := congrArg (fun part => project ∈ part.projects.entries) here
    have others := congrArg (fun part => project ∈ part.projects.entries) there
    have rest := congrArg (fun part => project ∈ part.projects.entries) elsewhere
    simp only [within, outside, Keyed.filter, List.mem_filter, beq_iff_eq, bne_iff_ne,
      eq_iff_iff] at own others rest
    by_cases first : project.id = projectId
    · simpa [first] using own
    · by_cases second : project.id = other
      · simpa [second] using others
      · simpa [first, second] using rest
  · refine Keyed.perm_of_mem_iff fun row => ?_
    have own := congrArg (fun part => row ∈ part.files.entries) here
    have others := congrArg (fun part => row ∈ part.files.entries) there
    have rest := congrArg (fun part => row ∈ part.files.entries) elsewhere
    simp only [within, outside, inProject, Keyed.filter, List.mem_filter, Bool.or_eq_true,
      beq_iff_eq, bne_iff_ne, eq_iff_iff] at own others rest
    by_cases first : Row.projectId row = projectId
    · simpa [first] using own
    · by_cases second : Row.projectId row = other
      · simpa [second] using others
      · simpa [first, second] using rest

end Holdings

end SourceIndex
