import SourceIndex.Address
import SourceIndex.Record

/-!
# Ids of projects and their files

The id of a project that an address spells is an owner and a name with one slash between them, since
both are segments of a path (`isProjectId_of_projectId?`). The id of a file is the id of its
project, a slash and a path, so a file's id determines the project and the path, although the path
has slashes of its own (`IsProjectId.idOf_inj`).
-/

set_option autoImplicit false

namespace SourceIndex

/-! ## Texts cut at a separator -/

section

variable {α : Type} {separator : α}

/-- What stands between separators has none. -/
theorem separator_notMem_of_mem_splitOn [BEq α] [LawfulBEq α] {items segment : List α}
    (member : segment ∈ items.splitOn separator) : separator ∉ segment := by
  rw [List.splitOn_eq_splitOnP] at member
  induction items generalizing segment with
  | nil =>
    rw [List.splitOnP_nil, List.mem_singleton] at member
    exact member ▸ List.not_mem_nil
  | cons item rest ih =>
    rw [List.splitOnP_cons_eq_if_modifyHead] at member
    split at member
    · rcases List.mem_cons.1 member with rfl | later
      · exact List.not_mem_nil
      · exact ih later
    · next other =>
      -- The item goes in front of the first segment of the rest.
      obtain ⟨first, others, cut⟩ := List.exists_cons_of_ne_nil
        (List.splitOnP_ne_nil (· == separator) rest)
      rw [cut, List.modifyHead_cons] at member
      rw [cut] at ih
      rcases List.mem_cons.1 member with rfl | later
      · intro within
        rcases List.mem_cons.1 within with rfl | inside
        · exact other BEq.rfl
        · exact ih List.mem_cons_self inside
      · exact ih (List.mem_cons_of_mem first later)

/-- Two texts that are cut at their first separators have equal parts if they are equal. -/
theorem append_separator_inj {first other rest remainder : List α} (clean : separator ∉ first)
    (pure : separator ∉ other)
    (same : first ++ separator :: rest = other ++ separator :: remainder) :
    first = other ∧ rest = remainder := by
  induction first generalizing other with
  | nil =>
    cases other with
    | nil =>
      cases same
      exact ⟨rfl, rfl⟩
    | cons item more =>
      cases same
      exact absurd List.mem_cons_self pure
  | cons item more ih =>
    cases other with
    | nil =>
      cases same
      exact absurd List.mem_cons_self clean
    | cons head tail =>
      obtain ⟨rfl, equal⟩ := List.cons.inj same
      obtain ⟨rfl, remaining⟩ := ih (fun within => clean (List.mem_cons_of_mem _ within))
        (fun within => pure (List.mem_cons_of_mem _ within)) equal
      exact ⟨rfl, remaining⟩

end

namespace Address

/-! ## Ids of projects -/

/-- An owner and a name, neither of which has a slash, with a slash between them. -/
def IsProjectId (id : String) : Prop :=
  ∃ owner name : List Char, '/' ∉ owner ∧ '/' ∉ name ∧ id.toList = owner ++ '/' :: name

/-- The owner and the name of an address are segments of it: neither is empty or has a slash. -/
theorem parts_of_projectId? {address id : String} (spelled : projectId? address = some id) :
    ∃ owner name : List Char, ('/' ∉ owner ∧ owner ≠ []) ∧ ('/' ∉ name ∧ name ≠ []) ∧
      id.toList = owner ++ '/' :: name := by
  obtain ⟨⟨owner, name⟩, parts, rfl⟩ := Option.map_eq_some_iff.1 spelled
  unfold ownerAndName? at parts
  dsimp only at parts
  split at parts
  · next last before earlier cut =>
    split at parts
    · cases parts
    · cases parts
      have segment : ∀ piece ∈ [name, owner], '/' ∉ piece ∧ piece ≠ [] := by
        intro piece member
        have within := List.mem_append_left earlier member
        rw [show [name, owner] ++ earlier = name :: owner :: earlier from rfl, ← cut,
          List.mem_reverse] at within
        obtain ⟨between, filled⟩ := List.mem_filter.1 within
        exact ⟨separator_notMem_of_mem_splitOn between, by simpa using filled⟩
      exact ⟨owner, name, segment owner (by simp), segment name (by simp), String.toList_ofList⟩
  · cases parts

theorem isProjectId_of_projectId? {address id : String} (spelled : projectId? address = some id) :
    IsProjectId id := by
  obtain ⟨owner, name, ⟨clean, -⟩, ⟨pure, -⟩, parts⟩ := parts_of_projectId? spelled
  exact ⟨owner, name, clean, pure, parts⟩

namespace IsProjectId

variable {id other : String}

/-- The id of a project has one slash. -/
theorem count_slash (formed : IsProjectId id) : id.toList.count '/' = 1 := by
  obtain ⟨owner, name, clean, pure, spelled⟩ := formed
  rw [spelled, List.count_append, List.count_cons_self, List.count_eq_zero_of_not_mem clean,
    List.count_eq_zero_of_not_mem pure]

/-- **The id of a file determines its project and its path.** -/
theorem idOf_inj (formed : IsProjectId id) (formed' : IsProjectId other) {path path' : String}
    (same : FileRecord.idOf id path = FileRecord.idOf other path') : id = other ∧ path = path' := by
  obtain ⟨owner, name, clean, pure, spelled⟩ := formed
  obtain ⟨owner', name', clean', pure', spelled'⟩ := formed'
  have texts := congrArg String.toList same
  simp only [FileRecord.idOf, String.toList_append, spelled, spelled', List.append_assoc,
    List.cons_append] at texts
  obtain ⟨rfl, rest⟩ := append_separator_inj clean clean' texts
  obtain ⟨rfl, paths⟩ := append_separator_inj pure pure' rest
  exact ⟨String.toList_inj.1 (spelled.trans spelled'.symm), String.toList_inj.1 paths⟩

end IsProjectId

end Address

end SourceIndex
