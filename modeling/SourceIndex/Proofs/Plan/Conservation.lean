import Mathlib.Data.List.Nodup
import SourceIndex.Proofs.Plan.Making

/-!
# What becomes of listed and indexed files

A plan accounts for every entry of a listing and for every indexed file, also when paths are listed
more than once. Each entry is created, updated or counted as unchanged, in the order of the listing.
Of each indexed file the first entry for it decides, since the file is struck off there: the file is
kept, updated with that entry, or deleted because there is none (`Plan.Treated`).

Main statements: the account of a plan (`Plan.make_accounts`), and that a plan asks for nothing
exactly if the listing says what the index says, each file once (`Plan.isEmpty_make_iff`).
-/

set_option autoImplicit false

namespace SourceIndex

/-- An entry found under a key is counted apart from those under other keys. -/
theorem Keyed.countP_of_find? {α : Type} {key : α → String} {collection : Keyed α key}
    {wanted : String} {entry : α} (found : collection.find? wanted = some entry)
    (test : α → Bool) :
    collection.entries.countP test =
      (collection.erase wanted).entries.countP test + if test entry then 1 else 0 := by
  obtain ⟨named, before, after, split, earlier⟩ := List.find?_eq_some_iff_append.1 found
  have here : key entry = wanted := by simpa using named
  have distinct := collection.distinct
  rw [split, List.map_append, List.map_cons, List.nodup_append, List.nodup_cons] at distinct
  obtain ⟨-, ⟨once, -⟩, -⟩ := distinct
  have later : ∀ other ∈ after, (key other != wanted) = true := fun other member =>
    bne_iff_ne.2 fun same => once (here.trans same.symm ▸ List.mem_map_of_mem member)
  have sooner : ∀ other ∈ before, (key other != wanted) = true := earlier
  have others : (collection.erase wanted).entries = before ++ after := by
    change collection.entries.filter (fun other => key other != wanted) = before ++ after
    rw [split, List.filter_append, List.filter_cons_of_neg (by simp [here]),
      List.filter_eq_self.2 later, List.filter_eq_self.2 sooner]
  rw [others, split, List.countP_append, List.countP_append, List.countP_cons, Nat.add_assoc]

namespace Plan

variable {projectId : String} {listing : List RemoteFile} {left : Hashes} {id : String}

/-! ## The first entry for a file -/

/-- The first entry of a listing for a file. -/
def firstListed? (projectId : String) (listing : List RemoteFile) (id : String) :
    Option RemoteFile :=
  listing.find? fun remote => FileRecord.idOf projectId remote.path == id

theorem firstListed?_cons_self (projectId : String) (remote : RemoteFile)
    (rest : List RemoteFile) :
    firstListed? projectId (remote :: rest) (FileRecord.idOf projectId remote.path) =
      some remote :=
  List.find?_cons_of_pos (beq_self_eq_true _)

theorem firstListed?_cons_of_ne {remote : RemoteFile}
    (apart : FileRecord.idOf projectId remote.path ≠ id) (rest : List RemoteFile) :
    firstListed? projectId (remote :: rest) id = firstListed? projectId rest id :=
  List.find?_cons_of_neg (by simpa using apart)

theorem firstListed?_eq_none_iff :
    firstListed? projectId listing id = none ↔ id ∉ listedIds projectId listing := by
  simp [firstListed?, listedIds]

/-- A file is struck off where it is first listed, so later entries find it gone. -/
theorem find?_of_step {remote : RemoteFile} {indexed : String × String} (id : String)
    (found : left.find? (FileRecord.idOf projectId remote.path) = some indexed)
    (rest : List RemoteFile) :
    (FileRecord.idOf projectId remote.path = id ∧
        (left.erase (FileRecord.idOf projectId remote.path)).find? id = none ∧
        left.find? id = some indexed ∧
        firstListed? projectId (remote :: rest) id = some remote) ∨
      (FileRecord.idOf projectId remote.path ≠ id ∧
        (left.erase (FileRecord.idOf projectId remote.path)).find? id = left.find? id ∧
        firstListed? projectId (remote :: rest) id = firstListed? projectId rest id) := by
  by_cases same : FileRecord.idOf projectId remote.path = id
  · subst same
    refine .inl ⟨rfl, ?_, found, firstListed?_cons_self projectId remote rest⟩
    rw [Keyed.find?_erase, if_pos rfl]
  · refine .inr ⟨same, ?_, firstListed?_cons_of_ne same rest⟩
    rw [Keyed.find?_erase, if_neg fun equal => same equal.symm]

/-- In a listing without repetitions, an entry is the first one for its file. -/
theorem firstListed?_of_distinct (distinct : (listedIds projectId listing).Nodup)
    {remote : RemoteFile} (listed : remote ∈ listing) :
    firstListed? projectId listing (FileRecord.idOf projectId remote.path) = some remote := by
  cases first : firstListed? projectId listing (FileRecord.idOf projectId remote.path) with
  | none =>
    exact absurd (List.mem_map_of_mem listed) (firstListed?_eq_none_iff.1 first)
  | some other =>
    have named := List.find?_some first
    rw [List.inj_on_of_nodup_map distinct (List.mem_of_find?_eq_some first) listed
      (eq_of_beq named)]

/-- The ids of listed files repeat where their paths do. -/
theorem nodup_listedIds_iff (projectId : String) (listing : List RemoteFile) :
    (listedIds projectId listing).Nodup ↔ (listing.map RemoteFile.path).Nodup := by
  have injective : Function.Injective (FileRecord.idOf projectId) := fun path other same =>
    String.append_right_inj (projectId ++ "/") |>.1 same
  have same : ((listing.map RemoteFile.path).map (FileRecord.idOf projectId)).Nodup ↔
      (listing.map RemoteFile.path).Nodup := List.nodup_map_iff injective
  rw [List.map_map] at same
  exact same

/-! ## Entries of the listing -/

theorem sublist_make (projectId : String) (listing : List RemoteFile) (left : Hashes) :
    (make projectId listing left).toCreate.Sublist (listing.map (FileRecord.ofRemote projectId)) ∧
      (make projectId listing left).toUpdate.Sublist
        (listing.map (FileRecord.ofRemote projectId)) := by
  induction listing generalizing left with
  | nil => exact ⟨.slnil, .slnil⟩
  | cons remote rest ih =>
    rw [List.map_cons]
    cases found : left.find? (FileRecord.idOf projectId remote.path) with
    | none =>
      obtain ⟨creates, updates⟩ := ih left
      rw [make_cons_of_absent found]
      exact ⟨creates.cons_cons _, updates.cons _⟩
    | some indexed =>
      obtain ⟨creates, updates⟩ := ih (left.erase (FileRecord.idOf projectId remote.path))
      by_cases same : indexed.2 = remote.sha
      · rw [make_cons_of_same found same]
        exact ⟨creates.cons _, updates.cons _⟩
      · rw [make_cons_of_changed found same]
        exact ⟨creates.cons _, updates.cons_cons _⟩

/-! ## Indexed files -/

/-- A file is updated at most once: with the first entry for it, if the hash there differs. -/
theorem filter_id_toUpdate (projectId : String) (listing : List RemoteFile) (left : Hashes)
    (id : String) :
    ((make projectId listing left).toUpdate.filter fun file => file.id == id) =
      ((firstListed? projectId listing id).filter fun remote =>
        (left.find? id).any fun entry => entry.2 != remote.sha).toList.map
          (FileRecord.ofRemote projectId) := by
  induction listing generalizing left with
  | nil => rfl
  | cons remote rest ih =>
    cases found : left.find? (FileRecord.idOf projectId remote.path) with
    | none =>
      rw [make_cons_of_absent found, ih left]
      by_cases here : FileRecord.idOf projectId remote.path = id
      · subst here
        simp [found]
      · rw [firstListed?_cons_of_ne here]
    | some indexed =>
      rcases find?_of_step id found rest with ⟨here, gone, there, first⟩ | ⟨apart, still, first⟩
      · have later := ih (left.erase (FileRecord.idOf projectId remote.path))
        rw [gone] at later
        rw [first, there]
        by_cases same : indexed.2 = remote.sha
        · rw [make_cons_of_same found same]
          refine later.trans ?_
          simp [same]
        · rw [make_cons_of_changed found same,
            List.filter_cons_of_pos (by simpa [FileRecord.ofRemote] using here), later,
            Option.filter_some_pos (by simpa using same)]
          simp
      · have later := ih (left.erase (FileRecord.idOf projectId remote.path))
        rw [still] at later
        rw [first, ← later]
        by_cases same : indexed.2 = remote.sha
        · rw [make_cons_of_same found same]
        · rw [make_cons_of_changed found same,
            List.filter_cons_of_neg (by simpa [FileRecord.ofRemote] using apart)]

/-- The first entry for an indexed file has its hash. -/
def listedAs (projectId : String) (listing : List RemoteFile) (entry : String × String) : Bool :=
  (firstListed? projectId listing entry.1).any fun remote => entry.2 == remote.sha

theorem listedAs_cons_of_ne {remote : RemoteFile} {entry : String × String}
    (apart : entry.1 ≠ FileRecord.idOf projectId remote.path) (rest : List RemoteFile) :
    listedAs projectId (remote :: rest) entry = listedAs projectId rest entry := by
  rw [listedAs, firstListed?_cons_of_ne apart.symm]
  rfl

/-- What is counted as unchanged are the indexed files whose first entry has their hash. -/
theorem unchanged_make (projectId : String) (listing : List RemoteFile) (left : Hashes) :
    (make projectId listing left).unchanged =
      left.entries.countP (listedAs projectId listing) := by
  induction listing generalizing left with
  | nil => exact (List.countP_eq_zero.2 fun _ _ => Bool.false_ne_true).symm
  | cons remote rest ih =>
    cases found : left.find? (FileRecord.idOf projectId remote.path) with
    | none =>
      rw [make_cons_of_absent found]
      refine (ih left).trans (List.countP_congr fun entry member => ?_)
      rw [listedAs_cons_of_ne]
      exact fun equal =>
        (left.find?_eq_none_iff _).1 found (equal ▸ List.mem_map_of_mem member)
    | some indexed =>
      obtain ⟨-, named⟩ := (left.find?_eq_some_iff _ _).1 found
      have others : ((left.erase (FileRecord.idOf projectId remote.path)).entries.countP
          (listedAs projectId (remote :: rest))) =
            (left.erase (FileRecord.idOf projectId remote.path)).entries.countP
              (listedAs projectId rest) := by
        refine List.countP_congr fun entry member => ?_
        rw [listedAs_cons_of_ne (bne_iff_ne.1 (List.mem_filter.1 member).2)]
      have here : listedAs projectId (remote :: rest) indexed = (indexed.2 == remote.sha) := by
        rw [listedAs, named, firstListed?_cons_self]
        rfl
      rw [Keyed.countP_of_find? found, others, here, ← ih]
      by_cases same : indexed.2 = remote.sha
      · rw [make_cons_of_same found same, if_pos (beq_iff_eq.2 same)]
      · rw [make_cons_of_changed found same, if_neg (by simpa using same)]
        rfl

/-- What a plan does with an indexed file: the first entry of the listing for it decides. -/
inductive Treated (projectId : String) (listing : List RemoteFile) (plan : Plan)
    (entry : String × String) : Prop where
  /-- The first entry has the indexed hash, and the file is left alone. -/
  | kept (remote : RemoteFile)
      (first : firstListed? projectId listing entry.1 = some remote)
      (same : entry.2 = remote.sha)
      (spared : (plan.toUpdate.filter fun file => file.id == entry.1) = [])
      (remaining : entry.1 ∉ plan.toDelete)
  /-- The first entry has another hash, and the file is updated once, with that entry. -/
  | updated (remote : RemoteFile)
      (first : firstListed? projectId listing entry.1 = some remote)
      (changed : entry.2 ≠ remote.sha)
      (once : (plan.toUpdate.filter fun file => file.id == entry.1) =
        [FileRecord.ofRemote projectId remote])
      (remaining : entry.1 ∉ plan.toDelete)
  /-- There is no entry, and the file is deleted once. -/
  | deleted
      (unlisted : firstListed? projectId listing entry.1 = none)
      (spared : (plan.toUpdate.filter fun file => file.id == entry.1) = [])
      (once : plan.toDelete.count entry.1 = 1)

theorem treated_make (projectId : String) (listing : List RemoteFile) {entry : String × String}
    (indexed : entry ∈ left.entries) :
    Treated projectId listing (make projectId listing left) entry := by
  have found : left.find? entry.1 = some entry := (left.find?_eq_some_iff _ _).2 ⟨indexed, rfl⟩
  have updates := filter_id_toUpdate projectId listing left entry.1
  rw [found] at updates
  cases first : firstListed? projectId listing entry.1 with
  | none =>
    rw [first] at updates
    refine .deleted first updates (List.count_eq_one_of_mem (nodup_toDelete _ _ _) ?_)
    exact mem_toDelete_iff.2 ⟨⟨entry, found⟩, firstListed?_eq_none_iff.1 first⟩
  | some remote =>
    have remaining : entry.1 ∉ (make projectId listing left).toDelete := fun deleted => by
      rw [firstListed?_eq_none_iff.2 (mem_toDelete_iff.1 deleted).2] at first
      cases first
    rw [first] at updates
    by_cases same : entry.2 = remote.sha
    · exact .kept remote first same (updates.trans (by simp [same])) remaining
    · exact .updated remote first same (updates.trans (by simp [same])) remaining

/-! ## The account of a plan -/

theorem strictlySorted_toDelete (projectId : String) (listing : List RemoteFile) (left : Hashes) :
    (make projectId listing left).toDelete.Pairwise fun first second =>
      Text.ordered first second = true ∧ first ≠ second :=
  (sorted_toDelete projectId listing left).and (nodup_toDelete projectId listing left)

/-- **A plan asks for nothing exactly if the listing says what the index says**: no path is listed
twice, and each id has the same hash in the listing as in the index, or is in neither. -/
theorem isEmpty_make_iff :
    (make projectId listing left).isEmpty = true ↔
      (listing.map RemoteFile.path).Nodup ∧
        ∀ id, (firstListed? projectId listing id).map RemoteFile.sha =
          (left.find? id).map Prod.snd := by
  rw [← nodup_listedIds_iff projectId, isEmpty, Bool.and_eq_true, Bool.and_eq_true,
    List.isEmpty_iff, List.isEmpty_iff, List.isEmpty_iff]
  constructor
  · rintro ⟨⟨noCreate, noUpdate⟩, noDelete⟩
    have createdOnce : ((make projectId listing left).toCreate.map FileRecord.id).Nodup := by
      rw [noCreate]
      exact List.nodup_nil
    have createdNew : ∀ file ∈ (make projectId listing left).toCreate,
        left.find? file.id = none := by
      rw [noCreate]
      exact List.forall_mem_nil _
    refine ⟨listedIds_distinct createdOnce createdNew, fun id => ?_⟩
    cases found : left.find? id with
    | none =>
      rw [firstListed?_eq_none_iff.2]
      · rfl
      · intro listed
        have created := mem_ids_toCreate listed found
        rw [noCreate] at created
        cases created
    | some entry =>
      obtain ⟨member, rfl⟩ := (left.find?_eq_some_iff _ _).1 found
      cases treated_make projectId listing member with
      | kept remote first same => rw [first, Option.map_some, Option.map_some, same]
      | updated _ _ _ once =>
        rw [noUpdate] at once
        cases once
      | deleted _ _ once =>
        rw [noDelete] at once
        cases once
  · rintro ⟨distinct, same⟩
    refine ⟨⟨?_, ?_⟩, ?_⟩
    · rw [(make_of_distinct distinct left).1, List.filter_eq_nil_iff.2, List.map_nil]
      intro remote listed
      have sha := same (FileRecord.idOf projectId remote.path)
      rw [firstListed?_of_distinct distinct listed] at sha
      cases found : left.find? (FileRecord.idOf projectId remote.path) with
      | none =>
        rw [found] at sha
        cases sha
      | some entry => exact Bool.false_ne_true
    · refine List.eq_nil_iff_forall_not_mem.2 fun file updated => ?_
      obtain ⟨entry, found, changed⟩ := toUpdate_indexed updated
      obtain ⟨remote, listed, rfl⟩ := listed_of_planned (.inr updated)
      have sha := same (FileRecord.idOf projectId remote.path)
      rw [firstListed?_of_distinct distinct listed] at sha
      rw [FileRecord.ofRemote] at found
      rw [found] at sha
      exact changed (Option.some_inj.1 sha).symm
    · refine List.eq_nil_iff_forall_not_mem.2 fun id deleted => ?_
      obtain ⟨⟨entry, found⟩, unlisted⟩ := mem_toDelete_iff.1 deleted
      have sha := same id
      rw [firstListed?_eq_none_iff.2 unlisted, found] at sha
      cases sha

/-- What a plan does with a listing and an index. -/
structure Account (projectId : String) (listing : List RemoteFile) (indexed : Hashes)
    (plan : Plan) : Prop where
  /-- Creates are records of entries, in the order of the listing. -/
  creates : plan.toCreate.Sublist (listing.map (FileRecord.ofRemote projectId))
  /-- Updates are records of entries, in the order of the listing. -/
  updates : plan.toUpdate.Sublist (listing.map (FileRecord.ofRemote projectId))
  /-- Every entry is counted once. -/
  size : plan.toCreate.length + plan.toUpdate.length + plan.unchanged = listing.length
  /-- Every indexed file is kept, updated or deleted. -/
  treated : ∀ entry ∈ indexed.entries, Treated projectId listing plan entry
  /-- Every file that is kept is counted once. -/
  unchanged : plan.unchanged = indexed.entries.countP (listedAs projectId listing)
  /-- Deletes come in strictly ascending order. -/
  ascending : plan.toDelete.Pairwise fun first second =>
    Text.ordered first second = true ∧ first ≠ second
  /-- Only indexed files that are not listed are deleted. -/
  deletes : ∀ id ∈ plan.toDelete, (∃ entry, indexed.find? id = some entry) ∧
    id ∉ listedIds projectId listing
  /-- Every entry for a file that is not indexed is created. -/
  unindexed : ((listing.filter fun remote =>
    (indexed.find? (FileRecord.idOf projectId remote.path)).isNone).map
      (FileRecord.ofRemote projectId)).Sublist plan.toCreate
  /-- The plan is empty exactly if the listing has no repetitions and the hashes of the index. -/
  empty : plan.isEmpty = true ↔
    (listing.map RemoteFile.path).Nodup ∧
      ∀ id, (firstListed? projectId listing id).map RemoteFile.sha =
        (indexed.find? id).map Prod.snd

/-- **A plan accounts for every entry of a listing and for every indexed file**, whatever the
listing and the index are. -/
theorem make_accounts (projectId : String) (listing : List RemoteFile) (indexed : Hashes) :
    Account projectId listing indexed (make projectId listing indexed) where
  creates := (sublist_make projectId listing indexed).1
  updates := (sublist_make projectId listing indexed).2
  size := size_make projectId listing indexed
  treated := fun _ member => treated_make projectId listing member
  unchanged := unchanged_make projectId listing indexed
  ascending := strictlySorted_toDelete projectId listing indexed
  deletes := fun _ deleted => mem_toDelete_iff.1 deleted
  unindexed := sublist_toCreate projectId listing indexed
  empty := isEmpty_make_iff

end Plan

end SourceIndex
