import Mathlib.Data.List.Basic
import SourceIndex.Plan

/-!
# What a plan asks for

A plan strikes indexed files off one by one as the listing names them. What it asks for can be said
without that: the deletes are the indexed ids that the listing lacks, in order (`toDelete_make`),
the updates are of different indexed files (`toUpdate_indexed`, `toUpdate_distinct`), and when no
path is listed twice, the creates are the listed files that are not indexed and the updates those
that are indexed with another hash (`make_of_distinct`), and no file is written twice (`nodup_ids`).

A path that is listed twice is created at its second occurrence, whether or not its file is indexed.
So a plan whose creates are of different files that are not indexed comes from a listing without
repetitions (`listedIds_distinct`).
-/

set_option autoImplicit false

namespace SourceIndex.Plan

variable {projectId : String}

/-- The ids of the files of a listing. -/
def listedIds (projectId : String) (listing : List RemoteFile) : List String :=
  listing.map fun remote => FileRecord.idOf projectId remote.path

/-! ## One entry of a listing -/

section Step

variable {remote : RemoteFile} {left : Hashes}

theorem make_cons_of_absent (absent : left.find? (FileRecord.idOf projectId remote.path) = none)
    (rest : List RemoteFile) :
    make projectId (remote :: rest) left =
      { make projectId rest left with
        toCreate :=
          FileRecord.ofRemote projectId remote :: (make projectId rest left).toCreate } := by
  have unknown : left.find? (FileRecord.ofRemote projectId remote).id = none := absent
  rw [make]
  dsimp only
  rw [unknown]

theorem make_cons_of_same {indexed : String × String}
    (found : left.find? (FileRecord.idOf projectId remote.path) = some indexed)
    (same : indexed.2 = remote.sha) (rest : List RemoteFile) :
    make projectId (remote :: rest) left =
      { make projectId rest (left.erase (FileRecord.idOf projectId remote.path)) with
        unchanged :=
          (make projectId rest (left.erase (FileRecord.idOf projectId remote.path))).unchanged +
            1 } := by
  have known : left.find? (FileRecord.ofRemote projectId remote).id = some indexed := found
  rw [make]
  dsimp only
  rw [known]
  exact if_pos same

theorem make_cons_of_changed {indexed : String × String}
    (found : left.find? (FileRecord.idOf projectId remote.path) = some indexed)
    (changed : indexed.2 ≠ remote.sha) (rest : List RemoteFile) :
    make projectId (remote :: rest) left =
      { make projectId rest (left.erase (FileRecord.idOf projectId remote.path)) with
        toUpdate := FileRecord.ofRemote projectId remote ::
          (make projectId rest
            (left.erase (FileRecord.idOf projectId remote.path))).toUpdate } := by
  have known : left.find? (FileRecord.ofRemote projectId remote).id = some indexed := found
  rw [make]
  dsimp only
  rw [known]
  exact if_neg changed

/-- An entry whose file is indexed adds neither a create nor a delete. -/
theorem make_cons_of_found {indexed : String × String}
    (found : left.find? (FileRecord.idOf projectId remote.path) = some indexed)
    (rest : List RemoteFile) :
    (make projectId (remote :: rest) left).toCreate =
        (make projectId rest (left.erase (FileRecord.idOf projectId remote.path))).toCreate ∧
      (make projectId (remote :: rest) left).toDelete =
        (make projectId rest (left.erase (FileRecord.idOf projectId remote.path))).toDelete := by
  by_cases same : indexed.2 = remote.sha
  · rw [make_cons_of_same found same]
    exact ⟨rfl, rfl⟩
  · rw [make_cons_of_changed found same]
    exact ⟨rfl, rfl⟩

end Step

/-! ## Plans for any listing -/

theorem find?_of_find?_erase {left : Hashes} {struck id : String} {entry : String × String}
    (found : (left.erase struck).find? id = some entry) :
    id ≠ struck ∧ left.find? id = some entry := by
  rw [Keyed.find?_erase] at found
  split at found
  · cases found
  · next apart => exact ⟨apart, found⟩

theorem find?_erase_of_absent {left : Hashes} {id : String} (absent : left.find? id = none)
    (struck : String) : (left.erase struck).find? id = none := by
  rw [Keyed.find?_erase, absent, ite_self]

/-- What is created or updated is the record of a listed file. -/
theorem listed_of_planned {listing : List RemoteFile} {left : Hashes} {file : FileRecord}
    (planned : file ∈ (make projectId listing left).toCreate ∨
      file ∈ (make projectId listing left).toUpdate) :
    ∃ remote ∈ listing, file = FileRecord.ofRemote projectId remote := by
  induction listing generalizing left with
  | nil => rcases planned with member | member <;> cases member
  | cons first rest ih =>
    have later : ∀ {struck : Hashes}, (file ∈ (make projectId rest struck).toCreate ∨
        file ∈ (make projectId rest struck).toUpdate) →
          ∃ remote ∈ first :: rest, file = FileRecord.ofRemote projectId remote := by
      intro struck others
      obtain ⟨remote, member, same⟩ := ih others
      exact ⟨remote, List.mem_cons_of_mem first member, same⟩
    cases found : left.find? (FileRecord.idOf projectId first.path) with
    | none =>
      rw [make_cons_of_absent found] at planned
      rcases planned with create | update
      · rcases List.mem_cons.1 create with rfl | others
        · exact ⟨first, List.mem_cons_self, rfl⟩
        · exact later (.inl others)
      · exact later (.inr update)
    | some indexed =>
      by_cases same : indexed.2 = first.sha
      · rw [make_cons_of_same found same] at planned
        exact later planned
      · rw [make_cons_of_changed found same] at planned
        rcases planned with create | update
        · exact later (.inl create)
        · rcases List.mem_cons.1 update with rfl | others
          · exact ⟨first, List.mem_cons_self, rfl⟩
          · exact later (.inr others)

/-- An update is of a file that is indexed with another hash. -/
theorem toUpdate_indexed {listing : List RemoteFile} {left : Hashes} {file : FileRecord}
    (member : file ∈ (make projectId listing left).toUpdate) :
    ∃ entry, left.find? file.id = some entry ∧ entry.2 ≠ file.sha := by
  induction listing generalizing left with
  | nil => cases member
  | cons remote rest ih =>
    cases found : left.find? (FileRecord.idOf projectId remote.path) with
    | none =>
      rw [make_cons_of_absent found] at member
      exact ih member
    | some indexed =>
      by_cases same : indexed.2 = remote.sha
      · rw [make_cons_of_same found same] at member
        obtain ⟨entry, there, other⟩ := ih member
        exact ⟨entry, (find?_of_find?_erase there).2, other⟩
      · rw [make_cons_of_changed found same] at member
        rcases List.mem_cons.1 member with rfl | later
        · exact ⟨indexed, found, same⟩
        · obtain ⟨entry, there, other⟩ := ih later
          exact ⟨entry, (find?_of_find?_erase there).2, other⟩

/-- No file is updated twice, since an indexed file is struck off when it is first named. -/
theorem toUpdate_distinct (listing : List RemoteFile) (left : Hashes) :
    ((make projectId listing left).toUpdate.map FileRecord.id).Nodup := by
  induction listing generalizing left with
  | nil => exact List.nodup_nil
  | cons remote rest ih =>
    cases found : left.find? (FileRecord.idOf projectId remote.path) with
    | none =>
      rw [make_cons_of_absent found]
      exact ih left
    | some indexed =>
      by_cases same : indexed.2 = remote.sha
      · rw [make_cons_of_same found same]
        exact ih _
      · rw [make_cons_of_changed found same]
        refine List.nodup_cons.2 ⟨fun member => ?_, ih _⟩
        obtain ⟨file, within, named⟩ := List.mem_map.1 member
        obtain ⟨entry, there, -⟩ := toUpdate_indexed within
        exact (find?_of_find?_erase there).1 named

/-- Every entry for a file that is not indexed is created, as often as it is listed. -/
theorem sublist_toCreate (projectId : String) (listing : List RemoteFile) (left : Hashes) :
    ((listing.filter fun remote =>
        (left.find? (FileRecord.idOf projectId remote.path)).isNone).map
          (FileRecord.ofRemote projectId)).Sublist (make projectId listing left).toCreate := by
  induction listing generalizing left with
  | nil => exact .slnil
  | cons remote rest ih =>
    cases found : left.find? (FileRecord.idOf projectId remote.path) with
    | none =>
      rw [make_cons_of_absent found, List.filter_cons_of_pos (by rw [found]; rfl)]
      exact (ih left).cons_cons _
    | some indexed =>
      rw [(make_cons_of_found found rest).1,
        List.filter_cons_of_neg (by rw [found]; exact Bool.false_ne_true)]
      -- Files that are not indexed are not indexed either once one is struck off.
      refine .trans (.map _ (List.monotone_filter_right rest fun other absent => ?_)) (ih _)
      rw [find?_erase_of_absent (Option.isNone_iff_eq_none.1 absent)]
      rfl

/-- A listed file that is not indexed is created. -/
theorem mem_toCreate {listing : List RemoteFile} {left : Hashes} {remote : RemoteFile}
    (listed : remote ∈ listing)
    (absent : left.find? (FileRecord.idOf projectId remote.path) = none) :
    FileRecord.ofRemote projectId remote ∈ (make projectId listing left).toCreate :=
  (sublist_toCreate projectId listing left).subset
    (List.mem_map_of_mem (List.mem_filter.2 ⟨listed, Option.isNone_iff_eq_none.2 absent⟩))

theorem mem_ids_toCreate {listing : List RemoteFile} {left : Hashes} {id : String}
    (listed : id ∈ listedIds projectId listing) (absent : left.find? id = none) :
    id ∈ (make projectId listing left).toCreate.map FileRecord.id := by
  obtain ⟨remote, member, rfl⟩ := List.mem_map.1 listed
  exact List.mem_map_of_mem (f := FileRecord.id) (mem_toCreate member absent)

/-- If a plan creates different files, none of which is indexed, then nothing is listed twice. -/
theorem listedIds_distinct {listing : List RemoteFile} {left : Hashes}
    (distinct : ((make projectId listing left).toCreate.map FileRecord.id).Nodup)
    (fresh : ∀ file ∈ (make projectId listing left).toCreate, left.find? file.id = none) :
    (listedIds projectId listing).Nodup := by
  induction listing generalizing left with
  | nil => exact List.nodup_nil
  | cons remote rest ih =>
    cases found : left.find? (FileRecord.idOf projectId remote.path) with
    | none =>
      rw [make_cons_of_absent found] at distinct fresh
      obtain ⟨once, others⟩ := List.nodup_cons.1 distinct
      refine List.nodup_cons.2 ⟨fun again => once (mem_ids_toCreate again found), ?_⟩
      exact ih others fun file member => fresh file (List.mem_cons_of_mem _ member)
    | some indexed =>
      -- The file is struck off, so naming it again would create it although it is indexed.
      rw [(make_cons_of_found found rest).1] at distinct fresh
      refine List.nodup_cons.2 ⟨fun again => ?_, ih distinct fun file member =>
        find?_erase_of_absent (fresh file member) _⟩
      have struck : (left.erase (FileRecord.idOf projectId remote.path)).find?
          (FileRecord.idOf projectId remote.path) = none := by
        rw [Keyed.find?_erase, if_pos rfl]
      obtain ⟨file, member, named⟩ := List.mem_map.1 (mem_ids_toCreate again struck)
      have absent := fresh file member
      rw [named, found] at absent
      cases absent

/-- The deletes are the indexed ids that the listing lacks, in order. -/
theorem toDelete_make (listing : List RemoteFile) (left : Hashes) :
    (make projectId listing left).toDelete =
      Text.sorted ((left.entries.filter fun entry =>
        !(listedIds projectId listing).contains entry.1).map Prod.fst) := by
  induction listing generalizing left with
  | nil =>
    have everything : (left.entries.filter fun entry =>
        !(listedIds projectId []).contains entry.1) = left.entries :=
      List.filter_eq_self.2 fun _ _ => rfl
    rw [everything]
    rfl
  | cons remote rest ih =>
    cases found : left.find? (FileRecord.idOf projectId remote.path) with
    | none =>
      have kept : (left.entries.filter fun entry =>
            !(listedIds projectId rest).contains entry.1) =
          left.entries.filter fun entry =>
            !(listedIds projectId (remote :: rest)).contains entry.1 := by
        refine List.filter_congr fun entry member => ?_
        have apart : entry.1 ≠ FileRecord.idOf projectId remote.path := fun equal =>
          (left.find?_eq_none_iff _).1 found (equal ▸ List.mem_map_of_mem member)
        simp [listedIds, apart]
      rw [make_cons_of_absent found, ← kept]
      exact ih left
    | some indexed =>
      have kept : ((left.entries.filter fun entry =>
            entry.1 != FileRecord.idOf projectId remote.path).filter fun entry =>
              !(listedIds projectId rest).contains entry.1) =
          left.entries.filter fun entry =>
            !(listedIds projectId (remote :: rest)).contains entry.1 := by
        rw [List.filter_filter]
        refine List.filter_congr fun entry _ => ?_
        simp only [listedIds, List.map_cons, List.contains_cons, Bool.not_or]
        rw [Bool.and_comm]
        rfl
      rw [(make_cons_of_found found rest).2, ih, ← kept]
      rfl

theorem mem_toDelete_iff {listing : List RemoteFile} {left : Hashes} {id : String} :
    id ∈ (make projectId listing left).toDelete ↔
      (∃ entry, left.find? id = some entry) ∧ id ∉ listedIds projectId listing := by
  rw [toDelete_make, Text.sorted, (List.mergeSort_perm _ _).mem_iff, List.mem_map]
  constructor
  · rintro ⟨entry, member, rfl⟩
    obtain ⟨there, unlisted⟩ := List.mem_filter.1 member
    exact ⟨⟨entry, (left.find?_eq_some_iff _ _).2 ⟨there, rfl⟩⟩, by simpa using unlisted⟩
  · rintro ⟨⟨entry, found⟩, unlisted⟩
    obtain ⟨there, named⟩ := (left.find?_eq_some_iff _ _).1 found
    exact ⟨entry, List.mem_filter.2 ⟨there, by simpa [named] using unlisted⟩, named⟩

theorem nodup_toDelete (projectId : String) (listing : List RemoteFile) (left : Hashes) :
    (make projectId listing left).toDelete.Nodup := by
  rw [toDelete_make, Text.sorted, (List.mergeSort_perm _ _).nodup_iff]
  exact left.distinct.sublist (List.filter_sublist.map Prod.fst)

theorem sorted_toDelete (projectId : String) (listing : List RemoteFile) (left : Hashes) :
    (make projectId listing left).toDelete.Pairwise fun first second =>
      Text.ordered first second = true := by
  have trans : ∀ first second third : String, Text.ordered first second = true →
      Text.ordered second third = true → Text.ordered first third = true :=
    fun _ _ _ => Text.atMost_trans
  have total : ∀ first second : String,
      (Text.ordered first second || Text.ordered second first) = true :=
    fun _ _ => Text.atMost_total _ _
  rw [toDelete_make, Text.sorted]
  exact List.pairwise_mergeSort trans total _

/-! ## Plans for a listing without repetitions -/

/-- Striking off a file that is not listed does not change what is looked up of those listed. -/
theorem filter_find?_erase {listing : List RemoteFile} {struck : String}
    (unlisted : struck ∉ listedIds projectId listing) (left : Hashes)
    (test : RemoteFile → Option (String × String) → Bool) :
    (listing.filter fun remote =>
        test remote ((left.erase struck).find? (FileRecord.idOf projectId remote.path))) =
      listing.filter fun remote =>
        test remote (left.find? (FileRecord.idOf projectId remote.path)) := by
  refine List.filter_congr fun remote member => ?_
  rw [Keyed.find?_erase, if_neg]
  exact fun equal => unlisted (equal ▸ List.mem_map_of_mem member)

/-- Creates and updates are the listed files that are not indexed and those indexed with another
hash. -/
theorem make_of_distinct {listing : List RemoteFile}
    (distinct : (listedIds projectId listing).Nodup) (left : Hashes) :
    (make projectId listing left).toCreate =
        (listing.filter fun remote =>
          (left.find? (FileRecord.idOf projectId remote.path)).isNone).map
            (FileRecord.ofRemote projectId) ∧
      (make projectId listing left).toUpdate =
        (listing.filter fun remote =>
          (left.find? (FileRecord.idOf projectId remote.path)).any
            fun entry => entry.2 != remote.sha).map (FileRecord.ofRemote projectId) := by
  induction listing generalizing left with
  | nil => exact ⟨rfl, rfl⟩
  | cons remote rest ih =>
    obtain ⟨once, others⟩ := List.nodup_cons.1 distinct
    cases found : left.find? (FileRecord.idOf projectId remote.path) with
    | none =>
      obtain ⟨creates, updates⟩ := ih others left
      rw [make_cons_of_absent found, List.filter_cons_of_pos (by rw [found]; rfl),
        List.filter_cons_of_neg (by rw [found]; exact Bool.false_ne_true)]
      exact ⟨congrArg _ creates, updates⟩
    | some indexed =>
      obtain ⟨creates, updates⟩ :=
        ih others (left.erase (FileRecord.idOf projectId remote.path))
      rw [filter_find?_erase once left fun _ found => found.isNone] at creates
      rw [filter_find?_erase once left fun remote found =>
        found.any fun entry => entry.2 != remote.sha] at updates
      rw [List.filter_cons_of_neg (by rw [found]; exact Bool.false_ne_true)]
      by_cases same : indexed.2 = remote.sha
      · rw [make_cons_of_same found same, List.filter_cons_of_neg (by simp [found, same])]
        exact ⟨creates, updates⟩
      · rw [make_cons_of_changed found same, List.filter_cons_of_pos (by simp [found, same])]
        exact ⟨creates, congrArg _ updates⟩

/-- The ids of the files that a plan creates, updates or deletes. -/
def ids (plan : Plan) : List String :=
  plan.toCreate.map FileRecord.id ++ plan.toUpdate.map FileRecord.id ++ plan.toDelete

section Distinct

variable {listing : List RemoteFile} (distinct : (listedIds projectId listing).Nodup)
include distinct

theorem toCreate_fresh (left : Hashes) {file : FileRecord}
    (asked : file ∈ (make projectId listing left).toCreate) : left.find? file.id = none := by
  rw [(make_of_distinct distinct left).1] at asked
  obtain ⟨remote, within, rfl⟩ := List.mem_map.1 asked
  exact Option.isNone_iff_eq_none.1 (List.mem_filter.1 within).2

theorem toCreate_distinct (left : Hashes) :
    ((make projectId listing left).toCreate.map FileRecord.id).Nodup := by
  rw [(make_of_distinct distinct left).1, List.map_map]
  exact distinct.sublist (List.filter_sublist.map _)

/-- No file is created, updated or deleted twice. -/
theorem nodup_ids (left : Hashes) : (make projectId listing left).ids.Nodup := by
  rw [ids, List.nodup_append, List.nodup_append]
  refine ⟨⟨toCreate_distinct distinct left, toUpdate_distinct listing left, ?_⟩,
    nodup_toDelete _ _ _, ?_⟩
  · rintro id created _ updated rfl
    obtain ⟨file, asked, rfl⟩ := List.mem_map.1 created
    obtain ⟨other, within, named⟩ := List.mem_map.1 updated
    obtain ⟨entry, found, -⟩ := toUpdate_indexed within
    rw [named, toCreate_fresh distinct left asked] at found
    cases found
  · rintro id filled _ deleted rfl
    obtain ⟨file, planned, rfl⟩ : ∃ file, (file ∈ (make projectId listing left).toCreate ∨
        file ∈ (make projectId listing left).toUpdate) ∧ file.id = id := by
      rw [← List.map_append] at filled
      obtain ⟨file, within, named⟩ := List.mem_map.1 filled
      exact ⟨file, List.mem_append.1 within, named⟩
    obtain ⟨remote, listed, rfl⟩ := listed_of_planned planned
    exact (mem_toDelete_iff.1 deleted).2 (List.mem_map_of_mem listed)

end Distinct

end SourceIndex.Plan
