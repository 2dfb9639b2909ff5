import Mathlib.Data.List.Nodup
import SourceIndex.Proofs.Extraction
import SourceIndex.Proofs.Plan.Application
import SourceIndex.Proofs.Plan.Making

/-!
# Plans that bring a project in line

A plan is made from a listing and the hashes of the rows filed under a project, its records are
extracted, and its writes are done. When all of them succeed, no path was listed twice
(`listedIds_distinct_of_replay`), and the hashes of the project are those of the listing
(`hashesOf_replay_perm`). The numbers of creates, updates and deletes are told from the listing and
the old hashes (`lengths_of_extracted`).
-/

set_option autoImplicit false

namespace SourceIndex

/-- The record is that of a listed file, extracted. -/
def FileRecord.Listed (projectId : String) (listing : List RemoteFile) (file : FileRecord) : Prop :=
  ∃ remote ∈ listing, Dressed (FileRecord.ofRemote projectId remote) file

theorem FileRecord.Listed.projectId {projectId : String} {listing : List RemoteFile}
    {file : FileRecord} (listed : file.Listed projectId listing) : file.projectId = projectId := by
  obtain ⟨remote, -, single⟩ := listed
  exact single.projectId

/-- A record to be written is that of a listed file. -/
theorem Plan.Extracted.listed_of_asked {projectId : String} {listing : List RemoteFile}
    {indexed : Hashes} {planned : Plan}
    (extracted : (Plan.make projectId listing indexed).Extracted planned) {file : FileRecord}
    (asked : file ∈ planned.toCreate ∨ file ∈ planned.toUpdate) :
    file.Listed projectId listing := by
  have planning : ∃ source, (source ∈ (Plan.make projectId listing indexed).toCreate ∨
      source ∈ (Plan.make projectId listing indexed).toUpdate) ∧ Dressed source file := by
    rcases asked with create | update
    · obtain ⟨source, member, single⟩ := Plan.exists_source extracted.creates create
      exact ⟨source, .inl member, single⟩
    · obtain ⟨source, member, single⟩ := Plan.exists_source extracted.updates update
      exact ⟨source, .inr member, single⟩
  obtain ⟨source, member, single⟩ := planning
  obtain ⟨remote, listed, rfl⟩ := Plan.listed_of_planned member
  exact ⟨remote, listed, single⟩

namespace Holdings

variable {ρ : Type} [Row ρ] {before after : Holdings ρ} {projectId : String}
variable {listing : List RemoteFile} {planned : Plan}

/-- The hashes that a listing asks for, under the ids of the listed files. -/
def listedHashes (projectId : String) (listing : List RemoteFile) : List (String × String) :=
  listing.map fun remote => (FileRecord.idOf projectId remote.path, remote.sha)

/-- If records were created for all the files that a plan creates, no path was listed twice. -/
theorem listedIds_distinct_of_ids
    (ids : planned.toCreate.map FileRecord.id =
      (Plan.make projectId listing (before.hashesOf projectId)).toCreate.map FileRecord.id)
    (written : replay planned.writes before = some after) :
    (Plan.listedIds projectId listing).Nodup := by
  obtain ⟨distinct, fresh⟩ := distinct_of_replay_writes written
  rw [ids] at distinct
  refine Plan.listedIds_distinct distinct fun file asked => ?_
  cases found : (before.hashesOf projectId).find? file.id with
  | none => rfl
  | some entry =>
    obtain ⟨row, there, -, named, -⟩ := find?_hashesOf_eq_some_iff.1 found
    have created : file.id ∈ planned.toCreate.map FileRecord.id := ids ▸ List.mem_map_of_mem asked
    obtain ⟨record, creates, called⟩ := List.mem_map.1 created
    exact absurd (named.trans called.symm) (fresh record creates row there)

section

variable (extracted : (Plan.make projectId listing (before.hashesOf projectId)).Extracted planned)
include extracted

/-- The updates of an extracted plan are of different files that were there. -/
theorem updates_of_extracted :
    (planned.toUpdate.map FileRecord.id).Nodup ∧
      ∀ file ∈ planned.toUpdate, ∃ row ∈ before.files.entries, Row.id row = file.id := by
  constructor
  · rw [Plan.map_eq extracted.updates fun single => single.id]
    exact Plan.toUpdate_distinct listing _
  · intro file asked
    obtain ⟨source, updates, single⟩ := Plan.exists_source extracted.updates asked
    obtain ⟨entry, indexed, -⟩ := Plan.toUpdate_indexed updates
    obtain ⟨row, there, -, named, -⟩ := find?_hashesOf_eq_some_iff.1 indexed
    exact ⟨row, there, named.trans single.id.symm⟩

/-- A plan that could be applied in full comes from a listing without repetitions. -/
theorem listedIds_distinct_of_replay (written : replay planned.writes before = some after) :
    (Plan.listedIds projectId listing).Nodup :=
  listedIds_distinct_of_ids (Plan.map_eq extracted.creates fun single => single.id) written

end

/-! ## The rows of a reconciled project -/

section

variable (distinct : (Plan.listedIds projectId listing).Nodup)
variable (extracted : (Plan.make projectId listing (before.hashesOf projectId)).Extracted planned)
include distinct extracted

/-- A listed file that was indexed with another hash is updated. -/
theorem update_of_changed {remote : RemoteFile} {row : ρ} (listed : remote ∈ listing)
    (there : row ∈ before.files.entries) (filed : Row.projectId row = projectId)
    (named : Row.id row = FileRecord.idOf projectId remote.path)
    (changed : Row.sha row ≠ remote.sha) :
    ∃ file ∈ planned.toUpdate, Dressed (FileRecord.ofRemote projectId remote) file := by
  have found := find?_hashesOf_eq_some_iff.2 ⟨row, there, filed, named, rfl⟩
  have member : FileRecord.ofRemote projectId remote ∈
      (Plan.make projectId listing (before.hashesOf projectId)).toUpdate := by
    rw [(Plan.make_of_distinct distinct _).2]
    refine List.mem_map_of_mem (List.mem_filter.2 ⟨listed, ?_⟩)
    rw [found]
    simpa using changed
  exact Plan.exists_result extracted.updates member

/-- A listed file that was indexed with its hash is not updated. -/
theorem spared_of_same {remote : RemoteFile} {row : ρ} (listed : remote ∈ listing)
    (there : row ∈ before.files.entries) (filed : Row.projectId row = projectId)
    (named : Row.id row = FileRecord.idOf projectId remote.path)
    (same : Row.sha row = remote.sha) : ∀ file ∈ planned.toUpdate, file.id ≠ Row.id row := by
  intro file asked equal
  obtain ⟨source, member, single⟩ := Plan.exists_source extracted.updates asked
  obtain ⟨entry, found, changed⟩ := Plan.toUpdate_indexed member
  rw [(Plan.make_of_distinct distinct _).2] at member
  obtain ⟨other, kept, rfl⟩ := List.mem_map.1 member
  have ids : FileRecord.idOf projectId other.path = FileRecord.idOf projectId remote.path :=
    single.id.symm.trans (equal.trans named)
  have files : other = remote :=
    List.inj_on_of_nodup_map distinct (List.mem_of_mem_filter kept) listed ids
  subst files
  have known := find?_hashesOf_eq_some_iff.2 ⟨row, there, filed, named, rfl⟩
  change (before.hashesOf projectId).find? (FileRecord.idOf projectId other.path) =
    some entry at found
  rw [known] at found
  cases found
  exact changed same

end

section

variable (extracted : (Plan.make projectId listing (before.hashesOf projectId)).Extracted planned)
variable (written : replay planned.writes before = some after)
include extracted written

/-- Each row of a reconciled project is that of a listed file, with the listed hash. -/
theorem listed_of_replay {row : ρ} (there : row ∈ after.files.entries)
    (filed : Row.projectId row = projectId) :
    ∃ remote ∈ listing, Row.id row = FileRecord.idOf projectId remote.path ∧
      Row.sha row = remote.sha := by
  have distinct := listedIds_distinct_of_replay extracted written
  obtain ⟨once, known⟩ := updates_of_extracted extracted
  obtain ⟨remaining, landed⟩ := (mem_replay_writes_iff once known written).1 there
  rcases landed with ⟨old, spared⟩ | ⟨asked⟩ | ⟨old, asked, same⟩
  · have found := find?_hashesOf_eq_some_iff.2 ⟨row, old, filed, rfl, rfl⟩
    rw [extracted.deletes, Plan.mem_toDelete_iff] at remaining
    have listed : Row.id row ∈ Plan.listedIds projectId listing := by
      by_contra unlisted
      exact remaining ⟨⟨_, found⟩, unlisted⟩
    obtain ⟨remote, member, named⟩ := List.mem_map.1 listed
    refine ⟨remote, member, named.symm, ?_⟩
    by_contra changed
    obtain ⟨file, asked, single⟩ :=
      update_of_changed distinct extracted member old filed named.symm changed
    exact spared file asked (single.id.trans named)
  · obtain ⟨remote, member, single⟩ := extracted.listed_of_asked (.inl asked)
    refine ⟨remote, member, ?_, ?_⟩
    · rw [Row.id_ofRecord]
      exact single.id
    · rw [Row.sha_ofRecord]
      exact single.sha
  · obtain ⟨remote, member, single⟩ := extracted.listed_of_asked (.inr asked)
    refine ⟨remote, member, ?_, ?_⟩
    · rw [Row.id_updatedBy]
      exact single.id
    · rw [Row.sha_updatedBy]
      exact single.sha

/-- Each listed file has a row in the reconciled project, with the listed hash. -/
theorem row_of_listed {remote : RemoteFile} (listed : remote ∈ listing) :
    ∃ row ∈ after.files.entries, Row.projectId row = projectId ∧
      Row.id row = FileRecord.idOf projectId remote.path ∧ Row.sha row = remote.sha := by
  have distinct := listedIds_distinct_of_replay extracted written
  obtain ⟨once, known⟩ := updates_of_extracted extracted
  have remaining : FileRecord.idOf projectId remote.path ∉ planned.toDelete := by
    rw [extracted.deletes, Plan.mem_toDelete_iff]
    exact fun deleted => deleted.2 (List.mem_map_of_mem listed)
  have present : ∀ row : ρ, Row.id row = FileRecord.idOf projectId remote.path →
      Landed planned before row → row ∈ after.files.entries := by
    intro row named landed
    refine (mem_replay_writes_iff once known written).2 ⟨?_, landed⟩
    rw [named]
    exact remaining
  cases found : (before.hashesOf projectId).find? (FileRecord.idOf projectId remote.path) with
  | none =>
    obtain ⟨file, asked, single⟩ :=
      Plan.exists_result extracted.creates (Plan.mem_toCreate listed found)
    have named : Row.id (Row.ofRecord file : ρ) = FileRecord.idOf projectId remote.path :=
      (Row.id_ofRecord file).trans single.id
    exact ⟨Row.ofRecord file, present _ named (.created asked),
      (Row.projectId_ofRecord file).trans single.projectId, named,
      (Row.sha_ofRecord file).trans single.sha⟩
  | some entry =>
    obtain ⟨row, there, filed, named, -⟩ := find?_hashesOf_eq_some_iff.1 found
    by_cases same : Row.sha row = remote.sha
    · have spared := spared_of_same distinct extracted listed there filed named same
      exact ⟨row, present row named (.kept there spared), filed, named, same⟩
    · obtain ⟨file, asked, single⟩ :=
        update_of_changed distinct extracted listed there filed named same
      have overwritten : Row.id (Row.updatedBy row file) =
          FileRecord.idOf projectId remote.path :=
        (Row.id_updatedBy row file).trans single.id
      exact ⟨Row.updatedBy row file,
        present _ overwritten (.updated there asked (single.id.trans named.symm)),
        (Row.projectId_updatedBy row file).trans single.projectId, overwritten,
        (Row.sha_updatedBy row file).trans single.sha⟩

/-- **A plan that was applied in full leaves the hashes of the listing**, each once. -/
theorem hashesOf_replay_perm :
    (after.hashesOf projectId).entries.Perm (listedHashes projectId listing) := by
  have distinct := listedIds_distinct_of_replay extracted written
  have listedOnce : (listedHashes projectId listing).Nodup := by
    refine List.Nodup.of_map Prod.fst ?_
    rw [listedHashes, List.map_map]
    exact distinct
  refine (List.perm_ext_iff_of_nodup (.of_map Prod.fst (after.hashesOf projectId).distinct)
    listedOnce).2 fun entry => ?_
  constructor
  · intro member
    obtain ⟨row, there, filed, rfl⟩ := mem_hashesOf_iff.1 member
    obtain ⟨remote, listed, same, sha⟩ := listed_of_replay extracted written there filed
    exact List.mem_map.2 ⟨remote, listed, by rw [same, sha]⟩
  · intro member
    obtain ⟨remote, listed, rfl⟩ := List.mem_map.1 member
    obtain ⟨row, there, filed, named, sha⟩ := row_of_listed extracted written listed
    exact mem_hashesOf_iff.2 ⟨row, there, filed, by rw [named, sha]⟩

end

/-! ## The size of a plan -/

theorem lengths_of_extracted {indexed : Hashes}
    (distinct : (Plan.listedIds projectId listing).Nodup)
    (extracted : (Plan.make projectId listing indexed).Extracted planned) :
    planned.toCreate.length = (listing.countP fun remote =>
        (indexed.find? (FileRecord.idOf projectId remote.path)).isNone) ∧
      planned.toUpdate.length = (listing.countP fun remote =>
        (indexed.find? (FileRecord.idOf projectId remote.path)).any
          fun entry => entry.2 != remote.sha) ∧
      planned.toDelete.length = (indexed.entries.countP fun entry =>
        !(Plan.listedIds projectId listing).contains entry.1) := by
  obtain ⟨creates, updates⟩ := Plan.make_of_distinct distinct indexed
  refine ⟨?_, ?_, ?_⟩
  · rw [← extracted.creates.length_eq, creates, List.length_map, List.countP_eq_length_filter]
  · rw [← extracted.updates.length_eq, updates, List.length_map, List.countP_eq_length_filter]
  · rw [extracted.deletes, Plan.toDelete_make, Text.sorted, List.length_mergeSort,
      List.length_map, List.countP_eq_length_filter]

end Holdings

/-- There is nothing to do for a listing whose hashes are indexed. -/
theorem Plan.make_of_listed {projectId : String} {listing : List RemoteFile} {indexed : Hashes}
    (listed : indexed.entries.Perm (Holdings.listedHashes projectId listing)) :
    Plan.make projectId listing indexed = ⟨[], [], [], listing.length⟩ := by
  have ids : (indexed.entries.map Prod.fst).Perm (Plan.listedIds projectId listing) := by
    have same := listed.map Prod.fst
    rwa [Holdings.listedHashes, List.map_map] at same
  have distinct : (Plan.listedIds projectId listing).Nodup := ids.nodup_iff.1 indexed.distinct
  have found : ∀ remote ∈ listing, indexed.find? (FileRecord.idOf projectId remote.path) =
      some (FileRecord.idOf projectId remote.path, remote.sha) := fun remote member =>
    (indexed.find?_eq_some_iff _ _).2 ⟨listed.mem_iff.2 (List.mem_map_of_mem member), rfl⟩
  obtain ⟨creates, updates⟩ := Plan.make_of_distinct distinct indexed
  have noCreate : (Plan.make projectId listing indexed).toCreate = [] := by
    rw [creates, List.filter_eq_nil_iff.2, List.map_nil]
    intro remote member
    rw [found remote member]
    exact Bool.false_ne_true
  have noUpdate : (Plan.make projectId listing indexed).toUpdate = [] := by
    rw [updates, List.filter_eq_nil_iff.2, List.map_nil]
    intro remote member
    simp [found remote member]
  have noDelete : (Plan.make projectId listing indexed).toDelete = [] := by
    refine List.eq_nil_iff_forall_not_mem.2 fun id deleted => ?_
    obtain ⟨⟨entry, there⟩, unlisted⟩ := Plan.mem_toDelete_iff.1 deleted
    obtain ⟨member, rfl⟩ := (indexed.find?_eq_some_iff _ _).1 there
    exact unlisted (ids.mem_iff.1 (List.mem_map_of_mem member))
  have total := Plan.size_make projectId listing indexed
  rw [noCreate, noUpdate] at total
  rcases planned : Plan.make projectId listing indexed with ⟨created, updated, deleted, unchanged⟩
  rw [planned] at noCreate noUpdate noDelete total
  cases noCreate
  cases noUpdate
  cases noDelete
  simp only [List.length_nil, Nat.zero_add] at total
  rw [total]

end SourceIndex
