import SourceIndex.Proofs.Index.Refusals
import SourceIndex.Proofs.Plan.Conservation
import SourceIndex.Proofs.Plan.Reconciliation
import SourceIndex.Rehearsal.Scene

/-!
# Plans whose sets meet

The creates, updates and deletes of a plan are meant to be of different files, and the creates of
files that are not indexed (`Plan.Apart`). That is so exactly if no path is listed twice
(`Plan.apart_make_iff`): a second entry for a file finds it struck off and creates it once more.

The writes of a plan can fail at a create only, because its id is taken
(`Holdings.replay_writes_cases`). Every update is of a file that was indexed when the plan was made,
and a delete never fails.

Main statement: a plan made from an index's own hashes can be applied to that index exactly if no
path is listed twice and no listed file is indexed under another project
(`Storage.Refusals.make_apart`). A path that is listed twice shows that it can fail
(`make_relisted`).
-/

set_option autoImplicit false

namespace SourceIndex

namespace Plan

/-- The writes of a plan are of different files, and what it creates is not indexed. -/
structure Apart (plan : Plan) (indexed : Hashes) : Prop where
  once : plan.ids.Nodup
  fresh : ∀ file ∈ plan.toCreate, indexed.find? file.id = none

/-- **The sets of a plan are apart exactly if no path is listed twice.** -/
theorem apart_make_iff {projectId : String} {listing : List RemoteFile} {indexed : Hashes} :
    (make projectId listing indexed).Apart indexed ↔ (listing.map RemoteFile.path).Nodup := by
  rw [← nodup_listedIds_iff projectId]
  constructor
  · rintro ⟨once, fresh⟩
    exact listedIds_distinct (once.of_append_left.of_append_left) fresh
  · intro distinct
    exact ⟨nodup_ids distinct indexed, fun _ asked => toCreate_fresh distinct indexed asked⟩

end Plan

namespace Holdings

variable {ρ : Type} [Row ρ] {plan : Plan} {before after : Holdings ρ}

/-! ## Writes that succeed -/

/-- Files with new ids of their own can be created. -/
theorem exists_replay_creates {files : List FileRecord}
    (distinct : (files.map FileRecord.id).Nodup)
    (fresh : ∀ file ∈ files, before.files.find? file.id = none) :
    ∃ after, replay (files.map .createFile) before = some after := by
  induction files generalizing before with
  | nil => exact ⟨before, rfl⟩
  | cons file rest ih =>
    obtain ⟨once, others⟩ := List.nodup_cons.1 distinct
    have absent : ¬before.files.contains file.id = true := by
      rw [Keyed.contains, fresh file List.mem_cons_self]
      exact Bool.false_ne_true
    have written : before.write? (.createFile file) =
        some { before with files := before.files.put (Row.ofRecord file) } := if_neg absent
    obtain ⟨after, replayed⟩ := ih others fun other member => by
      rw [find?_of_write? written, rowAfter, if_neg]
      · exact fresh other (List.mem_cons_of_mem file member)
      · exact fun same => once (same ▸ List.mem_map_of_mem member)
    exact ⟨after, replay_cons_eq_some_iff.2 ⟨_, written, replayed⟩⟩

/-- Files that are there can be updated. -/
theorem exists_replay_updates {files : List FileRecord}
    (known : ∀ file ∈ files, before.files.contains file.id = true) :
    ∃ after, replay (files.map .updateFile) before = some after := by
  induction files generalizing before with
  | nil => exact ⟨before, rfl⟩
  | cons file rest ih =>
    obtain ⟨row, found⟩ := Option.isSome_iff_exists.1 (known file List.mem_cons_self)
    let between : Holdings ρ := { before with files := before.files.put (Row.updatedBy row file) }
    have written : before.write? (.updateFile file) = some between := by
      rw [write?, found]
      rfl
    have remaining : ∀ other ∈ rest, between.files.contains other.id = true :=
      fun other member =>
        (Keyed.contains_put _ _ _).2 (.inr (known other (List.mem_cons_of_mem file member)))
    obtain ⟨after, replayed⟩ := ih remaining
    exact ⟨after, replay_cons_eq_some_iff.2 ⟨_, written, replayed⟩⟩

theorem exists_replay_deletes (ids : List String) (before : Holdings ρ) :
    ∃ after, replay (ids.map .deleteFile) before = some after := by
  induction ids generalizing before with
  | nil => exact ⟨before, rfl⟩
  | cons id rest ih =>
    obtain ⟨after, replayed⟩ := ih { before with files := before.files.erase id }
    exact ⟨after, replay_cons_eq_some_iff.2 ⟨_, rfl, replayed⟩⟩

/-- A plan that updates only what is there can be applied if its creates can be done. -/
theorem exists_replay_writes (known : ∀ file ∈ plan.toUpdate, before.files.contains file.id = true)
    (created : replay (plan.toCreate.map .createFile) before = some after) :
    ∃ last, replay plan.writes before = some last := by
  have still : ∀ file ∈ plan.toUpdate, after.files.contains file.id = true := fun file asked =>
    contains_of_replay (by simp) (by simp) (known file asked) created
  obtain ⟨updated, second⟩ := exists_replay_updates still
  obtain ⟨last, third⟩ := exists_replay_deletes plan.toDelete updated
  exact ⟨last, replay_append_eq_some_iff.2
    ⟨updated, replay_append_eq_some_iff.2 ⟨after, created, second⟩, third⟩⟩

/-! ## The write that fails -/

/-- Creates are all done, or up to one whose id is taken. -/
theorem replay_creates_cases (files : List FileRecord) (before : Holdings ρ) :
    (∃ after, replay (files.map .createFile) before = some after) ∨
      ∃ done file rest between, files = done ++ file :: rest ∧
        replay (done.map .createFile) before = some between ∧
          between.files.contains file.id = true := by
  induction files generalizing before with
  | nil => exact .inl ⟨before, rfl⟩
  | cons file rest ih =>
    by_cases taken : before.files.contains file.id = true
    · exact .inr ⟨[], file, rest, before, rfl, rfl, taken⟩
    · have written : before.write? (.createFile file) =
          some { before with files := before.files.put (Row.ofRecord file) } := if_neg taken
      rcases ih { before with files := before.files.put (Row.ofRecord file) } with
        ⟨after, replayed⟩ | ⟨done, culprit, later, between, rfl, replayed, clash⟩
      · exact .inl ⟨after, replay_cons_eq_some_iff.2 ⟨_, written, replayed⟩⟩
      · exact .inr ⟨file :: done, culprit, later, between, rfl,
          replay_cons_eq_some_iff.2 ⟨_, written, replayed⟩, clash⟩

/-- A plan that updates only what is there is applied in full, or a create finds its id taken. -/
theorem replay_writes_cases
    (known : ∀ file ∈ plan.toUpdate, before.files.contains file.id = true) :
    (∃ after, replay plan.writes before = some after) ∨
      ∃ done file rest between, plan.toCreate = done ++ file :: rest ∧
        replay (done.map .createFile) before = some between ∧
          between.files.contains file.id = true := by
  rcases replay_creates_cases plan.toCreate before with ⟨after, created⟩ | clash
  · exact .inl (exists_replay_writes known created)
  · exact .inr clash

/-! ## Plans made from what an index holds -/

variable {projectId : String} {listing : List RemoteFile} {planned : Plan}
variable (extracted : (Plan.make projectId listing (before.hashesOf projectId)).Extracted planned)
include extracted

theorem toUpdate_known {file : FileRecord} (asked : file ∈ planned.toUpdate) :
    before.files.contains file.id = true := by
  obtain ⟨row, there, named⟩ := (updates_of_extracted extracted).2 file asked
  exact Option.isSome_iff_exists.2 ⟨row, (before.files.find?_eq_some_iff _ _).2 ⟨there, named⟩⟩

/-- If a plan can be applied, no listed file is indexed under another project. -/
theorem owned_of_replay (written : replay planned.writes before = some after) {id : String}
    (listed : id ∈ Plan.listedIds projectId listing) : before.Owned projectId id := by
  cases found : (before.hashesOf projectId).find? id with
  | some entry => exact owned_of_hashesOf found
  | none =>
    -- The file is created, so nothing is there under its id.
    intro row there
    have created := Plan.mem_ids_toCreate listed found
    rw [← Plan.map_eq extracted.creates fun single => single.id] at created
    obtain ⟨file, asked, named⟩ := List.mem_map.1 created
    obtain ⟨member, same⟩ := (before.files.find?_eq_some_iff _ _).1 there
    exact absurd (same.trans named.symm)
      ((distinct_of_replay_writes written).2 file asked row member)

theorem replay_of_distinct (distinct : (Plan.listedIds projectId listing).Nodup)
    (owned : ∀ id ∈ Plan.listedIds projectId listing, before.Owned projectId id) :
    ∃ after, replay planned.writes before = some after := by
  have once : (planned.toCreate.map FileRecord.id).Nodup := by
    rw [Plan.map_eq extracted.creates fun single => single.id]
    exact Plan.toCreate_distinct distinct _
  have fresh : ∀ file ∈ planned.toCreate, before.files.find? file.id = none := by
    intro file asked
    obtain ⟨source, member, single⟩ := Plan.exists_source extracted.creates asked
    obtain ⟨remote, listed, rfl⟩ := Plan.listed_of_planned (.inl member)
    have absent := Plan.toCreate_fresh distinct (before.hashesOf projectId) member
    rw [single.id]
    cases there : before.files.find? (FileRecord.ofRemote projectId remote).id with
    | none => rfl
    | some row =>
      -- A row there would be the project's own, and the file would not be created.
      have filed := owned _ (List.mem_map_of_mem listed) row there
      rw [find?_hashesOf, there, map_filter_own filed] at absent
      cases absent
  obtain ⟨between, created⟩ := exists_replay_creates once fresh
  exact exists_replay_writes (fun file asked => toUpdate_known extracted asked) created

end Holdings

/-- **Repeated paths are what makes the sets of a plan meet**, and with files that are indexed under
another project they are what makes a plan fail. The sets are apart exactly if no path is listed
twice. A plan that is made from an index's own hashes and extracted is applied to that index in full
exactly if no path is listed twice and no listed file is indexed under another project. Otherwise it
fails as the create of a file whose id is taken. -/
theorem Storage.Refusals.make_apart {ι ρ : Type} [Row ρ] {backend : Backend ι}
    {storage : Storage backend ρ} (refusals : storage.Refusals) (projectId : String)
    (listing : List RemoteFile) :
    (∀ indexed, (Plan.make projectId listing indexed).Apart indexed ↔
      (listing.map RemoteFile.path).Nodup) ∧
    ∀ index hashes planned, (∀ operation, refusals.obstacle index operation = none) →
      backend.fileHashes index projectId = .ok hashes →
      (Plan.make projectId listing hashes).Extracted planned →
        ((∃ after, backend.writeAll planned.writes index = .ok after) ↔
          (listing.map RemoteFile.path).Nodup ∧
            ∀ id ∈ Plan.listedIds projectId listing, (storage.holdings index).Owned projectId id) ∧
        ((∃ after, backend.writeAll planned.writes index = .ok after) ∨
          ∃ file ∈ planned.toCreate,
            backend.writeAll planned.writes index = .error (refusals.clash (.createFile file))) := by
  refine ⟨fun indexed => Plan.apart_make_iff, fun index hashes planned clear told extracted => ?_⟩
  obtain ⟨-, rfl⟩ := storage.fileHashes_eq_ok_iff.1 told
  constructor
  · rw [← Plan.nodup_listedIds_iff projectId]
    constructor
    · rintro ⟨after, written⟩
      have replayed := (storage.replay_of_writeAll written).1
      exact ⟨Holdings.listedIds_distinct_of_replay extracted replayed,
        fun id listed => Holdings.owned_of_replay extracted replayed listed⟩
    · rintro ⟨distinct, owned⟩
      obtain ⟨after, replayed⟩ := Holdings.replay_of_distinct extracted distinct owned
      obtain ⟨last, written, -⟩ := refusals.writeAll_of_replay clear replayed
      exact ⟨last, written⟩
  · rcases Holdings.replay_writes_cases
      fun file asked => Holdings.toUpdate_known extracted asked with
      ⟨after, replayed⟩ | ⟨done, file, rest, between, split, replayed, taken⟩
    · obtain ⟨last, written, -⟩ := refusals.writeAll_of_replay clear replayed
      exact .inl ⟨last, written⟩
    · refine .inr ⟨file, split ▸ List.mem_append_right done List.mem_cons_self, ?_⟩
      have refused : between.write? (.createFile file) = none := if_pos taken
      rw [Plan.writes, split, List.map_append, List.map_cons, List.append_assoc, List.append_assoc,
        List.cons_append]
      exact refusals.writeAll_of_unadmitted clear replayed refused

open Rehearsal

/-- An index in memory that holds the scene's project with one file. -/
def holdingOne : MemoryIndex :=
  Scene.indexed [Scene.entry "A.java" "1"]

/-- The plan for a listing of the scene's project that is made from this index. -/
def planFor (listing : List RemoteFile) : Plan :=
  Plan.make "o/p" listing (holdingOne.holdings.hashesOf "o/p")

/-- Listed once each, a changed file and a new one are written. -/
theorem Storage.Refusals.make_apart_once :
    ∃ after, MemoryIndex.backend.writeAll
      (planFor [Scene.entry "A.java" "2", Scene.entry "B.java" "1"]).writes holdingOne =
        .ok after := by
  have own : ∀ row ∈ holdingOne.holdings.files.entries, Row.projectId row = "o/p" := by
    decide +kernel
  refine ((MemoryIndex.refusals.make_apart "o/p" _).2 holdingOne _ _ (fun _ => rfl)
    rfl (Plan.Extracted.refl _)).1.2 ⟨by decide, ?_⟩
  intro id listed row found
  exact own row ((Keyed.find?_eq_some_iff _ _ _).1 found).1

/-- The file that is updated is created as well, although it is indexed, and the plan fails. -/
def MeetsItself (listing : List RemoteFile) (id : String) : Prop :=
  ((planFor listing).toUpdate.map FileRecord.id = [id] ∧
      (planFor listing).toCreate.map FileRecord.id = [id] ∧
      (holdingOne.holdings.hashesOf "o/p").contains id = true) ∧
    ¬(planFor listing).Apart (holdingOne.holdings.hashesOf "o/p") ∧
    MemoryIndex.backend.writeAll (planFor listing).writes holdingOne = .error (.fileExists id)

/-- **A path that is listed twice makes the sets of a plan meet**, and the plan cannot be applied to
the index that it was made from. -/
theorem make_relisted :
    MeetsItself [Scene.entry "A.java" "2", Scene.entry "A.java" "2"] "o/p/A.java" := by
  refine ⟨by decide +kernel, fun apart => ?_, rfl⟩
  exact absurd (Plan.apart_make_iff.1 apart) (by decide)

end SourceIndex
