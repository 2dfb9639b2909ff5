import Mathlib.Data.List.Sort
import SourceIndex.Proofs.Index.Anchoring
import SourceIndex.Proofs.Plan.Reconciliation

/-!
# Plans that are resumed

When a plan was applied only in part and is made anew, the files that were written before drop out
of it, and nothing else changes: a file that was settled is neither created, nor updated, nor
deleted any more (`make_of_settled`). So the plan made anew consists of the remaining writes of the
old one, in the same order and, if the records are prepared by a fixed function, with the same
records.

Main statement: after any first part of its writes, a prepared plan is resumed by the plan made and
prepared anew (`prepared_of_replay`).
-/

set_option autoImplicit false

namespace SourceIndex

namespace Plan

variable {projectId : String} {listing : List RemoteFile} {left after : Hashes} {id : String}

/-! ## Plans without settled files -/

/-- The deletes of a plan are determined by what is among them. -/
theorem toDelete_eq_filter {test : String → Bool}
    (same : ∀ other, other ∈ (make projectId listing after).toDelete ↔
      other ∈ (make projectId listing left).toDelete ∧ test other = true) :
    (make projectId listing after).toDelete =
      (make projectId listing left).toDelete.filter test := by
  have perm : (make projectId listing after).toDelete.Perm
      ((make projectId listing left).toDelete.filter test) :=
    (List.perm_ext_iff_of_nodup (nodup_toDelete _ _ _)
      ((nodup_toDelete _ _ _).filter _)).2 fun other => (same other).trans List.mem_filter.symm
  refine perm.eq_of_pairwise ?_ (sorted_toDelete _ _ _) ((sorted_toDelete _ _ _).filter _)
  intro first second _ _ forward backward
  exact String.toList_inj.1 (Text.eq_of_atMost forward backward)

/-- **A file that is settled drops out of the plan.** The file is listed and indexed with its hash,
or neither listed nor indexed; of all other files the index says the same as before. -/
theorem make_of_settled (distinct : (listedIds projectId listing).Nodup)
    (elsewhere : ∀ other, other ≠ id → after.find? other = left.find? other)
    (listed : ∀ remote ∈ listing, FileRecord.idOf projectId remote.path = id →
      after.find? id = some (id, remote.sha))
    (unlisted : id ∉ listedIds projectId listing → after.find? id = none) :
    (make projectId listing after).toCreate =
        (make projectId listing left).toCreate.filter (fun file => file.id != id) ∧
      (make projectId listing after).toUpdate =
        (make projectId listing left).toUpdate.filter (fun file => file.id != id) ∧
      (make projectId listing after).toDelete =
        (make projectId listing left).toDelete.filter (· != id) := by
  obtain ⟨creates, updates⟩ := make_of_distinct distinct after
  obtain ⟨oldCreates, oldUpdates⟩ := make_of_distinct distinct left
  refine ⟨?_, ?_, ?_⟩
  · rw [creates, oldCreates, List.filter_map, List.filter_filter]
    refine congrArg _ (List.filter_congr fun remote member => ?_)
    by_cases same : FileRecord.idOf projectId remote.path = id
    · simp [same, listed remote member same, FileRecord.ofRemote]
    · simp [same, elsewhere _ same, FileRecord.ofRemote]
  · rw [updates, oldUpdates, List.filter_map, List.filter_filter]
    refine congrArg _ (List.filter_congr fun remote member => ?_)
    by_cases same : FileRecord.idOf projectId remote.path = id
    · simp [same, listed remote member same, FileRecord.ofRemote]
    · simp [same, elsewhere _ same, FileRecord.ofRemote]
  · refine toDelete_eq_filter fun other => ?_
    rw [mem_toDelete_iff, mem_toDelete_iff, bne_iff_ne]
    by_cases same : other = id
    · subst same
      constructor
      · rintro ⟨⟨entry, found⟩, missing⟩
        rw [unlisted missing] at found
        cases found
      · exact fun kept => absurd rfl kept.2
    · rw [elsewhere other same]
      exact ⟨fun kept => ⟨kept, same⟩, fun kept => kept.1⟩

/-! ## Plans prepared by a fixed function -/

variable {κ : Type} {change : FileRecord → Except κ FileRecord}

/-- The function makes of a record one for the same file, with the same hash. -/
def KeepsIdentity (change : FileRecord → Except κ FileRecord) : Prop :=
  ∀ file prepared, change file = .ok prepared →
    prepared.id = file.id ∧ prepared.projectId = file.projectId ∧ prepared.sha = file.sha

/-- The second plan is the first one with each record prepared by a function. -/
structure Prepared (change : FileRecord → Except κ FileRecord) (plan prepared : Plan) : Prop where
  creates : List.Forall₂ (fun file result => change file = .ok result)
    plan.toCreate prepared.toCreate
  updates : List.Forall₂ (fun file result => change file = .ok result)
    plan.toUpdate prepared.toUpdate
  deletes : prepared.toDelete = plan.toDelete
  unchanged : prepared.unchanged = plan.unchanged

/-- A plan without the writes of one file. -/
def without (plan : Plan) (id : String) (unchanged : Nat) : Plan :=
  ⟨plan.toCreate.filter (fun file => file.id != id),
    plan.toUpdate.filter (fun file => file.id != id), plan.toDelete.filter (· != id), unchanged⟩

theorem writes_without (plan : Plan) (id : String) (unchanged : Nat) :
    (plan.without id unchanged).writes =
      plan.writes.filter fun write => write.operation.id != id := by
  simp only [writes, without, List.filter_append, List.filter_map]
  rfl

namespace Prepared

variable {plan prepared other : Plan}

theorem unique (first : Prepared change plan prepared) (second : Prepared change plan other) :
    prepared = other := by
  have functional : ∀ {files results others : List FileRecord},
      List.Forall₂ (fun file result => change file = .ok result) files results →
        List.Forall₂ (fun file result => change file = .ok result) files others →
          results = others := by
    intro files results others here
    induction here generalizing others with
    | nil =>
      intro there
      cases there
      rfl
    | cons single _ ih =>
      rintro (_ | ⟨again, rest⟩)
      rw [single] at again
      cases again
      rw [ih rest]
  rcases prepared with ⟨created, updated, deleted, unchanged⟩
  rcases other with ⟨created', updated', deleted', unchanged'⟩
  cases functional first.creates second.creates
  cases functional first.updates second.updates
  cases first.deletes.trans second.deletes.symm
  cases first.unchanged.trans second.unchanged.symm
  rfl

theorem map_id_creates (keeps : KeepsIdentity change) (made : Prepared change plan prepared) :
    prepared.toCreate.map FileRecord.id = plan.toCreate.map FileRecord.id :=
  map_eq made.creates fun single => (keeps _ _ single).1

theorem map_id_updates (keeps : KeepsIdentity change) (made : Prepared change plan prepared) :
    prepared.toUpdate.map FileRecord.id = plan.toUpdate.map FileRecord.id :=
  map_eq made.updates fun single => (keeps _ _ single).1

theorem filter_id (keeps : KeepsIdentity change) {files results : List FileRecord}
    (made : List.Forall₂ (fun file result => change file = .ok result) files results) :
    List.Forall₂ (fun file result => change file = .ok result)
      (files.filter fun file => file.id != id) (results.filter fun file => file.id != id) := by
  refine List.rel_filter (fun file result single => ?_) made
  change (file.id != id) = true ↔ (result.id != id) = true
  rw [(keeps _ _ single).1]

/-- Preparing goes on without a file as it does with it. -/
theorem without (keeps : KeepsIdentity change) (made : Prepared change plan prepared)
    (id : String) (unchanged : Nat) :
    Prepared change (plan.without id unchanged) (prepared.without id unchanged) where
  creates := filter_id keeps made.creates
  updates := filter_id keeps made.updates
  deletes := congrArg (List.filter (· != id)) made.deletes
  unchanged := rfl

/-- No two writes of a plan are of the same file. -/
theorem distinct_writes (keeps : KeepsIdentity change)
    (distinct : (listedIds projectId listing).Nodup)
    (made : Prepared change (make projectId listing left) prepared) :
    (prepared.writes.map fun write => write.operation.id).Nodup := by
  have ids : (prepared.writes.map fun write => write.operation.id) =
      (make projectId listing left).ids := by
    rw [Plan.ids, ← made.map_id_creates keeps, ← made.map_id_updates keeps, ← made.deletes]
    simp only [writes, List.map_append, List.map_map]
    refine congrArg _ ?_
    exact List.map_id _
  rw [ids]
  exact nodup_ids distinct left

/-- A write of a prepared plan leaves a listed file with its hash, or deletes one that is not
listed. -/
theorem write_cases (keeps : KeepsIdentity change)
    (made : Prepared change (make projectId listing left) prepared) {write : Write}
    (member : write ∈ prepared.writes) :
    write.FiledUnder projectId ∧
      ((∃ remote ∈ listing, write.operation.id = FileRecord.idOf projectId remote.path ∧
          write.sha? = some remote.sha) ∨
        write.operation.id ∉ listedIds projectId listing ∧ write.sha? = none) := by
  have filled : ∀ file, (file ∈ prepared.toCreate ∨ file ∈ prepared.toUpdate) →
      ∃ remote ∈ listing, file.id = FileRecord.idOf projectId remote.path ∧
        file.projectId = projectId ∧ file.sha = remote.sha := by
    intro file within
    have planned : ∃ source, (source ∈ (make projectId listing left).toCreate ∨
        source ∈ (make projectId listing left).toUpdate) ∧ change source = .ok file := by
      rcases within with create | update
      · obtain ⟨source, there, single⟩ := exists_source made.creates create
        exact ⟨source, .inl there, single⟩
      · obtain ⟨source, there, single⟩ := exists_source made.updates update
        exact ⟨source, .inr there, single⟩
    obtain ⟨source, there, single⟩ := planned
    obtain ⟨remote, listed, rfl⟩ := listed_of_planned there
    exact ⟨remote, listed, keeps _ _ single⟩
  rcases List.mem_append.1 member with filling | deleting
  · rcases List.mem_append.1 filling with creating | updating
    · obtain ⟨file, within, rfl⟩ := List.mem_map.1 creating
      obtain ⟨remote, listed, named, filed, same⟩ := filled file (.inl within)
      exact ⟨filed, .inl ⟨remote, listed, named, congrArg some same⟩⟩
    · obtain ⟨file, within, rfl⟩ := List.mem_map.1 updating
      obtain ⟨remote, listed, named, filed, same⟩ := filled file (.inr within)
      exact ⟨filed, .inl ⟨remote, listed, named, congrArg some same⟩⟩
  · obtain ⟨id, within, rfl⟩ := List.mem_map.1 deleting
    rw [made.deletes] at within
    exact ⟨trivial, .inr ⟨(mem_toDelete_iff.1 within).2, rfl⟩⟩

end Prepared

end Plan

/-! ## Plans made anew -/

namespace Holdings

variable {ρ κ : Type} [Row ρ] {before after : Holdings ρ} {projectId : String}
variable {listing : List RemoteFile} {change : FileRecord → Except κ FileRecord} {planned : Plan}
variable (keeps : Plan.KeepsIdentity change) (distinct : (Plan.listedIds projectId listing).Nodup)
include keeps distinct

/-- After the first write of a prepared plan, the plan made anew has the remaining writes. -/
theorem prepared_of_write?
    (made : (Plan.make projectId listing (before.hashesOf projectId)).Prepared change planned)
    {write : Write} {rest : List Write} (split : planned.writes = write :: rest)
    (written : before.write? write = some after) :
    ∃ next, (Plan.make projectId listing (after.hashesOf projectId)).Prepared change next ∧
      next.writes = rest := by
  have first : write ∈ planned.writes := split ▸ List.mem_cons_self
  obtain ⟨filed, settled⟩ := made.write_cases keeps first
  have hashes := find?_hashesOf_of_write? filed written
  obtain ⟨creates, updates, deletes⟩ := Plan.make_of_settled distinct
    (fun other apart => (hashes other).trans (if_neg apart))
    (fun remote listed named => by
      rw [hashes, if_pos rfl]
      rcases settled with ⟨source, known, called, sha⟩ | ⟨unlisted, -⟩
      · cases List.inj_on_of_nodup_map distinct listed known (named.trans called)
        rw [sha]
        rfl
      · exact absurd (named ▸ List.mem_map_of_mem listed) unlisted)
    (fun unlisted => by
      rw [hashes, if_pos rfl]
      rcases settled with ⟨source, known, called, -⟩ | ⟨-, sha⟩
      · exact absurd (called ▸ List.mem_map_of_mem known) unlisted
      · rw [sha]
        rfl)
  let unchanged := (Plan.make projectId listing (after.hashesOf projectId)).unchanged
  have anew : Plan.make projectId listing (after.hashesOf projectId) =
      (Plan.make projectId listing (before.hashesOf projectId)).without write.operation.id
        unchanged := by
    rw [Plan.without, ← creates, ← updates, ← deletes]
  refine ⟨planned.without write.operation.id unchanged, ?_, ?_⟩
  · rw [anew]
    exact made.without keeps write.operation.id unchanged
  · have once := made.distinct_writes keeps distinct
    rw [split, List.map_cons, List.nodup_cons] at once
    rw [Plan.writes_without, split, List.filter_cons_of_neg (by simp), List.filter_eq_self]
    intro other member
    exact bne_iff_ne.2 fun same => once.1 (same ▸ List.mem_map_of_mem member)

/-- **A plan that was begun is resumed by the plan made anew.** -/
theorem prepared_of_replay
    (made : (Plan.make projectId listing (before.hashesOf projectId)).Prepared change planned)
    {done rest : List Write} (split : planned.writes = done ++ rest)
    (written : replay done before = some after) :
    ∃ next, (Plan.make projectId listing (after.hashesOf projectId)).Prepared change next ∧
      next.writes = rest := by
  induction done generalizing before planned with
  | nil =>
    cases written
    exact ⟨planned, made, split⟩
  | cons write others ih =>
    obtain ⟨between, first, replayed⟩ := replay_cons_eq_some_iff.1 written
    obtain ⟨next, again, remaining⟩ := prepared_of_write? keeps distinct made split first
    exact ih again remaining replayed

end Holdings

end SourceIndex
