import Mathlib.Algebra.BigOperators.Group.List.Lemmas
import Mathlib.Algebra.BigOperators.Ring.Finset
import SourceIndex.Index.Basic
import SourceIndex.Proofs.Text.Utf8

/-!
# Counting by project

The statistics of an index count how often each id occurs among the ids that its files are filed
under (`IndexStats.tally`). Every id that occurs is listed once with its count
(`IndexStats.mem_tally_iff`, `IndexStats.nodup_tally`), and the counts sum up to the number of files
(`IndexStats.sum_tally`).

The entries are sorted by an order in which no two entries of one list tie, so the list is
determined by its entries (`IndexStats.sorted_tally`). Main statement: leaving ids out takes their
entries away and leaves the other entries as they are, in their order (`IndexStats.tally_filter`).
-/

set_option autoImplicit false

namespace SourceIndex.IndexStats

/-! ## The order of entries -/

/-- The entry comes before another one: it has more files, or as many and the id with the lesser
bytes. -/
def Outranks (left right : String × Int) : Prop :=
  right.2 < left.2 ∨ left.2 = right.2 ∧ Utf8.ofString left.1 < Utf8.ofString right.1

theorem precedes_iff {left right : String × Int} :
    precedes left right = true ↔
      right.2 < left.2 ∨ left.2 = right.2 ∧ Text.ordered left.1 right.1 = true := by
  rw [precedes]
  split
  · next same => simp [same]
  · next apart => simp [apart]

theorem precedes_total (left right : String × Int) :
    (precedes left right || precedes right left) = true := by
  rw [Bool.or_eq_true, precedes_iff, precedes_iff]
  have ids := Text.atMost_total left.1.toList right.1.toList
  rw [Bool.or_eq_true] at ids
  rcases Int.lt_trichotomy left.2 right.2 with less | same | more
  · exact .inr (.inl less)
  · exact ids.imp (fun before => .inr ⟨same, before⟩) fun after => .inr ⟨same.symm, after⟩
  · exact .inl (.inl more)

theorem precedes_trans {first second third : String × Int}
    (before : precedes first second = true) (after : precedes second third = true) :
    precedes first third = true := by
  rw [precedes_iff] at before after ⊢
  rcases before with more | ⟨same, ids⟩
  · rcases after with more' | ⟨same', -⟩
    · exact .inl (Int.lt_trans more' more)
    · exact .inl (same' ▸ more)
  · rcases after with more' | ⟨same', ids'⟩
    · exact .inl (same ▸ more')
    · exact .inr ⟨same.trans same', Text.atMost_trans ids ids'⟩

/-- Of entries with different ids the one that precedes comes before the other one. -/
theorem outranks_of_precedes {left right : String × Int} (apart : left.1 ≠ right.1)
    (before : precedes left right = true) : Outranks left right := by
  refine (precedes_iff.1 before).imp_right fun ⟨same, ids⟩ => ⟨same, List.not_le.1 fun reverse => ?_⟩
  exact apart (String.toList_inj.1 (Text.eq_of_atMost ids (Text.ordered_iff.2 reverse)))

theorem outranks_asymm {left right : String × Int} (before : Outranks left right) :
    ¬Outranks right left := by
  rintro (more | ⟨same, ids⟩)
  · rcases before with more' | ⟨same', -⟩ <;> omega
  · rcases before with more' | ⟨-, ids'⟩
    · omega
    · exact List.lt_irrefl _ (List.lt_trans ids ids')

/-! ## Distinct ids -/

theorem mem_distinctIds {ids : List String} {id : String} : id ∈ distinctIds ids ↔ id ∈ ids := by
  induction ids with
  | nil => rfl
  | cons first rest ih =>
    rw [distinctIds, List.mem_cons, List.mem_cons, List.mem_filter, ih, bne_iff_ne]
    by_cases same : id = first <;> simp [same]

theorem nodup_distinctIds (ids : List String) : (distinctIds ids).Nodup := by
  induction ids with
  | nil => exact List.nodup_nil
  | cons first rest ih =>
    rw [distinctIds, List.nodup_cons]
    exact ⟨by simp, ih.filter _⟩

/-! ## Entries -/

/-- What is listed is every id that occurs, with the number of times it does. -/
theorem mem_tally_iff {ids : List String} {entry : String × Int} :
    entry ∈ tally ids ↔ entry.1 ∈ ids ∧ entry.2 = ids.count entry.1 := by
  rw [tally, (List.mergeSort_perm _ _).mem_iff, List.mem_map]
  constructor
  · rintro ⟨id, occurs, rfl⟩
    exact ⟨mem_distinctIds.1 occurs, rfl⟩
  · rintro ⟨occurs, counted⟩
    exact ⟨entry.1, mem_distinctIds.2 occurs, Prod.ext rfl counted.symm⟩

theorem map_fst_tally (ids : List String) : ((tally ids).map Prod.fst).Perm (distinctIds ids) := by
  refine ((List.mergeSort_perm _ _).map Prod.fst).trans (.of_eq ?_)
  rw [List.map_map]
  exact List.map_id _

/-- No id is listed twice. -/
theorem nodup_tally (ids : List String) : ((tally ids).map Prod.fst).Nodup :=
  (map_fst_tally ids).nodup_iff.2 (nodup_distinctIds ids)

theorem sorted_tally (ids : List String) : (tally ids).Pairwise Outranks := by
  have trans : ∀ first second third : String × Int, precedes first second = true →
      precedes second third = true → precedes first third = true := fun _ _ _ => precedes_trans
  have sorted : (tally ids).Pairwise fun left right => precedes left right = true :=
    List.pairwise_mergeSort trans precedes_total _
  have apart : (tally ids).Pairwise fun left right => left.1 ≠ right.1 :=
    List.pairwise_map.1 (nodup_tally ids)
  exact apart.imp₂ (fun _ _ => outranks_of_precedes) sorted

/-- The counts sum up to the number of all. -/
theorem sum_tally (ids : List String) : ((tally ids).map Prod.snd).sum = ids.length := by
  have all : (distinctIds ids).Perm ids.dedup :=
    (List.perm_ext_iff_of_nodup (nodup_distinctIds ids) ids.nodup_dedup).2 fun id => by
      rw [mem_distinctIds, List.mem_dedup]
  rw [tally, ((List.mergeSort_perm _ _).map Prod.snd).sum_eq, List.map_map,
    (all.map _).sum_eq, ← List.sum_map_count_dedup_eq_length ids, Nat.cast_list_sum, List.map_map]
  rfl

/-- **Leaving ids out takes their entries away** and changes nothing else. -/
theorem tally_filter (ids : List String) (test : String → Bool) :
    tally (ids.filter test) = (tally ids).filter fun entry => test entry.1 := by
  have entries : (tally (ids.filter test)).Perm ((tally ids).filter fun entry => test entry.1) := by
    refine (List.perm_ext_iff_of_nodup (nodup_tally _).of_map
      ((nodup_tally ids).of_map.filter _)).2 fun entry => ?_
    rw [mem_tally_iff, List.mem_filter, List.mem_filter, mem_tally_iff, and_right_comm]
    refine and_congr_left fun passes => ?_
    rw [List.count_filter passes]
  refine entries.eq_of_pairwise (fun _ _ _ _ before after => ?_) (sorted_tally _)
    ((sorted_tally ids).filter _)
  exact absurd after (outranks_asymm before)

end SourceIndex.IndexStats
