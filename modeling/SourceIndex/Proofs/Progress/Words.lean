import SourceIndex.Proofs.Progress

/-!
# Fifths in words

Counts are words of 64 bits, and a product of words need not fit in a word. The test for a fifth
takes five times a count, but not before it has found that the count is within the run
(`Progress.completesFifth?`). So a run whose own fivefold fits is safe for every count, also for one
that lies far outside it (`Progress.completesFifth?_eq`).

Main statement: for such a run, how many of the first writes complete a fifth, how many of all, that
the last of these is the last write, and that no product overflows
(`Progress.completesFifth_counted`).
-/

set_option autoImplicit false

namespace SourceIndex.Progress

/-! ## Evaluation in words -/

/-- The product of two words, if it fits in a word. -/
def product? (left right : UInt64) : Option UInt64 :=
  if left.toNat * right.toNat < UInt64.size then some (left * right) else none

/-- The test for a fifth as it is evaluated in words; nothing if a product does not fit. -/
def completesFifth? (count total : UInt64) : Option Bool :=
  if total = 0 || count = 0 || total < count then some false
  else do
    let withIt ← product? count 5
    let before ← product? (count - 1) 5
    return before / total < withIt / total

/-- A product that fits is the product of the numbers. -/
theorem exists_product? {left right : UInt64} (fits : left.toNat * right.toNat < UInt64.size) :
    ∃ product, product? left right = some product ∧
      product.toNat = left.toNat * right.toNat :=
  ⟨left * right, if_pos fits, by rw [UInt64.toNat_mul, Nat.mod_eq_of_lt fits]⟩

/-- **No product overflows** if five times the whole run fits in a word, whatever the count. -/
theorem completesFifth?_eq {total : UInt64} (within : total.toNat ≤ (UInt64.size - 1) / 5)
    (count : UInt64) :
    completesFifth? count total = some (completesFifth count.toNat total.toNat) := by
  have size : UInt64.size = 18446744073709551616 := rfl
  have five : (5 : UInt64).toNat = 5 := rfl
  have outside : (total = 0 || count = 0 || total < count) =
      (total.toNat = 0 || count.toNat = 0 || total.toNat < count.toNat) := by
    simp only [← UInt64.toNat_inj, UInt64.lt_iff_toNat_lt, UInt64.toNat_zero]
  rw [completesFifth?, completesFifth, outside]
  split
  · rfl
  · next inside =>
    -- Only a count within the run is multiplied.
    simp only [Bool.or_eq_true, decide_eq_true_eq, not_or] at inside
    obtain ⟨⟨-, positive⟩, reached⟩ := inside
    have previous : (count - 1).toNat = count.toNat - 1 :=
      UInt64.toNat_sub_of_le _ _ (UInt64.le_iff_toNat_le.2 (Nat.one_le_iff_ne_zero.2 positive))
    have fits : count.toNat * (5 : UInt64).toNat < UInt64.size := by
      rw [five, size]
      omega
    have fits' : (count - 1).toNat * (5 : UInt64).toNat < UInt64.size := by
      rw [five, size, previous]
      omega
    obtain ⟨withIt, multiplied, value⟩ := exists_product? fits
    obtain ⟨before, multiplied', value'⟩ := exists_product? fits'
    rw [multiplied, multiplied']
    simp only [Option.bind_eq_bind, Option.bind_some, Option.pure_def, UInt64.lt_iff_toNat_lt,
      UInt64.toNat_div, value, value', previous, five]

/-! ## Fifths of a run -/

/-- The last write of a run is the last that completes a fifth. -/
theorem getLast?_completesFifth (total : Nat) :
    ((List.range' 1 total).filter fun count => completesFifth count total).getLast? =
      if total = 0 then none else some total := by
  cases total with
  | zero => rfl
  | succ others =>
    have last : completesFifth (others + 1) (others + 1) = true := by
      rw [completesFifth_iff (Nat.lt_succ_self others), Nat.mul_div_cancel_left 5 others.succ_pos]
      exact (Nat.div_lt_iff_lt_mul others.succ_pos).2 (by omega)
    have kept : [others + 1].filter (fun count => completesFifth count (others + 1)) =
        [others + 1] :=
      List.filter_eq_self.2 fun count member => List.mem_singleton.1 member ▸ last
    rw [List.range'_1_concat, List.filter_append, Nat.add_comm 1 others, kept,
      List.getLast?_concat, if_neg (Nat.succ_ne_zero others)]

/-- Writes are counted from one. -/
theorem countP_range' (test : Nat → Bool) (count : Nat) :
    (List.range' 1 count).countP test = (List.range count).countP fun before => test (before + 1) := by
  rw [List.range'_eq_map_range, List.countP_map]
  exact List.countP_congr fun before _ => by rw [Function.comp_apply, Nat.add_comm]

/-- **Fifths of a run.** Of the first writes of a run as many complete a fifth as there are fifths
in them, or all of them if there are more; of the whole run five do, or all if there are less, and
the last write is the last of these. No count outside the run completes a fifth. If five times the
run fits in a word, all of this can be evaluated in words for any count. -/
theorem completesFifth_counted {total : UInt64} (within : total.toNat ≤ (UInt64.size - 1) / 5) :
    (∀ count ≤ total.toNat,
      (List.range' 1 count).countP (fun n => completesFifth n total.toNat) =
        min count (5 * count / total.toNat)) ∧
      (List.range' 1 total.toNat).countP (fun n => completesFifth n total.toNat) =
        min 5 total.toNat ∧
      ((List.range' 1 total.toNat).filter fun n => completesFifth n total.toNat).getLast? =
        (if total.toNat = 0 then none else some total.toNat) ∧
      (∀ n, ¬(1 ≤ n ∧ n ≤ total.toNat) → completesFifth n total.toNat = false) ∧
      ∀ count, completesFifth? count total = some (completesFifth count.toNat total.toNat) := by
  refine ⟨fun count first => ?_, ?_, getLast?_completesFifth _, fun n outside => ?_,
    completesFifth?_eq within⟩
  · rw [countP_range', countP_completesFifth first, Nat.mul_comm]
  · rw [countP_range', countP_completesFifth_all]
  · exact completesFifth_outside (by omega)

/-- The longest run whose fivefold fits in a word: three fifths are complete with the first write
that is past three fifths of it, and five with the last. -/
theorem completesFifth_counted_longest :
    let total : UInt64 := 3689348814741910323
    total.toNat ≤ (UInt64.size - 1) / 5 ∧
      (List.range' 1 2213609288845146194).countP (fun n => completesFifth n total.toNat) = 3 ∧
      (List.range' 1 total.toNat).countP (fun n => completesFifth n total.toNat) = 5 ∧
      completesFifth (total.toNat + 1) total.toNat = false ∧
      completesFifth? total total = some true := by
  intro total
  have within : total.toNat ≤ (UInt64.size - 1) / 5 := by decide
  obtain ⟨first, all, -, outside, inWords⟩ := completesFifth_counted within
  refine ⟨within, (first _ (by decide)).trans (by decide), all, outside _ (by decide), ?_⟩
  rw [inWords]
  decide

end SourceIndex.Progress
