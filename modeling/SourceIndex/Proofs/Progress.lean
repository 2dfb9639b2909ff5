import SourceIndex.Progress

/-!
# Dots for writes

Writes are counted in fifths of a run. Of the first `m` of `T` writes those complete a fifth that
take `5 * m / T` up by one at least, so as many do as there are fifths in them, unless the run is so
short that a write completes several at once; then every write does.

Main statements: how many of the first writes complete a fifth (`Progress.countP_completesFifth`),
and that a run of `T` writes is written as `min 5 T` dots (`Progress.textOfAll_writings_all`).
-/

set_option autoImplicit false

namespace SourceIndex.Progress

/-! ## Fifths -/

/-- A write of a run completes a fifth if there are more of them with it than before it. -/
theorem completesFifth_iff {before total : Nat} (within : before < total) :
    completesFifth (before + 1) total = true ↔ before * 5 / total < (before + 1) * 5 / total := by
  have nonempty : ¬total = 0 := by omega
  have notBeyond : ¬total < before + 1 := by omega
  simp [completesFifth, nonempty, notBeyond]

/-- One write more completes one fifth more at the most if the run has five writes at least, and one
at least if it has five at the most. -/
theorem fifths_succ (before : Nat) {total : Nat} (positive : 0 < total) :
    (5 ≤ total → (before + 1) * 5 / total ≤ before * 5 / total + 1) ∧
      (total ≤ 5 → before * 5 / total + 1 ≤ (before + 1) * 5 / total) := by
  have next : before * 5 / total + 1 = (before * 5 + total) / total :=
    (Nat.add_div_right _ positive).symm
  constructor
  · intro long
    rw [next]
    exact Nat.div_le_div_right (by omega)
  · intro short
    rw [next]
    exact Nat.div_le_div_right (by omega)

/-- The first writes are not less than their fifths if the run has five writes at least, and not
more if it has five at the most. -/
theorem fifths_le (count : Nat) {total : Nat} (positive : 0 < total) :
    (5 ≤ total → count * 5 / total ≤ count) ∧ (total ≤ 5 → count ≤ count * 5 / total) := by
  constructor
  · intro long
    refine Nat.div_le_of_le_mul ?_
    rw [Nat.mul_comm]
    exact Nat.mul_le_mul_right count long
  · intro short
    exact (Nat.le_div_iff_mul_le positive).2 (Nat.mul_le_mul_left count short)

/-- **Of the first writes as many complete a fifth as there are fifths in them**, or all of them if
there are more. -/
theorem countP_completesFifth {count total : Nat} (within : count ≤ total) :
    (List.range count).countP (fun before => completesFifth (before + 1) total) =
      min count (count * 5 / total) := by
  induction count with
  | zero => simp
  | succ count ih =>
    have positive : 0 < total := by omega
    have completes : completesFifth (count + 1) total = true ↔ _ := completesFifth_iff (by omega)
    obtain ⟨oneMost, oneLeast⟩ := fifths_succ count positive
    obtain ⟨fewer, more⟩ := fifths_le count positive
    rw [List.range_succ, List.countP_append, ih (by omega), List.countP_singleton]
    -- In a long run a write completes one fifth or none, in a short run one or several.
    rcases Nat.le_total 5 total with long | short
    · have bound := fewer long
      have step := oneMost long
      by_cases reached : count * 5 / total < (count + 1) * 5 / total
      · rw [if_pos (completes.2 reached)]
        omega
      · have same : count * 5 / total = (count + 1) * 5 / total :=
          Nat.le_antisymm (Nat.div_le_div_right (by omega)) (Nat.not_lt.1 reached)
        rw [if_neg fun done => reached (completes.1 done)]
        omega
    · have bound := more short
      have step := oneLeast short
      rw [if_pos (completes.2 step)]
      omega

/-- A whole run completes five fifths, or one with each write if it has less than five. -/
theorem countP_completesFifth_all (total : Nat) :
    (List.range total).countP (fun before => completesFifth (before + 1) total) = min 5 total := by
  cases total with
  | zero => rfl
  | succ rest =>
    rw [countP_completesFifth (Nat.le_refl _), Nat.mul_div_cancel_left 5 rest.succ_pos]
    exact Nat.min_comm _ _

/-! ## Dots -/

/-- The reports of the first writes of a run. -/
def writings (project : String) (total count : Nat) : List Event :=
  (List.range count).map fun before => .writing project (before + 1) total

theorem textOfAll_append (mode : ProgressMode) (events others : List Event) :
    textOfAll mode (events ++ others) = textOfAll mode events ++ textOfAll mode others := by
  rw [textOfAll, List.map_append, String.join_append]
  rfl

theorem writings_succ (project : String) (total count : Nat) :
    writings project total (count + 1) =
      writings project total count ++ [.writing project (count + 1) total] := by
  rw [writings, List.range_succ, List.map_append]
  rfl

/-- The first writes are written as a dot for each that completes a fifth. -/
theorem textOfAll_writings (project : String) (total count : Nat) :
    textOfAll .dots (writings project total count) =
      String.ofList (List.replicate ((List.range count).countP fun before =>
        completesFifth (before + 1) total) '.') := by
  induction count with
  | zero => rfl
  | succ count ih =>
    have last : textOfAll .dots [.writing project (count + 1) total] =
        if completesFifth (count + 1) total then "." else "" := by
      simp [textOfAll, text, dotText]
    rw [writings_succ, textOfAll_append, ih, last, List.range_succ, List.countP_append,
      List.countP_singleton]
    split
    · rw [List.replicate_succ', String.ofList_append]
    · simp

/-- **A run of writes is written as five dots**, or as one for each write if there are less. -/
theorem textOfAll_writings_all (project : String) (total : Nat) :
    textOfAll .dots (writings project total total) =
      String.ofList (List.replicate (min 5 total) '.') := by
  rw [textOfAll_writings, countP_completesFifth_all]

end SourceIndex.Progress
