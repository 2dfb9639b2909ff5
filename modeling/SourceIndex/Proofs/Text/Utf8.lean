import Mathlib.Tactic.SplitIfs
import SourceIndex.Text.Order
import SourceIndex.Text.Utf8

/-!
# The order of bytes

Texts are ordered by their code points, and so are their bytes: of two characters the one with the
greater code point has the greater bytes, whatever follows (`Utf8.encodeChar_lt`), although
characters have different numbers of bytes.

Main statement: one text comes no later than another one exactly if its bytes do not
(`Text.ordered_iff`).
-/

set_option autoImplicit false

namespace SourceIndex

/-- A character with a greater code point has greater bytes, whatever follows. -/
theorem Utf8.encodeChar_lt {first second : Char} (less : first.toNat < second.toNat)
    (rest others : Bytes) :
    String.utf8EncodeChar first ++ rest < String.utf8EncodeChar second ++ others := by
  have bound : second.toNat < 0x110000 := by
    rcases second.valid with low | ⟨-, high⟩
    · exact Nat.lt_trans low (by decide)
    · exact high
  change first.val.toNat < second.val.toNat at less
  change second.val.toNat < _ at bound
  unfold String.utf8EncodeChar
  generalize first.val.toNat = code at less ⊢
  generalize second.val.toNat = other at less bound ⊢
  have digits (value : Nat) :
      value / 4096 = value / 64 / 64 ∧ value / 262144 = value / 64 / 64 / 64 := by omega
  simp only [(digits code).1, (digits code).2, (digits other).1, (digits other).2]
  -- The first byte grows with the number of bytes; for the same number the digits decide.
  split_ifs
  all_goals
    simp only [List.cons_append, List.nil_append, List.cons_lt_cons_iff, UInt8.lt_iff_toNat_lt,
      ← UInt8.toNat_inj, UInt8.toNat_ofNat']
    simp (disch := omega) only [Nat.mod_eq_of_lt]
    omega

/-- Of two texts the one that comes earlier has the lesser bytes. -/
theorem Utf8.encode_lt {left right : List Char} (before : Text.atMost left right = true)
    (other : left ≠ right) : encode left < encode right := by
  induction left generalizing right with
  | nil =>
    obtain ⟨first, rest, rfl⟩ := List.exists_cons_of_ne_nil other.symm
    obtain ⟨byte, bytes, spelled⟩ :=
      List.exists_cons_of_ne_nil (String.utf8EncodeChar_ne_nil (c := first))
    rw [encode, encode, List.flatMap_cons, spelled]
    exact List.nil_lt_cons _ _
  | cons first rest ih =>
    cases right with
    | nil => cases before
    | cons second others =>
      rw [Text.atMost] at before
      rw [encode, encode, List.flatMap_cons, List.flatMap_cons]
      split at before
      · next same =>
        subst same
        exact List.append_left_lt (ih before fun equal => other (congrArg _ equal))
      · next apart =>
        have less : first.toNat < second.toNat :=
          Nat.lt_of_le_of_ne (Nat.le_of_ble_eq_true before) fun same =>
            apart (Char.toNat_inj.1 same)
        exact encodeChar_lt less _ _

/-- **One text comes no later than another one exactly if its bytes do not.** -/
theorem Text.ordered_iff {left right : String} :
    ordered left right = true ↔ Utf8.ofString left ≤ Utf8.ofString right := by
  rw [ordered, Utf8.ofString, Utf8.ofString]
  by_cases same : left.toList = right.toList
  · rw [same]
    exact iff_of_true ((Bool.or_self _).symm.trans (atMost_total _ _)) (List.le_refl _)
  · by_cases before : atMost left.toList right.toList = true
    · exact iff_of_true before (List.le_of_lt (Utf8.encode_lt before same))
    · have after : atMost right.toList left.toList = true :=
        (Bool.or_eq_true_iff.1 (atMost_total _ _)).resolve_left before
      refine iff_of_false before (List.not_le.2 ?_)
      exact Utf8.encode_lt after fun equal => same equal.symm

end SourceIndex
