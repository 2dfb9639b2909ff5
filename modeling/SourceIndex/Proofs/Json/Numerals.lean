import Mathlib.Algebra.Group.Int.Defs
import Mathlib.Algebra.Group.Nat.Defs
import Mathlib.Data.List.Basic
import SourceIndex.Json.Printer
import SourceIndex.Json.Reader

/-!
# Whole numbers in texts

A numeral is read as a whole number if it has neither a fraction nor an exponent and its value fits
64 bits, with a sign or without. Minus zero is the only numeral in these bounds that is read as
another kind of number (`Numeral.value?_eq_integer_iff`).

A whole number in these bounds is written as such a numeral, so it is read back, whatever follows
that does not go on with the numeral (`readNumber_renderInt`).
-/

set_option autoImplicit false

namespace SourceIndex

open SourceIndex.Decimal (digitChars)
open SourceIndex.Text (isDigit)

/-! ## Numbers that are read -/

namespace Number

/-- A whole number that fits 64 bits, with a sign or without. -/
def IsWhole : Number → Prop
  | .integer value => -(2 ^ 63 : Int) ≤ value ∧ value < (2 ^ 64 : Int)
  | .double _ => False

instance : DecidablePred IsWhole
  | .integer value =>
    inferInstanceAs (Decidable (-(2 ^ 63 : Int) ≤ value ∧ value < (2 ^ 64 : Int)))
  | .double _ => inferInstanceAs (Decidable False)

end Number

namespace Json

theorem naturalOfDigits_cons_le (value : Nat) (digits : List Char) :
    value ≤ digits.foldl (fun value digit => value * 10 + digitValue digit) value := by
  induction digits generalizing value with
  | nil => exact Nat.le_refl value
  | cons digit rest ih => exact Nat.le_trans (by omega) (ih (value * 10 + digitValue digit))

/-- All digits are appended if the number they spell fits. -/
theorem appendDigits_eq_iff {significand value : Nat} {digits : List Char} :
    appendDigits significand digits = (value, []) ↔
      value = digits.foldl (fun value digit => value * 10 + digitValue digit) significand ∧
        (digits ≠ [] → value < 2 ^ 64) := by
  induction digits generalizing significand with
  | nil => simp [appendDigits, eq_comm]
  | cons digit rest ih =>
    rw [appendDigits, List.foldl_cons]
    split
    · next fits =>
      rw [ih]
      refine and_congr_right fun spelled => ⟨fun small _ => ?_, fun small _ => small (by simp)⟩
      cases rest with
      | nil =>
        rw [spelled]
        exact fits
      | cons => exact small (by simp)
    · next large =>
      constructor
      · intro cut
        cases cut
      · rintro ⟨spelled, small⟩
        have below := small (by simp)
        have least := naturalOfDigits_cons_le (significand * 10 + digitValue digit) rest
        exact absurd (Nat.lt_of_le_of_lt (spelled ▸ least) below) large

/-- A numeral is whole if it has neither a fraction nor an exponent and its value fits 64 bits;
minus zero is not. -/
theorem Numeral.value?_eq_integer_iff {numeral : Numeral} {value : Int} :
    numeral.value? = some (.integer value) ↔
      numeral.fraction = none ∧ numeral.exponent = none ∧
        (numeral.negative = false ∧ naturalOfDigits numeral.whole < 2 ^ 64 ∧
            value = naturalOfDigits numeral.whole ∨
          numeral.negative = true ∧ 0 < naturalOfDigits numeral.whole ∧
            naturalOfDigits numeral.whole ≤ 2 ^ 63 ∧
              value = -(naturalOfDigits numeral.whole : Int)) := by
  obtain ⟨negative, whole, fraction, exponent⟩ := numeral
  have rounded : ∀ outcome : Option Decimal.Double,
      outcome.map Number.double ≠ some (.integer value) := by
    intro outcome equal
    obtain ⟨_, -, wrong⟩ := Option.map_eq_some_iff.1 equal
    cases wrong
  cases exponent with
  | some marked =>
    refine iff_of_false ?_ (by simp)
    obtain ⟨down, digits⟩ := marked
    simp only [value?]
    split
    · split
      · intro wrong
        cases wrong
      · intro wrong
        cases wrong
    · exact rounded _
  | none =>
    cases fraction with
    | some digits => exact iff_of_false (rounded _) (by simp)
    | none =>
      simp only [value?, true_and]
      rcases appended : appendDigits 0 whole with ⟨significand, left⟩
      cases left with
      | cons digit rest =>
        -- The digits do not fit, so the value is out of bounds.
        have large : ¬naturalOfDigits whole < 2 ^ 64 := fun small => by
          have all : appendDigits 0 whole = (naturalOfDigits whole, []) :=
            appendDigits_eq_iff.2 ⟨rfl, fun _ => small⟩
          rw [appended] at all
          cases all
        refine iff_of_false (rounded _) ?_
        rintro (⟨-, small, -⟩ | ⟨-, -, small, -⟩)
        · exact large small
        · omega
      | nil =>
        obtain ⟨spelled, small⟩ := appendDigits_eq_iff.1 appended
        change significand = naturalOfDigits whole at spelled
        have below : naturalOfDigits whole < 2 ^ 64 := by
          rw [← spelled]
          cases whole with
          | nil => rw [spelled]; decide
          | cons => exact small (by simp)
        subst spelled
        cases negative with
        | false =>
          constructor
          · intro equal
            cases equal
            exact .inl ⟨rfl, below, rfl⟩
          · rintro (⟨-, -, rfl⟩ | ⟨wrong, -⟩)
            · rfl
            · cases wrong
        | true =>
          have powers : Nat.pow 2 63 = 2 ^ 63 := rfl
          simp only [List.isEmpty_nil, if_true, Bool.and_eq_true, decide_eq_true_eq, powers]
          split
          · next bounds =>
            constructor
            · intro equal
              cases equal
              exact .inr ⟨trivial, bounds.1, bounds.2, rfl⟩
            · rintro (⟨wrong, -⟩ | ⟨-, -, -, rfl⟩)
              · cases wrong
              · rfl
          · next outside =>
            refine iff_of_false (rounded _) ?_
            rintro (⟨wrong, -⟩ | ⟨-, positive, fits, -⟩)
            · cases wrong
            · exact outside ⟨positive, fits⟩

/-! ## Numbers that are written -/

theorem isDigit_of_mem_digitChars {value : Nat} {digit : Char} (member : digit ∈ digitChars value) :
    isDigit digit = true := by
  have decimal := Nat.isDigit_of_mem_toDigits (by decide) (by decide) member
  simp only [Char.isDigit, Bool.and_eq_true, decide_eq_true_eq, ge_iff_le, UInt32.le_iff_toNat_le]
    at decimal
  exact Bool.and_eq_true_iff.2 ⟨decide_eq_true decimal.1, decide_eq_true decimal.2⟩

theorem naturalOfDigits_digitChars (value : Nat) : naturalOfDigits (digitChars value) = value := by
  have read : Nat.ofDigitChars 10 (digitChars value) 0 = value :=
    Nat.ofDigitChars_toDigits (by decide) (by decide)
  refine Eq.trans ?_ read
  refine congrArg (fun append => List.foldl append 0 (digitChars value)) ?_
  funext sofar digit
  exact congrArg (· + _) (Nat.mul_comm _ _)

/-- Only zero is written with a zero in front. -/
theorem head?_digitChars {value : Nat} (zero : (digitChars value).head? = some '0') :
    value = 0 := by
  induction value using Nat.strongRecOn with
  | ind value ih =>
    by_cases small : value < 10
    · have each : ∀ digit < 10, (digitChars digit).head? = some '0' → digit = 0 := by decide
      exact each value small zero
    · have split : digitChars value = digitChars (value / 10) ++ [Nat.digitChar (value % 10)] :=
        Nat.toDigits_of_base_le (by decide) (by omega)
      obtain ⟨first, more, digits⟩ : ∃ first more, digitChars (value / 10) = first :: more :=
        List.exists_cons_of_ne_nil Nat.toDigits_ne_nil
      have small : value / 10 = 0 := ih (value / 10) (by omega) <| by
        rw [split, digits] at zero
        rw [digits]
        exact zero
      omega

/-- What follows does not go on with a numeral: it is nothing, or the next part of an array or an
object. -/
def EndsValue (rest : List Char) : Prop :=
  ∀ character ∈ rest.head?, character = ',' ∨ character = ']' ∨ character = '\x7d'

theorem spanDigits_digitChars {value : Nat} {rest : List Char} (ends : EndsValue rest) :
    spanDigits (digitChars value ++ rest) = (digitChars value, rest) := by
  have digits : ∀ digit ∈ digitChars value, isDigit digit = true :=
    fun digit => isDigit_of_mem_digitChars
  have stops : rest.takeWhile isDigit = [] ∧ rest.dropWhile isDigit = rest := by
    cases rest with
    | nil => exact ⟨rfl, rfl⟩
    | cons character more =>
      have other : isDigit character = false := by
        rcases ends character rfl with rfl | rfl | rfl <;> decide
      simp [other]
  rw [spanDigits, List.takeWhile_append_of_pos digits, List.dropWhile_append_of_pos digits,
    stops.1, stops.2, List.append_nil]

theorem readUnsigned_digitChars {negative : Bool} {value : Nat} {rest : List Char}
    (ends : EndsValue rest) :
    readUnsigned negative (digitChars value ++ rest) =
      some (⟨negative, digitChars value, none, none⟩, rest) := by
  have nonempty : (digitChars value).isEmpty = false :=
    List.isEmpty_eq_false_iff.2 Nat.toDigits_ne_nil
  have unpadded :
      ((digitChars value).length > 1 && (digitChars value).head? == some '0') = false := by
    by_contra padded
    rw [Bool.not_eq_false, Bool.and_eq_true, beq_iff_eq, decide_eq_true_eq] at padded
    rw [head?_digitChars padded.2] at padded
    exact absurd padded.1 (by decide)
  have whole : readExponent rest = some (none, rest) := by
    cases rest with
    | nil => rfl
    | cons character more => rcases ends character rfl with rfl | rfl | rfl <;> rfl
  rw [readUnsigned, spanDigits_digitChars ends]
  simp only [unpadded, nonempty, Bool.or_self, Bool.false_eq_true, if_false]
  split
  · next point => rcases ends '.' rfl with wrong | wrong | wrong <;> exact absurd wrong (by decide)
  · rw [whole]

/-- **A whole number that fits 64 bits is read back.** -/
theorem readNumber_renderInt {value : Int} {rest : List Char}
    (fits : (Number.integer value).IsWhole) (ends : EndsValue rest) :
    readNumber (renderInt value ++ rest) = some (.integer value, rest) := by
  obtain ⟨least, most⟩ := fits
  by_cases below : value < 0
  · have valued : Numeral.value? ⟨true, digitChars value.natAbs, none, none⟩ =
        some (.integer value) := by
      refine Numeral.value?_eq_integer_iff.2 ⟨rfl, rfl, .inr ⟨rfl, ?_⟩⟩
      rw [naturalOfDigits_digitChars]
      omega
    rw [renderInt, if_pos below, List.cons_append, readNumber]
    simp only [readUnsigned_digitChars ends, valued, Option.map_some]
  · have valued : Numeral.value? ⟨false, digitChars value.natAbs, none, none⟩ =
        some (.integer value) := by
      refine Numeral.value?_eq_integer_iff.2 ⟨rfl, rfl, .inl ⟨rfl, ?_⟩⟩
      rw [naturalOfDigits_digitChars]
      omega
    obtain ⟨first, more, digits⟩ : ∃ first more, digitChars value.natAbs = first :: more :=
      List.exists_cons_of_ne_nil Nat.toDigits_ne_nil
    have unsigned : first ≠ '-' := by
      rintro rfl
      have digit : '-' ∈ digitChars value.natAbs := digits ▸ List.mem_cons_self
      exact absurd (isDigit_of_mem_digitChars digit) (by decide)
    have read : readUnsigned false (digitChars value.natAbs ++ rest) = _ :=
      readUnsigned_digitChars ends
    rw [digits] at valued
    rw [digits, List.cons_append] at read
    rw [renderInt, if_neg below, digits, List.cons_append, readNumber]
    · simp only [read, valued, Option.map_some]
    · intro _ signed
      exact unsigned (List.cons.inj signed).1

end Json

end SourceIndex
