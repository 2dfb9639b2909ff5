/-!
# The order of texts

Identifiers and object keys are listed in the order of their code points, which is also the order of
their UTF-8 bytes. The order is a Boolean function on lists of characters, so that a sort by it can
be evaluated and reasoned about without any order class.

Main statements: the order is total (`atMost_total`), transitive (`atMost_trans`) and
antisymmetric (`eq_of_atMost`).
-/

set_option autoImplicit false

namespace SourceIndex.Text

/-- The first text comes no later than the second, code point by code point. -/
def atMost : List Char → List Char → Bool
  | [], _ => true
  | _ :: _, [] => false
  | first :: rest, other :: others =>
    if first = other then atMost rest others else Nat.ble first.toNat other.toNat

/-- The order of texts on strings. -/
def ordered (left right : String) : Bool :=
  atMost left.toList right.toList

/-- Sorts strings by code points; equal strings keep their order. -/
def sorted (texts : List String) : List String :=
  texts.mergeSort ordered

/-- Two texts that are each no later than the other are equal. -/
theorem eq_of_atMost {left right : List Char} (forward : atMost left right = true)
    (backward : atMost right left = true) : left = right := by
  induction left generalizing right with
  | nil =>
    cases right with
    | nil => rfl
    | cons => simp [atMost] at backward
  | cons first rest ih =>
    cases right with
    | nil => simp [atMost] at forward
    | cons other others =>
      by_cases same : first = other
      · subst same
        simp only [atMost, if_true] at forward backward
        rw [ih forward backward]
      · have reversed : other ≠ first := fun equal => same equal.symm
        simp only [atMost, if_neg same, if_neg reversed, Nat.ble_eq] at forward backward
        exact absurd (Char.toNat_inj.1 (Nat.le_antisymm forward backward)) same

/-- Any two texts are comparable. -/
theorem atMost_total (left right : List Char) :
    (atMost left right || atMost right left) = true := by
  induction left generalizing right with
  | nil => simp [atMost]
  | cons first rest ih =>
    cases right with
    | nil => simp [atMost]
    | cons other others =>
      by_cases same : first = other
      · subst same
        simpa only [atMost, if_true] using ih others
      · have reversed : other ≠ first := fun equal => same equal.symm
        simp only [atMost, if_neg same, if_neg reversed, Bool.or_eq_true, Nat.ble_eq]
        omega

/-- The order of texts is transitive. -/
theorem atMost_trans {left middle right : List Char} (first : atMost left middle = true)
    (second : atMost middle right = true) : atMost left right = true := by
  induction left generalizing middle right with
  | nil => simp [atMost]
  | cons head rest ih =>
    cases middle with
    | nil => simp [atMost] at first
    | cons center others =>
      cases right with
      | nil => simp [atMost] at second
      | cons last remaining =>
        by_cases start : head = center
        · subst start
          by_cases finish : head = last
          · subst finish
            simp only [atMost, if_true] at first second ⊢
            exact ih first second
          · simpa only [atMost, if_neg finish] using second
        · by_cases finish : center = last
          · subst finish
            simpa only [atMost, if_neg start] using first
          · simp only [atMost, if_neg start, if_neg finish, Nat.ble_eq] at first second
            have apart : head ≠ last := by
              intro equal
              subst equal
              exact start (Char.toNat_inj.1 (Nat.le_antisymm first second))
            simp only [atMost, if_neg apart, Nat.ble_eq]
            omega

end SourceIndex.Text
