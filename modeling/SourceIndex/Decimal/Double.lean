/-!
# Binary floating point, exactly

The finite floating-point numbers of 64 bits as a sign, a whole significand and a power of two, with
the operations that documents need: rounding a quotient of whole numbers to the nearest number,
multiplying and dividing. All of it is arithmetic on natural numbers, so a statement about a number
never depends on the machine's own floating point.

Main statement: rounding a quotient to a whole number is off by at most one half
(`roundQuotient_within_half`).
-/

set_option autoImplicit false

namespace SourceIndex.Decimal

/-- The whole number nearest to a quotient; a quotient halfway between two goes to the even one. -/
def roundQuotient (numerator denominator : Nat) : Nat :=
  let quotient := numerator / denominator
  let twice := 2 * (numerator % denominator)
  if denominator < twice || (denominator == twice && quotient % 2 == 1) then quotient + 1
  else quotient

/-- Rounding a quotient moves it by at most one half. -/
theorem roundQuotient_within_half (numerator denominator : Nat) (positive : 0 < denominator) :
    2 * numerator ≤ 2 * denominator * roundQuotient numerator denominator + denominator ∧
      2 * denominator * roundQuotient numerator denominator ≤ 2 * numerator + denominator := by
  have split := Nat.div_add_mod numerator denominator
  have small := Nat.mod_lt numerator positive
  have double : 2 * denominator * (numerator / denominator) =
      2 * (denominator * (numerator / denominator)) := by
    rw [Nat.mul_assoc]
  unfold roundQuotient
  dsimp only
  split
  next up =>
    simp only [Bool.or_eq_true, decide_eq_true_eq, Bool.and_eq_true, beq_iff_eq] at up
    rw [Nat.mul_add, double]
    omega
  next down =>
    simp only [Bool.or_eq_true, decide_eq_true_eq, Bool.and_eq_true, beq_iff_eq] at down
    rw [double]
    omega

/-- The number `± significand · 2 ^ exponent`. Numbers made by this module have a significand below
`2 ^ 53` and an exponent of at least `-1074`, and reach `2 ^ 52` unless the exponent is the least.
-/
structure Double where
  negative : Bool
  significand : Nat
  exponent : Int
deriving DecidableEq, Repr

namespace Double

/-- Zero, with a sign. -/
def zero (negative : Bool) : Double :=
  ⟨negative, 0, -1074⟩

/-- A quotient divided by a power of two, as a quotient. -/
def shiftRatio (numerator denominator : Nat) (exponent : Int) : Nat × Nat :=
  if 0 ≤ exponent then (numerator, denominator * Nat.pow 2 exponent.toNat)
  else (numerator * Nat.pow 2 (-exponent).toNat, denominator)

/-- The magnitude of a number as a quotient of whole numbers. -/
def ratio (number : Double) : Nat × Nat :=
  if 0 ≤ number.exponent then (number.significand * Nat.pow 2 number.exponent.toNat, 1)
  else (number.significand, Nat.pow 2 (-number.exponent).toNat)

/-- The number nearest to a quotient, ties to the even significand; `none` when the quotient is too
large to round to a finite number. -/
def ofRatio (negative : Bool) (numerator denominator : Nat) : Option Double :=
  if numerator = 0 then some (zero negative)
  else
    let guess : Int := (numerator.log2 : Int) - (denominator.log2 : Int) - 52
    let scaled := shiftRatio numerator denominator guess
    let exponent := max (if scaled.1 / scaled.2 < Nat.pow 2 52 then guess - 1 else guess) (-1074)
    let parts := shiftRatio numerator denominator exponent
    let significand := roundQuotient parts.1 parts.2
    let carried : Nat × Int :=
      if significand = Nat.pow 2 53 then (Nat.pow 2 52, exponent + 1) else (significand, exponent)
    if 971 < carried.2 then none else some ⟨negative, carried.1, carried.2⟩

/-- The number nearest to a natural number. -/
def ofNat? (value : Nat) : Option Double :=
  ofRatio false value 1

/-- The rounded product of two numbers, with the sign of the first. -/
def scaleUp? (number factor : Double) : Option Double :=
  ofRatio number.negative (number.ratio.1 * factor.ratio.1) (number.ratio.2 * factor.ratio.2)

/-- The rounded quotient of two numbers, with the sign of the first. -/
def scaleDown? (number divisor : Double) : Option Double :=
  ofRatio number.negative (number.ratio.1 * divisor.ratio.2) (number.ratio.2 * divisor.ratio.1)

/-- The power of ten of a number, rounded once. -/
def powerOfTen? (exponent : Nat) : Option Double :=
  ofRatio false (Nat.pow 10 exponent) 1

/-- Multiplies by a power of ten. Within 308 places this is one rounded multiplication or division
by the rounded power; a smaller power is reached by first dividing by `10 ^ 308`, as often as
`divisions` allows or until the number has vanished. -/
def timesPowerOfTen? (number : Double) (exponent : Int) : Nat → Option Double
  | 0 => some (zero number.negative)
  | divisions + 1 =>
    if exponent.natAbs ≤ 308 then
      match powerOfTen? exponent.natAbs with
      | none => none
      | some power => if 0 ≤ exponent then number.scaleUp? power else number.scaleDown? power
    else if number.significand = 0 then some number
    else if 0 ≤ exponent then none
    else
      match powerOfTen? 308 with
      | none => none
      | some power =>
        match number.scaleDown? power with
        | none => none
        | some smaller => timesPowerOfTen? smaller (exponent + 308) divisions

/-- The number written as a whole significand and a power of ten: the significand is rounded first
and the power applied after. Two divisions by `10 ^ 308` make any significand of 64 bits vanish. -/
def ofDecimal? (negative : Bool) (significand : Nat) (exponent : Int) : Option Double :=
  match ofRatio negative significand 1 with
  | none => none
  | some number => number.timesPowerOfTen? exponent 4

end Double

end SourceIndex.Decimal
