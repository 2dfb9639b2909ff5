import SourceIndex.Text.Ascii

/-!
# Numbers in texts

Reads the decimal text of a number that fits 64 bits. One plus sign may precede the digits, of which
there must be at least one.

Properties of characters are data of this kind. A property that a character has or lacks is a list
of the lengths of the runs of code points without and with it in turn, starting at zero with a run
without it. A property with more values is a list of runs, each with its value.
-/

set_option autoImplicit false

namespace SourceIndex.Text

/-! ## Decimal numbers -/

/-- The value of digits, each multiplying what came before by ten. -/
def digitsValue? (value : Nat) : List Char → Option Nat
  | [] => some value
  | digit :: rest =>
    if isDigit digit then
      digitsValue? (value * 10 + (digit.toNat - 48)) rest
    else none

/-- The number that a text spells, if it is one below `2 ^ 64`. -/
def natural64? (text : List Char) : Option Nat :=
  let digits :=
    match text with
    | '+' :: rest => rest
    | _ => text
  if digits.isEmpty then none
  else (digitsValue? 0 digits).filter fun value => value < Nat.pow 2 64

/-! ## Runs of code points -/

/-- A code point lies in a run with the property; `inside` tells whether the first run has it. -/
def inRuns (code : Nat) (inside : Bool) : List Nat → Bool
  | [] => false
  | run :: rest => if code < run then inside else inRuns (code - run) (!inside) rest

/-- The value of a code point, and zero beyond the last run. -/
def valueIn (code : Nat) : List (Nat × Nat) → Nat
  | [] => 0
  | (run, value) :: rest => if code < run then value else valueIn (code - run) rest

/-- Every second number of a list is the value of the run whose length stands before it. -/
def pairUp : List Nat → List (Nat × Nat)
  | run :: value :: rest => (run, value) :: pairUp rest
  | _ => []

/-- Reads runs from lines of numbers with blanks between them. -/
def readRuns (lines : List String) : List (Nat × Nat) :=
  pairUp (lines.flatMap fun line => (line.toList.splitOn ' ').filterMap (digitsValue? 0))

end SourceIndex.Text
