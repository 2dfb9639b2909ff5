import SourceIndex.Text.Ascii
import SourceIndex.Text.Lines

/-!
# Punycode

Labels of domain names are written in ASCII. A label with other characters is written as its ASCII
characters, in their order, and the places of the others: for each the number of steps from the one
before it, where a step goes to the next place of the label or, after the last place, to the next
code point. Small numbers have few digits, and what counts as small adapts to the numbers written so
far.

Main statement: a digit that was written is read back (`digitValue?_digit`).
-/

set_option autoImplicit false

namespace SourceIndex.Host.Punycode

/-- The digit with a value below 36. -/
def digit (value : Nat) : Char :=
  if value < 26 then Char.ofNat (97 + value) else Char.ofNat (22 + value)

/-- The value of a digit. -/
def digitValue? (character : Char) : Option Nat :=
  let code := character.toNat
  if 97 ≤ code && code ≤ 122 then some (code - 97)
  else if 65 ≤ code && code ≤ 90 then some (code - 65)
  else if 48 ≤ code && code ≤ 57 then some (code - 22)
  else none

/-- A digit that was written is read back. -/
theorem digitValue?_digit {value : Nat} (small : value < 36) :
    digitValue? (digit value) = some value := by
  have all : ∀ other ∈ List.range 36, digitValue? (digit other) = some other := by decide
  exact all value (List.mem_range.2 small)

/-- The least value of a digit that another one follows, at the place `place` of a number. -/
def threshold (place bias : Nat) : Nat :=
  max 1 (min 26 (36 * (place + 1) - bias))

/-- A threshold lies from 1 to 26. -/
theorem threshold_bounds (place bias : Nat) :
    1 ≤ threshold place bias ∧ threshold place bias ≤ 26 := by
  unfold threshold
  omega

/-- Divides by 35 until the quotient is at most 455; the number of divisions and the quotient. -/
def scale (value : Nat) : Nat × Nat :=
  if 455 < value then
    let scaled := scale (value / 35)
    (scaled.1 + 1, scaled.2)
  else (0, value)
termination_by value
decreasing_by exact Nat.div_lt_self (by omega) (by omega)

/-- The bias after a number was written and the label has `count` characters. -/
def adapt (number count : Nat) (isFirst : Bool) : Nat :=
  let damped := if isFirst then number / 700 else number / 2
  let scaled := scale (damped + damped / count)
  36 * scaled.1 + 36 * scaled.2 / (scaled.2 + 38)

/-! ## Writing -/

/-- The digits of a number from a place on. -/
def writeNumber (bias place number : Nat) : List Char :=
  let least := threshold place bias
  if number < least then [digit number]
  else
    digit (least + (number - least) % (36 - least)) ::
      writeNumber bias (place + 1) ((number - least) / (36 - least))
termination_by number
decreasing_by
  have bounds := threshold_bounds place bias
  exact Nat.lt_of_le_of_lt (Nat.div_le_self _ _) (by omega)

/-- What was written so far. -/
structure Writing where
  output : List Char
  /-- The steps since the last place that was written. -/
  steps : Nat
  bias : Nat
  /-- How many characters of the label were written. -/
  count : Nat

/-- Goes past a character of the label on the way through the places of a code point. -/
def Writing.pass (basic code : Nat) (writing : Writing) (character : Char) : Writing :=
  if character.toNat < code then { writing with steps := writing.steps + 1 }
  else if character.toNat = code then
    { output := writing.output ++ writeNumber writing.bias 0 writing.steps
      steps := 0
      bias := adapt writing.steps (writing.count + 1) (writing.count == basic)
      count := writing.count + 1 }
  else writing

/-- Writes the places of code points that are given in order, from the code point `reached` on. -/
def writeCodes (label : List Char) (basic reached : Nat) (writing : Writing) :
    List Nat → List Char
  | [] => writing.output
  | code :: rest =>
    let ready := { writing with
      steps := writing.steps + (code - reached) * (writing.count + 1) }
    let passed := label.foldl (Writing.pass basic code) ready
    writeCodes label basic (code + 1) { passed with steps := passed.steps + 1 } rest

/-- A label in ASCII. -/
def encode (label : List Char) : List Char :=
  let basic := label.filter Text.isAscii
  let codes := ((label.map Char.toNat).filter fun code => 128 ≤ code).mergeSort.eraseDups
  let start : Writing := ⟨[], 0, 72, basic.length⟩
  (if basic.isEmpty then [] else basic ++ ['-']) ++ writeCodes label basic.length 128 start codes

/-! ## Reading -/

/-- What was read so far. -/
structure Reading where
  label : List Char
  code : Nat
  /-- The place that was filled last, and where the count of steps starts. -/
  start : Nat
  steps : Nat
  /-- What a one at the next digit's place is worth. -/
  weight : Nat
  place : Nat
  bias : Nat

/-- Fills a place when all digits of a number were read. -/
def Reading.fill? (reading : Reading) (steps : Nat) : Option Reading :=
  let count := reading.label.length + 1
  let code := reading.code + steps / count
  let place := steps % count
  if Nat.isValidChar code then
    some
      { label := reading.label.take place ++ Char.ofNat code :: reading.label.drop place
        code := code
        start := place + 1
        steps := place + 1
        weight := 1
        place := 0
        bias := adapt (steps - reading.start) count (reading.start == 0) }
  else none

/-- Reads digits. -/
def readDigits? (reading : Reading) : List Char → Option (List Char)
  | [] => if reading.place = 0 then some reading.label else none
  | character :: rest =>
    match digitValue? character with
    | none => none
    | some value =>
      let steps := reading.steps + value * reading.weight
      let least := threshold reading.place reading.bias
      if value < least then
        match reading.fill? steps with
        | none => none
        | some filled => readDigits? filled rest
      else
        readDigits?
          { reading with
            steps := steps, weight := reading.weight * (36 - least), place := reading.place + 1 }
          rest

/-- The label that an ASCII text stands for, if it stands for one. -/
def decode? (text : List Char) : Option (List Char) :=
  let digits := Text.afterLast '-' text
  let basic := text.take (text.length - digits.length - 1)
  if text.head? == some '-' && basic.isEmpty then none
  else if basic.all Text.isAscii then
    readDigits? ⟨basic, 128, 0, 0, 1, 0, 72⟩ digits
  else none

end SourceIndex.Host.Punycode
