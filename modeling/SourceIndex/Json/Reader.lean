import SourceIndex.Json.Basic
import SourceIndex.Text.Ascii

/-!
# Reading values

Reads the text of one value by recursive descent. Blanks are the space, the tab, the line feed and
the carriage return. A text may nest arrays and objects 127 deep. Escaped code units must form whole
characters. Whole numbers that fit 64 bits are kept exactly; every other number becomes floating
point, minus zero included, and one too large for that is refused.

The readers take an amount of fuel that falls with every call. A call consumes at least one
character before it makes the next but one, so `parse?` gives twice the length of the text.
-/

set_option autoImplicit false

namespace SourceIndex.Json

open SourceIndex.Decimal (Double)
open SourceIndex.Text (hexValue? isDigit)

/-- A blank between the parts of a value. -/
def isGap (character : Char) : Bool :=
  character == ' ' || character == '\n' || character == '\t' || character == '\r'

/-- Drops the blanks at the start. -/
def skipGaps (text : List Char) : List Char :=
  text.dropWhile isGap

/-! ## Strings -/

/-- The code unit that four hexadecimal digits spell. -/
def codeUnit? (first second third fourth : Char) : Option Nat :=
  match hexValue? first, hexValue? second, hexValue? third, hexValue? fourth with
  | some a, some b, some c, some d => some (a * 4096 + b * 256 + c * 16 + d)
  | _, _, _, _ => none

/-- A code unit that only starts a character. -/
def isLeading (unit : Nat) : Bool :=
  0xD800 ≤ unit && unit ≤ 0xDBFF

/-- A code unit that only ends a character. -/
def isTrailing (unit : Nat) : Bool :=
  0xDC00 ≤ unit && unit ≤ 0xDFFF

/-- The character of a leading and a trailing code unit. -/
def joinUnits (leading trailing : Nat) : Char :=
  Char.ofNat (0x10000 + (leading - 0xD800) * 1024 + (trailing - 0xDC00))

/-- The character that a one-letter escape stands for. -/
def shortEscape? (letter : Char) : Option Char :=
  if letter = '"' || letter = '\\' || letter = '/' then some letter
  else if letter = 'n' then some '\n'
  else if letter = 't' then some '\t'
  else if letter = 'r' then some '\r'
  else if letter = 'b' then some (Char.ofNat 8)
  else if letter = 'f' then some (Char.ofNat 12)
  else none

/-- Puts a character in front of what was read after it. -/
def prepend (character : Char) : Option (List Char × List Char) → Option (List Char × List Char)
  | none => none
  | some (read, rest) => some (character :: read, rest)

/-- Reads a string from after its opening quote: the characters and the text after the closing
quote. -/
def readString : List Char → Option (List Char × List Char)
  | [] => none
  | '"' :: rest => some ([], rest)
  | '\\' :: 'u' :: a :: b :: c :: d :: rest =>
    match codeUnit? a b c d with
    | none => none
    | some unit =>
      if isTrailing unit then none
      else if isLeading unit then
        match rest with
        | '\\' :: 'u' :: e :: f :: g :: h :: more =>
          match codeUnit? e f g h with
          | none => none
          | some second =>
            if isTrailing second then prepend (joinUnits unit second) (readString more) else none
        | _ => none
      else prepend (Char.ofNat unit) (readString rest)
  | '\\' :: letter :: rest =>
    match shortEscape? letter with
    | none => none
    | some character => prepend character (readString rest)
  | character :: rest => if character.toNat < 32 then none else prepend character (readString rest)

/-! ## Numbers -/

/-- The value of a decimal digit. -/
def digitValue (character : Char) : Nat :=
  character.toNat - 48

/-- The natural number that digits spell. -/
def naturalOfDigits (digits : List Char) : Nat :=
  digits.foldl (fun value digit => value * 10 + digitValue digit) 0

/-- Appends digits to a significand while it fits 64 bits: the significand and the digits left. -/
def appendDigits (significand : Nat) : List Char → Nat × List Char
  | [] => (significand, [])
  | digit :: rest =>
    let longer := significand * 10 + digitValue digit
    if longer < Nat.pow 2 64 then appendDigits longer rest else (significand, digit :: rest)

/-- A number in parts, as a text spells it. -/
structure Numeral where
  negative : Bool
  whole : List Char
  /-- The digits after the point, if there is one. -/
  fraction : Option (List Char)
  /-- The sign and the digits of the exponent, if there is one. -/
  exponent : Option (Bool × List Char)

/-- The value of a numeral. Digits that do not fit the significand of 64 bits count only by their
place, or not at all after the point. -/
def Numeral.value? (numeral : Numeral) : Option Number :=
  let whole := appendDigits 0 numeral.whole
  let fraction := numeral.fraction.getD []
  let all := appendDigits whole.1 fraction
  let place : Int := (whole.2.length : Int) - ((fraction.length - all.2.length : Nat) : Int)
  match numeral.fraction, numeral.exponent with
  | none, none =>
    if whole.2.isEmpty then
      if numeral.negative then
        if 0 < whole.1 && whole.1 ≤ Nat.pow 2 63 then some (.integer (-(whole.1 : Int)))
        else (Double.ofRatio true whole.1 1).map .double
      else some (.integer whole.1)
    else (Double.ofDecimal? numeral.negative whole.1 place).map .double
  | _, none => (Double.ofDecimal? numeral.negative all.1 place).map .double
  | _, some (down, digits) =>
    let power := naturalOfDigits digits
    if Nat.pow 2 31 ≤ power then
      if all.1 = 0 || down then some (.double (Double.zero numeral.negative)) else none
    else
      let shift : Int := if down then place - power else place + power
      (Double.ofDecimal? numeral.negative all.1 shift).map .double

/-- Splits off the digits at the start. -/
def spanDigits (text : List Char) : List Char × List Char :=
  (text.takeWhile isDigit, text.dropWhile isDigit)

/-- Reads the exponent of a numeral, if there is one. -/
def readExponent (text : List Char) : Option (Option (Bool × List Char) × List Char) :=
  match text with
  | [] => some (none, [])
  | mark :: rest =>
    if mark = 'e' || mark = 'E' then
      let signed : Bool × List Char :=
        match rest with
        | '+' :: more => (false, more)
        | '-' :: more => (true, more)
        | _ => (false, rest)
      let digits := spanDigits signed.2
      if digits.1.isEmpty then none else some (some (signed.1, digits.1), digits.2)
    else some (none, text)

/-- Reads the parts of a numeral after its sign. -/
def readUnsigned (negative : Bool) (text : List Char) : Option (Numeral × List Char) :=
  let whole := spanDigits text
  let padded := whole.1.length > 1 && whole.1.head? == some '0'
  if whole.1.isEmpty || padded then none
  else
    match whole.2 with
    | '.' :: rest =>
      let fraction := spanDigits rest
      if fraction.1.isEmpty then none
      else
        match readExponent fraction.2 with
        | none => none
        | some (exponent, more) => some (⟨negative, whole.1, some fraction.1, exponent⟩, more)
    | rest =>
      match readExponent rest with
      | none => none
      | some (exponent, more) => some (⟨negative, whole.1, none, exponent⟩, more)

/-- Reads a number. -/
def readNumber (text : List Char) : Option (Number × List Char) :=
  let parts :=
    match text with
    | '-' :: rest => readUnsigned true rest
    | _ => readUnsigned false text
  match parts with
  | none => none
  | some (numeral, rest) => (numeral.value?).map fun value => (value, rest)

/-! ## Values -/

mutual

/-- Reads a value that may nest `depth` levels deep: the value and the text after it. -/
def readValue : Nat → Nat → List Char → Option (Json × List Char)
  | 0, _, _ => none
  | fuel + 1, depth, text =>
    match skipGaps text with
    | 'n' :: 'u' :: 'l' :: 'l' :: rest => some (.null, rest)
    | 't' :: 'r' :: 'u' :: 'e' :: rest => some (.bool true, rest)
    | 'f' :: 'a' :: 'l' :: 's' :: 'e' :: rest => some (.bool false, rest)
    | '"' :: rest =>
      match readString rest with
      | none => none
      | some (read, more) => some (.string (String.ofList read), more)
    | '[' :: rest =>
      match depth with
      | 0 => none
      | inner + 1 =>
        match skipGaps rest with
        | ']' :: more => some (.array [], more)
        | start =>
          match readItems fuel inner start with
          | none => none
          | some (items, more) => some (.array items, more)
    | '\x7b' :: rest =>
      match depth with
      | 0 => none
      | inner + 1 =>
        match skipGaps rest with
        | '\x7d' :: more => some (.object [], more)
        | start =>
          match readMembers fuel inner start with
          | none => none
          | some (members, more) => some (ofList members, more)
    | start =>
      match readNumber start with
      | none => none
      | some (value, more) => some (.number value, more)

/-- Reads one item or more up to the closing bracket. -/
def readItems : Nat → Nat → List Char → Option (List Json × List Char)
  | 0, _, _ => none
  | fuel + 1, depth, text =>
    match readValue fuel depth text with
    | none => none
    | some (item, rest) =>
      match skipGaps rest with
      | ']' :: more => some ([item], more)
      | ',' :: more =>
        match readItems fuel depth more with
        | none => none
        | some (items, after) => some (item :: items, after)
      | _ => none

/-- Reads one member or more up to the closing brace. -/
def readMembers : Nat → Nat → List Char → Option (List (String × Json) × List Char)
  | 0, _, _ => none
  | fuel + 1, depth, text =>
    match skipGaps text with
    | '"' :: rest =>
      match readString rest with
      | none => none
      | some (key, afterKey) =>
        match skipGaps afterKey with
        | ':' :: start =>
          match readValue fuel depth start with
          | none => none
          | some (value, afterValue) =>
            match skipGaps afterValue with
            | '\x7d' :: more => some ([(String.ofList key, value)], more)
            | ',' :: more =>
              match readMembers fuel depth more with
              | none => none
              | some (members, after) => some ((String.ofList key, value) :: members, after)
            | _ => none
        | _ => none
    | _ => none

end

/-- Levels of nesting that a text may have. -/
def depthLimit : Nat := 127

/-- The value that a whole text spells, if it is well formed. -/
def parse? (text : String) : Option Json :=
  let characters := text.toList
  match readValue (2 * characters.length + 2) depthLimit characters with
  | none => none
  | some (value, rest) => if (skipGaps rest).isEmpty then some value else none

/-- The members that a whole text spells, if it spells an object. -/
def parseObject? (text : String) : Option Members :=
  match parse? text with
  | some (.object members) => some members
  | _ => none

end SourceIndex.Json
