import SourceIndex.Text.Percent

/-!
# Numeric addresses

The two kinds of addresses that a machine can have in place of a name. The older kind is one number
of 32 bits, written as up to four numbers in decimal, octal or hexadecimal. The newer kind is eight
numbers of 16 bits in hexadecimal, where one run of zeros may be left out.
-/

set_option autoImplicit false

namespace SourceIndex.Host.Url

/-- The value of digits in a base of at most sixteen. -/
def digitsIn? (base : Nat) (digits : List Char) : Option Nat :=
  digits.foldl
    (fun value digit =>
      match value, Text.hexValue? digit with
      | some total, some next => if next < base then some (total * base + next) else none
      | _, _ => none)
    (some 0)

/-- A number in decimal, in octal after `0`, or in hexadecimal after `0x`. -/
def number? (text : List Char) : Option Nat :=
  match text with
  | [] => none
  | '0' :: 'x' :: digits => digitsIn? 16 digits
  | '0' :: 'X' :: digits => digitsIn? 16 digits
  | '0' :: digit :: digits => digitsIn? 8 (digit :: digits)
  | digits => digitsIn? 10 digits

/-! ## Addresses of 32 bits -/

/-- The parts of a text between points, without the empty one after a last point. -/
def partsOf (text : List Char) : List (List Char) :=
  let parts := text.splitOn '.'
  if parts.getLast? == some [] then parts.dropLast else parts

/-- A text can only be a numeric address: its last part is a number. -/
def endsInNumber (text : List Char) : Bool :=
  match (partsOf text).getLast? with
  | none => false
  | some last =>
    (!last.isEmpty && last.all Text.isDigit) ||
      (number? last).isSome

/-- Puts numbers together: each but the last is one byte, and the last one is all other bytes. -/
def joinNumbers? (value : Nat) : Nat → List Nat → Option Nat
  | _, [] => none
  | left, [last] => if last < Nat.pow 256 left then some (value * Nat.pow 256 left + last) else none
  | 0, _ :: _ :: _ => none
  | left + 1, byte :: rest =>
    if byte < 256 then joinNumbers? (value * 256 + byte) left rest else none

/-- The address of 32 bits that a text spells. -/
def address4? (text : List Char) : Option Nat :=
  ((partsOf text).mapM number?).bind fun numbers =>
    if 4 < numbers.length then none else joinNumbers? 0 4 numbers

/-- An address of 32 bits as its four bytes. -/
def write4 (value : Nat) : List Char :=
  ['.'].intercalate
    ([16777216, 65536, 256, 1].map fun unit => (toString (value / unit % 256)).toList)

/-! ## Addresses of eight numbers -/

/-- One of the eight numbers. -/
def piece? (text : List Char) : Option Nat :=
  if text.isEmpty || 4 < text.length then none else digitsIn? 16 text

/-- A byte in decimal, without idle zeros. -/
def byte? (text : List Char) : Option Nat :=
  if text.isEmpty || (text.head? == some '0' && 1 < text.length) then none
  else (digitsIn? 10 text).filter fun value => value < 256

/-- Two of the eight numbers, written as four bytes. -/
def dotted? (text : List Char) : Option (List Nat) :=
  match (text.splitOn '.').mapM byte? with
  | some [first, second, third, fourth] => some [first * 256 + second, third * 256 + fourth]
  | _ => none

/-- The numbers of a list of texts, the last of which may be four bytes. -/
def pieces? : List (List Char) → Option (List Nat)
  | [] => some []
  | [last] =>
    match piece? last with
    | some value => some [value]
    | none => dotted? last
  | text :: rest => (piece? text).bind fun value => (pieces? rest).map (value :: ·)

/-- The parts of a text before and after the first two colons in a row. -/
def splitGap? : List Char → Option (List Char × List Char)
  | ':' :: ':' :: rest => some ([], rest)
  | character :: rest => (splitGap? rest).map fun parts => (character :: parts.1, parts.2)
  | [] => none

/-- The numbers on one side of a gap. -/
def side? (read : List (List Char) → Option (List Nat)) (text : List Char) : Option (List Nat) :=
  if text.isEmpty then some [] else read (text.splitOn ':')

/-- The eight numbers that a text spells. -/
def address6? (text : List Char) : Option (List Nat) :=
  match splitGap? text with
  | none => (pieces? (text.splitOn ':')).filter fun pieces => pieces.length = 8
  | some (before, after) =>
    match side? (fun texts => texts.mapM piece?) before, side? pieces? after with
    | some left, some right =>
      if left.length + right.length < 8 then
        some (left ++ List.replicate (8 - left.length - right.length) 0 ++ right)
      else none
    | _, _ => none

/-- How many zeros there are from a place on. -/
def zerosFrom (pieces : List Nat) (start : Nat) : Nat :=
  ((pieces.drop start).takeWhile (· == 0)).length

/-- Where the longest run of zeros starts, the first one of several. -/
def gapStart (pieces : List Nat) : Nat :=
  (List.range pieces.length).foldl
    (fun best start => if zerosFrom pieces best < zerosFrom pieces start then start else best) 0

/-- Numbers in hexadecimal with colons between them. -/
def writePieces (pieces : List Nat) : List Char :=
  [':'].intercalate (pieces.map fun piece => Nat.toDigits 16 piece)

/-- Eight numbers in hexadecimal; the longest run of zeros is left out, unless it is a single one.
-/
def write6 (pieces : List Nat) : List Char :=
  let start := gapStart pieces
  let length := zerosFrom pieces start
  if 1 < length then
    writePieces (pieces.take start) ++ [':', ':'] ++ writePieces (pieces.drop (start + length))
  else writePieces pieces

end SourceIndex.Host.Url
