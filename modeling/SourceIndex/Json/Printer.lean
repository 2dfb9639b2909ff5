import SourceIndex.Decimal.Shortest
import SourceIndex.Json.Basic

/-!
# Writing values

The compact form of a value has no blanks between its parts; the indented form puts every member and
item on a line of its own, two spaces deeper for each level. Strings escape the quote, the reverse
solidus and the control characters only. Numbers that are not whole are marked as such by a point or
an exponent, and are written with the fewest digits that read back.
-/

set_option autoImplicit false

namespace SourceIndex.Json

open SourceIndex.Decimal

/-- A hexadecimal digit in lower case. -/
def hexDigit (value : Nat) : Char :=
  (Nat.toDigits 16 (value % 16)).headD '0'

/-- How a character is written inside a string. -/
def escapeChar (character : Char) : List Char :=
  if character = '"' then ['\\', '"']
  else if character = '\\' then ['\\', '\\']
  else if character = '\n' then ['\\', 'n']
  else if character = '\r' then ['\\', 'r']
  else if character = '\t' then ['\\', 't']
  else if character.toNat = 8 then ['\\', 'b']
  else if character.toNat = 12 then ['\\', 'f']
  else if character.toNat < 32 then
    ['\\', 'u', '0', '0', hexDigit (character.toNat / 16), hexDigit character.toNat]
  else [character]

/-- A string in quotes. -/
def renderString (text : String) : List Char :=
  '"' :: (text.toList.flatMap escapeChar ++ ['"'])

/-- A whole number in decimal. -/
def renderInt (value : Int) : List Char :=
  if value < 0 then '-' :: digitChars value.natAbs else digitChars value.natAbs

/-- A floating-point number: positional from `10 ^ -5` to below `10 ^ 16`, with at least one digit
after the point, and otherwise with a signed exponent. -/
def renderDouble (value : Double) : List Char :=
  let sign := if value.negative then ['-'] else []
  if value.significand = 0 then sign ++ ['0', '.', '0']
  else
    let found := shortest value
    let digits := digitChars found.1
    let count : Int := digits.length
    -- the number of digits before the point
    let point := count + found.2
    if 0 ≤ found.2 && point ≤ 16 then
      sign ++ digits ++ List.replicate found.2.toNat '0' ++ ['.', '0']
    else if 0 < point && point ≤ 16 then
      sign ++ digits.take point.toNat ++ '.' :: digits.drop point.toNat
    else if -5 < point && point ≤ 0 then
      sign ++ ['0', '.'] ++ List.replicate (-point).toNat '0' ++ digits
    else
      let fraction := if digits.length = 1 then [] else '.' :: digits.drop 1
      let mark := if point < 1 then '-' else '+'
      sign ++ digits.take 1 ++ fraction ++ 'e' :: mark :: digitChars (point - 1).natAbs

/-- A number. -/
def renderNumber : Number → List Char
  | .integer value => renderInt value
  | .double value => renderDouble value

mutual

/-- The compact form of a value. -/
def render : Json → List Char
  | .null => ['n', 'u', 'l', 'l']
  | .bool true => ['t', 'r', 'u', 'e']
  | .bool false => ['f', 'a', 'l', 's', 'e']
  | .number value => renderNumber value
  | .string text => renderString text
  | .array items => '[' :: renderItems items
  | .object members => '\x7b' :: renderMembers members

/-- The items of an array from the first one to the closing bracket. -/
def renderItems : List Json → List Char
  | [] => [']']
  | item :: rest => render item ++ renderMoreItems rest

/-- The items of an array after one has been written. -/
def renderMoreItems : List Json → List Char
  | [] => [']']
  | item :: rest => ',' :: (render item ++ renderMoreItems rest)

/-- The members of an object from the first one to the closing brace. -/
def renderMembers : List (String × Json) → List Char
  | [] => ['\x7d']
  | (key, value) :: rest => renderString key ++ ':' :: (render value ++ renderMoreMembers rest)

/-- The members of an object after one has been written. -/
def renderMoreMembers : List (String × Json) → List Char
  | [] => ['\x7d']
  | (key, value) :: rest =>
    ',' :: (renderString key ++ ':' :: (render value ++ renderMoreMembers rest))

end

/-- The compact form of a value as a string. -/
def compact (value : Json) : String :=
  String.ofList value.render

/-- A line break and the indentation of a level. -/
def breakLine (level : Nat) : List Char :=
  '\n' :: List.replicate (2 * level) ' '

mutual

/-- The indented form of a value whose first line stands at `level`. -/
def renderIndented (level : Nat) : Json → List Char
  | .null => ['n', 'u', 'l', 'l']
  | .bool true => ['t', 'r', 'u', 'e']
  | .bool false => ['f', 'a', 'l', 's', 'e']
  | .number value => renderNumber value
  | .string text => renderString text
  | .array [] => ['[', ']']
  | .array (item :: rest) =>
    '[' :: (breakLine (level + 1) ++ renderIndented (level + 1) item ++
      renderIndentedItems level rest)
  | .object [] => ['\x7b', '\x7d']
  | .object ((key, value) :: rest) =>
    '\x7b' :: (breakLine (level + 1) ++ renderString key ++ ':' :: ' ' ::
      (renderIndented (level + 1) value ++ renderIndentedMembers level rest))

/-- The items of an array after one has been written. -/
def renderIndentedItems (level : Nat) : List Json → List Char
  | [] => breakLine level ++ [']']
  | item :: rest =>
    ',' :: (breakLine (level + 1) ++ renderIndented (level + 1) item ++
      renderIndentedItems level rest)

/-- The members of an object after one has been written. -/
def renderIndentedMembers (level : Nat) : List (String × Json) → List Char
  | [] => breakLine level ++ ['\x7d']
  | (key, value) :: rest =>
    ',' :: (breakLine (level + 1) ++ renderString key ++ ':' :: ' ' ::
      (renderIndented (level + 1) value ++ renderIndentedMembers level rest))

end

/-- The indented form of a value as a string. -/
def indented (value : Json) : String :=
  String.ofList (value.renderIndented 0)

end SourceIndex.Json
