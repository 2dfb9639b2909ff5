import SourceIndex.Host.Domain.Table
import SourceIndex.Text.Canonical
import SourceIndex.Text.Printable

/-!
# The characters of domain names

A name is the same in upper and lower case and in every compatible spelling of its characters, so
characters are replaced: letters by their lower case, other forms of letters and digits by the plain
ones. Some characters leave no trace, and some cannot stand in a name.

A character also has a direction that it is written in and may be joined to its neighbours.
-/

set_option autoImplicit false

namespace SourceIndex.Host.Domain

/-- A code point lies in one of some ranges, whose ends belong to them. -/
def isWithin (code : Nat) (ranges : List (Nat × Nat)) : Bool :=
  ranges.any fun range => range.1 ≤ code && code ≤ range.2

/-- The characters that leave no trace in a name. -/
def traceless : List (Nat × Nat) :=
  [(0xAD, 0xAD), (0x34F, 0x34F), (0x115F, 0x1160), (0x17B4, 0x17B5), (0x180B, 0x180F),
    (0x200B, 0x200B), (0x2060, 0x2064), (0x206A, 0x206F), (0x3164, 0x3164), (0xFE00, 0xFE0F),
    (0xFEFF, 0xFEFF), (0xFFA0, 0xFFA0), (0x1BCA0, 0x1BCA3), (0x1D173, 0x1D17A),
    (0xE0100, 0xE01EF)]

/-- The characters that keep others apart or join them. -/
def nonJoiner : Char := Char.ofNat 0x200C

@[inherit_doc nonJoiner]
def joiner : Char := Char.ofNat 0x200D

/-- The single character that replaces a character. -/
def replacement? (character : Char) : Option Char :=
  (replacements.find? fun block =>
    block.1 ≤ character.toNat && character.toNat < block.1 + block.2.length).bind fun block =>
      block.2.toList[character.toNat - block.1]?

/-- The characters that replace a character. -/
def expansion? (character : Char) : Option (List Char) :=
  expansions.findSome? fun block =>
    if block.1 ≤ character.toNat then
      (block.2.toList.splitOn ' ')[character.toNat - block.1]?
    else none

/-- What stands for a character in a name; nothing if the character cannot stand in one. -/
def fold? (character : Char) : Option (List Char) :=
  let code := character.toNat
  if Text.isAscii character then some [Text.lower character]
  else if isWithin code traceless then some []
  else
    match replacement? character, expansion? character with
    | some '/', _ => none
    | some other, _ => some [other]
    | none, some several => some several
    | none, none =>
      if Text.isHidden character && character != nonJoiner && character != joiner then none
      else some [character]

/-- The direction that characters are written in. -/
inductive Direction where
  | leftToRight
  /-- A mark that takes up space. -/
  | spacingMark
  /-- A mark that takes up none, written like what it stands on. -/
  | mark
  | rightToLeft
  /-- A digit in text that is written from right to left. -/
  | rightToLeftDigit
  | digit
  /-- Written like what is around it. -/
  | neutral
  /-- Separates texts. -/
  | separator
deriving DecidableEq, Repr

/-- The directions by their numbers. -/
def Direction.numbered : Nat → Direction
  | 0 => .leftToRight
  | 1 => .spacingMark
  | 2 => .mark
  | 3 => .rightToLeft
  | 4 => .rightToLeftDigit
  | 5 => .digit
  | 6 => .neutral
  | _ => .separator

/-- The runs of the directions. -/
def directions : List (Nat × Nat) :=
  Text.readRuns directionRuns

/-- The direction of a character. -/
def direction (character : Char) : Direction :=
  .numbered (Text.valueIn character.toNat directions)

/-- The runs of the kinds of joining. -/
def joinings : List (Nat × Nat) :=
  Text.readRuns joiningRuns

/-- A character is joined to the one after it. -/
def joinsAfter (character : Char) : Bool :=
  let kind := Text.valueIn character.toNat joinings
  kind == 1 || kind == 3

/-- A character is joined to the one before it. -/
def joinsBefore (character : Char) : Bool :=
  let kind := Text.valueIn character.toNat joinings
  kind == 2 || kind == 3

/-- The characters on both sides of a character are joined past it. -/
def isJoinedPast (character : Char) : Bool :=
  Text.valueIn character.toNat joinings == 4

end SourceIndex.Host.Domain
