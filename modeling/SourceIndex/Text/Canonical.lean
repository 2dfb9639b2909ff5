import SourceIndex.Text.Canonical.Table
import SourceIndex.Text.Numeral

/-!
# Canonical equivalence

One text can be spelled in several ways: with a letter and a mark, or with one character that stands
for both; with two marks in either order. The normal form of a text takes every character apart,
brings the marks after each letter into order and then joins what can be joined.

Main statement: bringing marks into order moves characters and neither adds nor removes any
(`order_perm`).
-/

set_option autoImplicit false

namespace SourceIndex.Text.Canonical

/-- Two characters and the one that stands for both. -/
structure Union where
  first : Char
  second : Char
  whole : Char

/-- The unions of a block, whose characters are the first ones, each followed by its union. -/
def unionsOf (second : Char) : List Char → List Union
  | first :: whole :: rest => ⟨first, second, whole⟩ :: unionsOf second rest
  | _ => []

/-- The unions of a table. -/
def unionsIn (table : List (Nat × String)) : List Union :=
  table.flatMap fun block => unionsOf (Char.ofNat block.1) block.2.toList

/-- What characters join into. -/
def joinings : List Union :=
  unionsIn joining

/-- All characters that stand for two. -/
def unions : List Union :=
  joinings ++ unionsIn splitting

/-- The runs of the combining classes. -/
def classRuns : List (Nat × Nat) :=
  readRuns orderRuns

/-- The combining class of a character: zero for a letter, and for a mark the number that orders it
among the marks after a letter. -/
def combiningClass (character : Char) : Nat :=
  if character.toNat < 768 then 0 else valueIn character.toNat classRuns

/-! ## Syllables

The syllables of one script are made of two or three letters by a rule. -/

/-- The letters that a syllable stands for. -/
def syllableParts? (character : Char) : Option (List Char) :=
  let code := character.toNat
  if 0xAC00 ≤ code && code ≤ 0xD7A3 then
    let place := code - 0xAC00
    let start := Char.ofNat (0x1100 + place / 588)
    let vowel := Char.ofNat (0x1161 + place % 588 / 28)
    if place % 28 = 0 then some [start, vowel]
    else some [start, vowel, Char.ofNat (0x11A7 + place % 28)]
  else none

/-- The syllable that two characters join into: a start and a vowel, or a syllable without an end
and an end. -/
def syllable? (first second : Char) : Option Char :=
  let left := first.toNat
  let right := second.toNat
  if 0x1100 ≤ left && left ≤ 0x1112 && 0x1161 ≤ right && right ≤ 0x1175 then
    some (Char.ofNat (0xAC00 + ((left - 0x1100) * 21 + (right - 0x1161)) * 28))
  else if 0xAC00 ≤ left && left ≤ 0xD7A3 && (left - 0xAC00) % 28 = 0 && 0x11A8 ≤ right &&
      right ≤ 0x11C2 then
    some (Char.ofNat (left + (right - 0x11A7)))
  else none

/-! ## Taking apart -/

/-- The single character that a character stands for. -/
def standingFor? (character : Char) : Option Char :=
  (standing.find? fun block =>
    block.1 ≤ character.toNat && character.toNat < block.1 + block.2.length).bind fun block =>
      block.2.toList[character.toNat - block.1]?

/-- Takes a character apart, as often as `depth` tells. -/
def partsWithin : Nat → Char → List Char
  | 0, character => [character]
  | depth + 1, character =>
    match standingFor? character with
    | some other => partsWithin depth other
    | none =>
      match unions.find? fun union => union.whole == character with
      | some union => partsWithin depth union.first ++ partsWithin depth union.second
      | none => [character]

/-- The characters that a character stands for. None stands for characters that can be taken apart
more than four times. -/
def parts (character : Char) : List Char :=
  if character.toNat < 192 then [character]
  else
    match syllableParts? character with
    | some letters => letters
    | none => partsWithin 5 character

/-! ## Order -/

/-- Puts a character in front of a text in order: a mark goes behind the marks of lower classes. -/
def insert (character : Char) : List Char → List Char
  | [] => [character]
  | next :: rest =>
    if combiningClass next ≠ 0 ∧ combiningClass next < combiningClass character then
      next :: insert character rest
    else character :: next :: rest

/-- Brings the marks after each letter into the order of their classes. -/
def order (text : List Char) : List Char :=
  text.foldr insert []

/-- Putting a character into a text only adds it. -/
theorem insert_perm (character : Char) (text : List Char) :
    (insert character text).Perm (character :: text) := by
  induction text with
  | nil => exact List.Perm.refl _
  | cons next rest ih =>
    unfold insert
    split
    · exact (ih.cons next).trans (List.Perm.swap character next rest)
    · exact List.Perm.refl _

/-- Bringing marks into order neither adds nor removes a character. -/
theorem order_perm (text : List Char) : (order text).Perm text := by
  induction text with
  | nil => exact List.Perm.refl _
  | cons character rest ih => exact (insert_perm character (order rest)).trans (ih.cons character)

/-! ## Joining -/

/-- What two characters join into. -/
def join? (first second : Char) : Option Char :=
  match syllable? first second with
  | some whole => some whole
  | none =>
    (joinings.find? fun union => union.first == first && union.second == second).map Union.whole

/-- Joins the characters after a letter with it. Between them stand characters that could not be
joined, `kept` in reverse; one of these blocks what is of the same or a lower class. -/
def joinFrom (letter : Char) (kept : List Char) : List Char → List Char
  | [] => letter :: kept.reverse
  | character :: rest =>
    let isBlocked :=
      match kept with
      | [] => false
      | last :: _ => combiningClass character ≤ combiningClass last
    match if isBlocked then none else join? letter character with
    | some whole => joinFrom whole kept rest
    | none =>
      if combiningClass character = 0 then letter :: (kept.reverse ++ joinFrom character [] rest)
      else joinFrom letter (character :: kept) rest

/-- Joins the characters of a text as far as possible. -/
def joinAll : List Char → List Char
  | [] => []
  | character :: rest => joinFrom character [] rest

/-- The normal form of a text. -/
def normalize (text : List Char) : List Char :=
  if text.all fun character => character.toNat < 192 then text
  else joinAll (order (text.flatMap parts))

end SourceIndex.Text.Canonical
