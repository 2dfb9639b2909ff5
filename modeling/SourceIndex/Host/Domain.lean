import SourceIndex.Host.Domain.Characters
import SourceIndex.Host.Domain.Punycode

/-!
# Domain names

The ASCII form of a domain name. Its characters are replaced by those that stand for them, its
labels are checked one by one, and a label that is not ASCII is written in Punycode. A label that is
written so already must be the form of a label that needs it.

Main statement: the form of a name that is found has only ASCII characters that a name can have
(`toAscii?_allowed`).
-/

set_option autoImplicit false

namespace SourceIndex.Host.Domain

/-- All characters are ASCII. -/
def isAscii (text : List Char) : Bool :=
  text.all Text.isAscii

/-- Replaces the characters of a text by those that stand for them. -/
def foldAll? (text : List Char) : Option (List Char) :=
  ((text.flatMap Text.Canonical.parts).mapM fold?).map fun pieces =>
    Text.Canonical.normalize pieces.flatten

/-! ## Labels -/

/-- A joiner or non-joiner has its place after a letter without a vowel; a non-joiner also between
characters that would be joined. `before` is what stands before it, backward. -/
def isPlaced (character : Char) (before after : List Char) : Bool :=
  let isBare := (before.head?.map Text.Canonical.combiningClass) == some 9
  let isBetween :=
    ((before.dropWhile isJoinedPast).head?.map joinsAfter).getD false &&
      ((after.dropWhile isJoinedPast).head?.map joinsBefore).getD false
  isBare || (character == nonJoiner && isBetween)

/-- Every joiner and non-joiner has its place. -/
def arePlaced (before : List Char) : List Char → Bool
  | [] => true
  | character :: rest =>
    (if character == nonJoiner || character == joiner then isPlaced character before rest
      else true) &&
      arePlaced (character :: before) rest

/-- A label starts with a mark. -/
def startsWithMark (label : List Char) : Bool :=
  match label.head?.map direction with
  | some .mark => true
  | some .spacingMark => true
  | _ => false

/-- The start of a label that is written in Punycode. -/
def punycodeStart : List Char := ['x', 'n', '-', '-']

/-- A label with its replaced characters is one that a name can have. -/
def isLabel (label : List Char) : Bool :=
  !startsWithMark label && arePlaced [] label

/-- The characters of a label. -/
def label? (label : List Char) : Option (List Char) :=
  match List.isPrefixOf? punycodeStart label with
  | none => if isLabel label then some label else none
  | some written =>
    if isAscii label then
      match Punycode.decode? written with
      | none => none
      | some plain =>
        if !isAscii plain && plain.length ≤ 2000 && foldAll? plain == some plain &&
            !punycodeStart.isPrefixOf plain && isLabel plain then
          some plain
        else none
    else none

/-! ## Direction -/

/-- The directions that a label may have which is written from right to left. -/
def fitsRight : Direction → Bool
  | .leftToRight | .spacingMark | .separator => false
  | _ => true

/-- The directions that a label may have which is written from left to right. -/
def fitsLeft : Direction → Bool
  | .rightToLeft | .rightToLeftDigit | .separator => false
  | _ => true

/-- A label is written in one direction: its first character tells which, the others fit it, and so
does the last one that is no mark. Digits of the two kinds do not stand together. -/
def isDirected (label : List Char) : Bool :=
  let all := label.map direction
  let last := (all.reverse.dropWhile (· == .mark)).head?
  match all.head? with
  | none => true
  | some .rightToLeft =>
    all.all fitsRight &&
      (last == some .rightToLeft || last == some .digit || last == some .rightToLeftDigit) &&
      !(all.contains .digit && all.contains .rightToLeftDigit)
  | some .leftToRight =>
    all.all fitsLeft &&
      (last == some .leftToRight || last == some .spacingMark || last == some .digit)
  | some _ => false

/-- A text has a character that is written from right to left. -/
def hasRight (text : List Char) : Bool :=
  text.any fun character =>
    direction character == .rightToLeft || direction character == .rightToLeftDigit

/-! ## Names -/

/-- The ASCII form of a label. -/
def asciiLabel? (label : List Char) : Option (List Char) :=
  if isAscii label then some label
  else if label.length ≤ 1000 then some (punycodeStart ++ Punycode.encode label)
  else none

/-- An ASCII character that a name can have. -/
def isAllowed (character : Char) : Bool :=
  32 < character.toNat && character.toNat < 127 &&
    !(['%', '#', '/', ':', '<', '>', '?', '@', '[', '\\', ']', '^', '|'].contains character)

/-- The ASCII form of a name. -/
def toAscii? (name : List Char) : Option (List Char) :=
  match (foldAll? name).bind fun folded => (folded.splitOn '.').mapM label? with
  | none => none
  | some labels =>
    if labels.any hasRight && !labels.all isDirected then none
    else
      ((labels.mapM asciiLabel?).map ['.'].intercalate).filter fun ascii => ascii.all isAllowed

/-- The form of a name has only characters that a name can have. -/
theorem toAscii?_allowed {name ascii : List Char} (found : toAscii? name = some ascii) :
    ∀ character ∈ ascii, isAllowed character = true := by
  unfold toAscii? at found
  split at found
  · simp at found
  · split at found
    · simp at found
    · exact List.all_eq_true.1 (Option.filter_eq_some_iff.1 found).2

end SourceIndex.Host.Domain
