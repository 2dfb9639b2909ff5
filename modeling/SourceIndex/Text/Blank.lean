/-!
# Blank characters

The characters that count as blank at the ends of a line of text, and the two trimming functions
built on them. The table lists the characters with the Unicode property `White_Space`.

Main statement: every character of the standard library's class is blank
(`isBlank_of_isWhitespace`).
-/

set_option autoImplicit false

namespace SourceIndex.Text

/-- The code points with the property `White_Space`, as inclusive ranges in ascending order. -/
def blankRanges : List (Nat × Nat) :=
  [(0x09, 0x0D), (0x20, 0x20), (0x85, 0x85), (0xA0, 0xA0), (0x1680, 0x1680), (0x2000, 0x200A),
    (0x2028, 0x2029), (0x202F, 0x202F), (0x205F, 0x205F), (0x3000, 0x3000)]

/-- A character is blank when one of the ranges holds its code point. -/
def isBlank (character : Char) : Bool :=
  blankRanges.any fun range => range.1 ≤ character.toNat && character.toNat ≤ range.2

/-- Drops the blanks at the start. -/
def trimStart (text : List Char) : List Char :=
  text.dropWhile isBlank

/-- Drops the characters at the end that satisfy a test. -/
def dropEndWhile (test : Char → Bool) (text : List Char) : List Char :=
  (text.reverse.dropWhile test).reverse

/-- Drops the blanks at both ends. -/
def trim (text : List Char) : List Char :=
  dropEndWhile isBlank (trimStart text)

/-- Every character that the standard library takes for white space is blank here. -/
theorem isBlank_of_isWhitespace {character : Char} (white : character.isWhitespace = true) :
    isBlank character = true := by
  simp only [Char.isWhitespace, Bool.or_eq_true, decide_eq_true_eq] at white
  rcases white with ((space | tab) | newline) | return_
  · subst space; decide
  · subst tab; decide
  · subst newline; decide
  · subst return_; decide

example : blankRanges.foldl (fun count range => count + (range.2 + 1 - range.1)) 0 = 25 := by
  decide

end SourceIndex.Text
