/-!
# ASCII characters

Letters and digits of ASCII, the lower case of a letter, and the value of a hexadecimal digit.

Main statement: a character in lower case stays as it is (`lower_lower`).
-/

set_option autoImplicit false

namespace SourceIndex.Text

/-- A character of ASCII. -/
def isAscii (character : Char) : Bool :=
  character.toNat < 128

/-- A decimal digit. -/
def isDigit (character : Char) : Bool :=
  48 ≤ character.toNat && character.toNat ≤ 57

/-- A character in lower case, if it is a letter. -/
def lower (character : Char) : Char :=
  if 65 ≤ character.toNat && character.toNat ≤ 90 then Char.ofNat (character.toNat + 32)
  else character

/-- A letter. -/
def isLetter (character : Char) : Bool :=
  97 ≤ (lower character).toNat && (lower character).toNat ≤ 122

/-- The value of a hexadecimal digit in either case. -/
def hexValue? (digit : Char) : Option Nat :=
  let code := digit.toNat
  if 48 ≤ code && code ≤ 57 then some (code - 48)
  else if 97 ≤ code && code ≤ 102 then some (code - 87)
  else if 65 ≤ code && code ≤ 70 then some (code - 55)
  else none

/-- The character of a small code point has that code point. -/
theorem toNat_ofNat {code : Nat} (small : code < 0xD800) : (Char.ofNat code).toNat = code := by
  have isValid : Nat.isValidChar code := Or.inl small
  rw [Char.ofNat, dif_pos isValid]
  rfl

/-- A character in lower case stays as it is. -/
theorem lower_lower (character : Char) : lower (lower character) = lower character := by
  by_cases isUpper : (65 ≤ character.toNat && character.toNat ≤ 90) = true
  · have bounds : 65 ≤ character.toNat ∧ character.toNat ≤ 90 := by simpa using isUpper
    have value : (Char.ofNat (character.toNat + 32)).toNat = character.toNat + 32 :=
      toNat_ofNat (by omega)
    have isLower : (65 ≤ character.toNat + 32 && character.toNat + 32 ≤ 90) = false := by
      simp only [Bool.and_eq_false_iff, decide_eq_false_iff_not]
      omega
    simp only [lower, isUpper, if_true, value, isLower, Bool.false_eq_true, if_false]
  · simp only [lower, isUpper, Bool.false_eq_true, if_false]

end SourceIndex.Text
