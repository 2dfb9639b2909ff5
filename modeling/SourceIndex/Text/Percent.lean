import SourceIndex.Text.Ascii
import SourceIndex.Text.Lines
import SourceIndex.Text.Utf8

/-!
# Percent notation and forms

A byte that a text cannot hold is written as `%` and two hexadecimal digits. What does not have this
form stands for itself when it is read.

A form holds names with their values in one line: the pairs are separated by `&`, and the name of a
pair ends at its first `=`. A plus sign in it is a space.

Main statement: a byte in percent notation is read back (`decode_percent`).
-/

set_option autoImplicit false

namespace SourceIndex.Text

namespace Percent

/-- A hexadecimal digit in upper case. -/
def hexDigit (value : Nat) : Char :=
  if value < 10 then Char.ofNat (48 + value) else Char.ofNat (55 + value)

/-- A byte in percent notation. -/
def percent (byte : UInt8) : List Char :=
  ['%', hexDigit (byte.toNat / 16), hexDigit (byte.toNat % 16)]

/-- A character that is a control or not in ASCII. -/
def isForeign (character : Char) : Bool :=
  character.toNat < 32 || 126 < character.toNat

/-- Writes a text with the foreign characters and some others in percent notation. -/
def encode (special : List Char) (text : List Char) : List Char :=
  text.flatMap fun character =>
    if isForeign character || special.contains character then
      (String.utf8EncodeChar character).flatMap percent
    else [character]

/-- The bytes of a text that may hold percent notation. -/
def decode : List Char → Bytes
  | [] => []
  | '%' :: high :: low :: rest =>
    match hexValue? high, hexValue? low with
    | some upper, some lower => UInt8.ofNat (upper * 16 + lower) :: decode rest
    | _, _ => UInt8.ofNat 37 :: decode (high :: low :: rest)
  | character :: rest => String.utf8EncodeChar character ++ decode rest

/-- The text that is written in percent notation, if it is one. -/
def decodeText? (text : List Char) : Option (List Char) :=
  match Utf8.decode (decode text) with
  | .ok decoded => some decoded
  | .error _ => none

/-- A digit that was written is read back. -/
theorem hexValue?_hexDigit {value : Nat} (small : value < 16) :
    hexValue? (hexDigit value) = some value := by
  have all : ∀ digit ∈ List.range 16, hexValue? (hexDigit digit) = some digit := by decide
  exact all value (List.mem_range.2 small)

/-- A byte in percent notation is read back. -/
theorem decode_percent (byte : UInt8) (rest : List Char) :
    decode (percent byte ++ rest) = byte :: decode rest := by
  have size := UInt8.toNat_lt byte
  have high : hexValue? (hexDigit (byte.toNat / 16)) = some (byte.toNat / 16) :=
    hexValue?_hexDigit (by omega)
  have low : hexValue? (hexDigit (byte.toNat % 16)) = some (byte.toNat % 16) :=
    hexValue?_hexDigit (by omega)
  have whole : byte.toNat / 16 * 16 + byte.toNat % 16 = byte.toNat := by omega
  simp [percent, decode, high, low, whole]

end Percent

namespace Form

/-- The text of a name or a value. Bytes that are no text are replaced. -/
def plain (written : List Char) : String :=
  Utf8.toStringLossy (Percent.decode (replaceChar '+' ' ' written))

/-- The name and the value of a pair, which is empty without an equals sign. -/
def pair (written : List Char) : String × String :=
  let parts := splitFirst '=' written
  (plain parts.1, plain (parts.2.getD []))

/-- The pairs of a form. Nothing between two separators is no pair. -/
def read (form : List Char) : List (String × String) :=
  ((form.splitOn '&').filter fun written => !written.isEmpty).map pair

end Form

end SourceIndex.Text
