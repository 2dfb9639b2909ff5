/-!
# UTF-8

Texts as bytes and back. Decoding stops at the first place where the bytes cannot be text and tells
two causes apart: bytes that no continuation can mend, with the number of bytes that belong to the
fault, and a character that the end of the input cuts short. The lenient decoder puts the
replacement character in the place of every fault.
-/

set_option autoImplicit false

namespace SourceIndex

/-- A sequence of bytes. -/
abbrev Bytes := List UInt8

namespace Utf8

/-- The bytes of a text. -/
def encode (text : List Char) : Bytes :=
  text.flatMap String.utf8EncodeChar

/-- The bytes of a string. -/
def ofString (text : String) : Bytes :=
  encode text.toList

/-- The number of bytes of a string. -/
def size (text : String) : Nat :=
  (ofString text).length

/-- What the bytes at the start of an input are. -/
inductive Front where
  /-- A whole character and the bytes after it. -/
  | character (value : Char) (rest : Bytes)
  /-- Bytes that start no character. The first `count + 1` of them belong to the fault, and `rest`
  is what follows these. -/
  | invalid (count : Nat) (rest : Bytes)
  /-- The start of a character that the end of the input cuts short. -/
  | incomplete

/-- The last six bits of a byte that continues a character. -/
def continuation? (byte : UInt8) : Option Nat :=
  if 0x80 ≤ byte.toNat && byte.toNat ≤ 0xBF then some (byte.toNat - 0x80) else none

/-- The second byte of a character of three bytes may be any continuation, except that the first
byte rules out an encoding that is too long and the code points of the surrogates. -/
def allowsThird (lead second : Nat) : Bool :=
  if lead = 0xE0 then 0xA0 ≤ second && second ≤ 0xBF
  else if lead = 0xED then 0x80 ≤ second && second ≤ 0x9F
  else 0x80 ≤ second && second ≤ 0xBF

/-- The second byte of a character of four bytes may be any continuation, except that the first
byte rules out an encoding that is too long and code points beyond the last. -/
def allowsFourth (lead second : Nat) : Bool :=
  if lead = 0xF0 then 0x90 ≤ second && second ≤ 0xBF
  else if lead = 0xF4 then 0x80 ≤ second && second ≤ 0x8F
  else 0x80 ≤ second && second ≤ 0xBF

/-- Reads a character of three bytes after its first byte. -/
def frontThree (lead : Nat) : Bytes → Front
  | [] => .incomplete
  | second :: rest =>
    if allowsThird lead second.toNat then
      match rest with
      | [] => .incomplete
      | third :: more =>
        match continuation? third with
        | none => .invalid 1 rest
        | some last =>
          .character
            (Char.ofNat ((lead - 0xE0) * 4096 + (second.toNat - 0x80) * 64 + last)) more
    else .invalid 0 (second :: rest)

/-- Reads a character of four bytes after its first byte. -/
def frontFour (lead : Nat) : Bytes → Front
  | [] => .incomplete
  | second :: rest =>
    if allowsFourth lead second.toNat then
      match rest with
      | [] => .incomplete
      | third :: more =>
        match continuation? third with
        | none => .invalid 1 rest
        | some middle =>
          match more with
          | [] => .incomplete
          | fourth :: remaining =>
            match continuation? fourth with
            | none => .invalid 2 more
            | some last =>
              .character
                (Char.ofNat ((lead - 0xF0) * 262144 + (second.toNat - 0x80) * 4096 +
                  middle * 64 + last))
                remaining
    else .invalid 0 (second :: rest)

/-- Reads what stands at the start of an input, given its first byte and the others. -/
def front (first : UInt8) (rest : Bytes) : Front :=
  let lead := first.toNat
  if lead < 0x80 then .character (Char.ofNat lead) rest
  else if 0xC2 ≤ lead && lead ≤ 0xDF then
    match rest with
    | [] => .incomplete
    | second :: more =>
      match continuation? second with
      | none => .invalid 0 rest
      | some last => .character (Char.ofNat ((lead - 0xC0) * 64 + last)) more
  else if 0xE0 ≤ lead && lead ≤ 0xEF then frontThree lead rest
  else if 0xF0 ≤ lead && lead ≤ 0xF4 then frontFour lead rest
  else .invalid 0 rest

/-- Why bytes are not text. -/
inductive DecodeError where
  /-- The fault has `count` bytes and starts at byte `index`. -/
  | invalid (count index : Nat)
  /-- A character that starts at byte `index` is cut short by the end. -/
  | incomplete (index : Nat)
deriving DecidableEq, Repr

/-- The wording of a decoding error. -/
def DecodeError.message : DecodeError → String
  | .invalid count index =>
    "invalid utf-8 sequence of " ++ toString count ++ " bytes from index " ++ toString index
  | .incomplete index => "incomplete utf-8 byte sequence from index " ++ toString index

/-- Decodes from byte `index` on; `fuel` is at least the number of bytes left. -/
def decodeFrom (index : Nat) : Nat → Bytes → Except DecodeError (List Char)
  | _, [] => .ok []
  | 0, _ :: _ => .ok []
  | fuel + 1, first :: rest =>
    match front first rest with
    | .incomplete => .error (.incomplete index)
    | .invalid count _ => .error (.invalid (count + 1) index)
    | .character value more =>
      match decodeFrom (index + (rest.length + 1 - more.length)) fuel more with
      | .ok text => .ok (value :: text)
      | .error error => .error error

/-- The text that bytes encode. -/
def decode (bytes : Bytes) : Except DecodeError (List Char) :=
  decodeFrom 0 bytes.length bytes

/-- The string that bytes encode, if they encode one. -/
def toString? (bytes : Bytes) : Option String :=
  match decode bytes with
  | .ok text => some (String.ofList text)
  | .error _ => none

/-- The character that stands for bytes that are no text. -/
def replacement : Char := Char.ofNat 0xFFFD

/-- Decodes leniently; `fuel` is at least the number of bytes. -/
def decodeLossyWithin : Nat → Bytes → List Char
  | _, [] => []
  | 0, _ :: _ => []
  | fuel + 1, first :: rest =>
    match front first rest with
    | .incomplete => [replacement]
    | .invalid _ more => replacement :: decodeLossyWithin fuel more
    | .character value more => value :: decodeLossyWithin fuel more

/-- The text of bytes, with the replacement character for every fault. -/
def decodeLossy (bytes : Bytes) : List Char :=
  decodeLossyWithin bytes.length bytes

/-- The string of bytes, with the replacement character for every fault. -/
def toStringLossy (bytes : Bytes) : String :=
  String.ofList (decodeLossy bytes)

/-- The ASCII bytes of an input as a string, all other bytes left out. -/
def asciiPart (bytes : Bytes) : String :=
  String.ofList ((bytes.filter fun byte => byte.toNat < 128).map
    fun byte => Char.ofNat byte.toNat)

end Utf8

end SourceIndex
