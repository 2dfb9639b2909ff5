import SourceIndex.Text.Utf8

/-!
# Base64

Bytes written with the 64 letters of the standard alphabet, four letters for three bytes, the last
group filled up with `=`. Decoding accepts exactly what encoding writes: the filling must be present
and the bits that it leaves over must be zero.

When a text has several faults the reported one is found in this order: a letter that cannot end a
text whose length leaves a single letter over, a bad letter in any group but the last, a fault in
the last group from left to right, its number of letters, its filling, and the left-over bits.
-/

set_option autoImplicit false

namespace SourceIndex.Base64

/-- The letter of a number below 64. -/
def letter (value : Nat) : UInt8 :=
  if value < 26 then UInt8.ofNat (65 + value)
  else if value < 52 then UInt8.ofNat (71 + value)
  else if value < 62 then UInt8.ofNat (value - 4)
  else if value = 62 then 43
  else 47

/-- The number of a letter. -/
def value? (symbol : UInt8) : Option Nat :=
  let code := symbol.toNat
  if 65 ≤ code && code ≤ 90 then some (code - 65)
  else if 97 ≤ code && code ≤ 122 then some (code - 71)
  else if 48 ≤ code && code ≤ 57 then some (code + 4)
  else if code = 43 then some 62
  else if code = 47 then some 63
  else none

/-- The byte that fills up the last group. -/
def filling : UInt8 := 61

/-- Encodes bytes. -/
def encode : Bytes → Bytes
  | [] => []
  | [first] =>
    let bits := first.toNat
    [letter (bits / 4), letter (bits % 4 * 16), filling, filling]
  | [first, second] =>
    let bits := first.toNat * 256 + second.toNat
    [letter (bits / 1024), letter (bits / 16 % 64), letter (bits % 16 * 4), filling]
  | first :: second :: third :: rest =>
    let bits := first.toNat * 65536 + second.toNat * 256 + third.toNat
    letter (bits / 262144) :: letter (bits / 4096 % 64) :: letter (bits / 64 % 64) ::
      letter (bits % 64) :: encode rest

/-- Why a text is not the encoding of any bytes. -/
inductive DecodeError where
  /-- The byte at this offset is no letter, or is filling where none may stand. -/
  | symbol (byte : UInt8) (offset : Nat)
  /-- A group of one letter. -/
  | length (letters : Nat)
  /-- The last letter has bits that belong to no byte. -/
  | lastSymbol (byte : UInt8) (offset : Nat)
  /-- The last group is not filled up. -/
  | padding
deriving DecidableEq, Repr

/-- The wording of a decoding error. -/
def DecodeError.message : DecodeError → String
  | .symbol byte offset =>
    "Invalid symbol " ++ toString byte.toNat ++ ", offset " ++ toString offset ++ "."
  | .length letters => "Invalid input length: " ++ toString letters
  | .lastSymbol byte offset =>
    "Invalid last symbol " ++ toString byte.toNat ++ ", offset " ++ toString offset ++ "."
  | .padding => "Invalid padding"

/-- What the letters of the last group are so far: their numbers, and where filling began. -/
structure Group where
  values : List Nat
  /-- The offset of the first filling byte, if one has been read. -/
  filled : Option Nat
  /-- Filling bytes read. -/
  fillings : Nat
  last : UInt8

/-- Reads the bytes of the last group one by one, at their place in the group and their offset. -/
def readGroup (group : Group) (place offset : Nat) : Bytes → Except DecodeError Group
  | [] => .ok group
  | byte :: rest =>
    if byte = filling then
      if place < 2 then .error (.symbol byte offset)
      else
        readGroup
          { group with filled := some (group.filled.getD offset), fillings := group.fillings + 1 }
          (place + 1) (offset + 1) rest
    else
      match group.filled with
      | some start => .error (.symbol filling start)
      | none =>
        match value? byte with
        | none => .error (.symbol byte offset)
        | some value =>
          readGroup { group with values := group.values ++ [value], last := byte }
            (place + 1) (offset + 1) rest

/-- The bytes of the last group, which starts at `offset`. -/
def decodeLast (offset : Nat) (bytes : Bytes) : Except DecodeError Bytes :=
  if bytes.isEmpty then .ok []
  else
    match readGroup ⟨[], none, 0, 0⟩ 0 offset bytes with
    | .error error => .error error
    | .ok group =>
      let count := group.values.length
      if count < 2 then .error (.length (offset + count))
      else if (group.fillings + count) % 4 != 0 then .error .padding
      else
        match group.values with
        | [first, second] =>
          if second % 16 = 0 then .ok [UInt8.ofNat (first * 4 + second / 16)]
          else .error (.lastSymbol group.last (offset + 1))
        | [first, second, third] =>
          if third % 4 = 0 then
            .ok [UInt8.ofNat (first * 4 + second / 16),
              UInt8.ofNat (second % 16 * 16 + third / 4)]
          else .error (.lastSymbol group.last (offset + 2))
        | [first, second, third, fourth] =>
          .ok [UInt8.ofNat (first * 4 + second / 16),
            UInt8.ofNat (second % 16 * 16 + third / 4), UInt8.ofNat (third % 4 * 64 + fourth)]
        | _ => .error .padding

/-- Decodes groups of four letters while more bytes follow, and the last group by itself. -/
def decodeGroups (offset : Nat) : Bytes → Except DecodeError Bytes
  | first :: second :: third :: fourth :: next :: rest =>
    match value? first with
    | none => .error (.symbol first offset)
    | some a =>
      match value? second with
      | none => .error (.symbol second (offset + 1))
      | some b =>
        match value? third with
        | none => .error (.symbol third (offset + 2))
        | some c =>
          match value? fourth with
          | none => .error (.symbol fourth (offset + 3))
          | some d =>
            match decodeGroups (offset + 4) (next :: rest) with
            | .error error => .error error
            | .ok decoded =>
              .ok (UInt8.ofNat (a * 4 + b / 16) :: UInt8.ofNat (b % 16 * 16 + c / 4) ::
                UInt8.ofNat (c % 4 * 64 + d) :: decoded)
  | bytes => decodeLast offset bytes

/-- The fault of a text whose length leaves one byte over, when that byte is neither a letter nor
filling. -/
def strayEnd? (bytes : Bytes) : Option DecodeError :=
  if bytes.length % 4 = 1 then
    match bytes.getLast? with
    | none => none
    | some byte =>
      if byte != filling && (value? byte).isNone then some (.symbol byte (bytes.length - 1))
      else none
  else none

/-- Decodes a text. -/
def decode (bytes : Bytes) : Except DecodeError Bytes :=
  match strayEnd? bytes with
  | some error => .error error
  | none => decodeGroups 0 bytes

/-- Encodes a string's bytes as a string. -/
def encodeString (text : String) : String :=
  String.ofList ((encode (Utf8.ofString text)).map fun byte => Char.ofNat byte.toNat)

/-- The bytes that a string encodes, if it encodes any. -/
def decodeString? (text : String) : Option Bytes :=
  match decode (Utf8.ofString text) with
  | .ok bytes => some bytes
  | .error _ => none

end SourceIndex.Base64
