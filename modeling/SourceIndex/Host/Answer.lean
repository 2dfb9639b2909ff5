import SourceIndex.Host.Basic
import SourceIndex.Json.Reader
import SourceIndex.Record

/-!
# What an answer says

The body of an answer is read straight into the record that is wanted, so that only the fields of
the record are looked at closely. Of everything else just the form matters: a string need not spell
a text, a number may have any size, and values may nest as deep as they like.

`Answer` is a value with what a record can ask of it. A record is an object or an array: an object
has texts for keys, and the key of a field only once, and an array has the fields in their order.

The readers of values take an amount of fuel that falls with every call. A call consumes at least
one byte before it makes the next but one, so `parse?` gives twice the length of the body.
-/

set_option autoImplicit false

namespace SourceIndex.Host

/-- A value in the body of an answer. -/
inductive Answer where
  | null
  | flag (value : Bool)
  | number
  /-- A string with the text that it spells, if it spells one. -/
  | string (text : Option String)
  | list (items : List Answer)
  /-- An object with its members in order, whose keys are strings like any other. -/
  | object (members : List (Option String × Answer))
deriving Inhabited

namespace Answer

open SourceIndex.Json (codeUnit? isLeading isTrailing joinUnits readUnsigned shortEscape? skipGaps)

/-! ## Strings -/

/-- A part of a string. -/
inductive Piece where
  /-- A byte, as it is or by a short escape. -/
  | byte (value : UInt8)
  /-- A code unit, by its number. -/
  | unit (value : Nat)
deriving DecidableEq, Repr

/-- Reads a string from after its opening quote: the parts and what follows the closing quote. The
bytes are given as characters. -/
def readString : List Char → Option (List Piece × List Char)
  | [] => none
  | '"' :: rest => some ([], rest)
  | '\\' :: 'u' :: a :: b :: c :: d :: rest =>
    match codeUnit? a b c d with
    | none => none
    | some unit => (readString rest).map fun read => (.unit unit :: read.1, read.2)
  | '\\' :: letter :: rest =>
    match shortEscape? letter with
    | none => none
    | some character =>
      (readString rest).map fun read => (.byte (.ofNat character.toNat) :: read.1, read.2)
  | byte :: rest =>
    if byte.toNat < 32 then none
    else (readString rest).map fun read => (.byte (.ofNat byte.toNat) :: read.1, read.2)

/-- The bytes of a string, if its code units form whole characters. -/
def bytesOf? : List Piece → Option Bytes
  | [] => some []
  | .byte value :: rest => (bytesOf? rest).map (value :: ·)
  | .unit unit :: rest =>
    if isTrailing unit then none
    else if isLeading unit then
      match rest with
      | .unit second :: more =>
        if isTrailing second then
          (bytesOf? more).map (String.utf8EncodeChar (joinUnits unit second) ++ ·)
        else none
      | _ => none
    else (bytesOf? rest).map (String.utf8EncodeChar (Char.ofNat unit) ++ ·)

/-- The text that a string spells, if it spells one. -/
def textOf? (pieces : List Piece) : Option String :=
  (bytesOf? pieces).bind Utf8.toString?

/-! ## Values -/

/-- Drops a number. -/
def skipNumber (text : List Char) : Option (List Char) :=
  let parts :=
    match text with
    | '-' :: rest => readUnsigned true rest
    | _ => readUnsigned false text
  parts.map Prod.snd

mutual

/-- Reads a value: the value and what follows it. -/
def readValue : Nat → List Char → Option (Answer × List Char)
  | 0, _ => none
  | fuel + 1, text =>
    match skipGaps text with
    | 'n' :: 'u' :: 'l' :: 'l' :: rest => some (.null, rest)
    | 't' :: 'r' :: 'u' :: 'e' :: rest => some (.flag true, rest)
    | 'f' :: 'a' :: 'l' :: 's' :: 'e' :: rest => some (.flag false, rest)
    | '"' :: rest => (readString rest).map fun read => (.string (textOf? read.1), read.2)
    | '[' :: rest =>
      match skipGaps rest with
      | ']' :: more => some (.list [], more)
      | start => (readItems fuel start).map fun read => (.list read.1, read.2)
    | '\x7b' :: rest =>
      match skipGaps rest with
      | '\x7d' :: more => some (.object [], more)
      | start => (readMembers fuel start).map fun read => (.object read.1, read.2)
    | start => (skipNumber start).map fun more => (.number, more)

/-- Reads one item or more up to the closing bracket. -/
def readItems : Nat → List Char → Option (List Answer × List Char)
  | 0, _ => none
  | fuel + 1, text =>
    match readValue fuel text with
    | none => none
    | some (item, rest) =>
      match skipGaps rest with
      | ']' :: more => some ([item], more)
      | ',' :: more => (readItems fuel more).map fun read => (item :: read.1, read.2)
      | _ => none

/-- Reads one member or more up to the closing brace. -/
def readMembers : Nat → List Char → Option (List (Option String × Answer) × List Char)
  | 0, _ => none
  | fuel + 1, text =>
    match skipGaps text with
    | '"' :: rest =>
      match readString rest with
      | none => none
      | some (key, afterKey) =>
        match skipGaps afterKey with
        | ':' :: start =>
          match readValue fuel start with
          | none => none
          | some (value, afterValue) =>
            let member := (textOf? key, value)
            match skipGaps afterValue with
            | '\x7d' :: more => some ([member], more)
            | ',' :: more => (readMembers fuel more).map fun read => (member :: read.1, read.2)
            | _ => none
        | _ => none
    | _ => none

end

/-- The value that a whole body spells, if it spells one. -/
def parse? (body : Bytes) : Option Answer :=
  let text := characters body
  match readValue (2 * text.length + 2) text with
  | none => none
  | some (value, rest) => if (skipGaps rest).isEmpty then some value else none

/-! ## Records -/

/-- Fields of a record with their values. -/
abbrev Fields := List (String × Answer)

/-- The fields that a record with certain names has in an object or an array. Members of an object
with other names are passed over; an array must not have more items than there are names. -/
def fields? (names : List String) : Answer → Option Fields
  | .object members =>
    let isText := members.all fun member => member.1.isSome
    let isOnce := names.all fun name => members.countP (fun member => member.1 == some name) ≤ 1
    if isText && isOnce then
      some (members.filterMap fun member => member.1.map fun key => (key, member.2))
    else none
  | .list items => if items.length ≤ names.length then some (names.zip items) else none
  | _ => none

/-- The text of a value that is one. -/
def text? : Answer → Option String
  | .string text => text
  | _ => none

/-- The truth value of a value that is one. -/
def flag? : Answer → Option Bool
  | .flag value => some value
  | _ => none

/-- The items of a value that is a list. -/
def items? : Answer → Option (List Answer)
  | .list items => some items
  | _ => none

/-- Reads a field that must be there. -/
def Fields.needed? {α : Type} (fields : Fields) (name : String) (read : Answer → Option α) :
    Option α :=
  (fields.lookup name).bind read

/-- Reads a field that may be left out. -/
def Fields.spare? {α : Type} (fields : Fields) (name : String) (usual : α)
    (read : Answer → Option α) : Option α :=
  match fields.lookup name with
  | none => some usual
  | some value => read value

end Answer

/-! ## The three answers -/

/-- What the service says of a repository. -/
structure Repository where
  name : String
  defaultBranch : String
  url : String
  cloneUrl : String
  treesUrl : String
  ownerLogin : String
deriving DecidableEq, Repr

/-- Reads the owner of a repository. -/
def Repository.ownerOf? (answer : Answer) : Option String := do
  let fields ← answer.fields? ["login"]
  fields.needed? "login" Answer.text?

/-- Reads what the service says of a repository. -/
def Repository.of? (answer : Answer) : Option Repository := do
  let fields ←
    answer.fields? ["name", "default_branch", "url", "clone_url", "trees_url", "owner"]
  return {
    name := ← fields.needed? "name" Answer.text?
    defaultBranch := ← fields.needed? "default_branch" Answer.text?
    url := ← fields.needed? "url" Answer.text?
    cloneUrl := ← fields.needed? "clone_url" Answer.text?
    treesUrl := ← fields.needed? "trees_url" Answer.text?
    ownerLogin := ← fields.needed? "owner" ownerOf? }

/-- Reads the commit that a branch points at. -/
def commitOf? (answer : Answer) : Option String := do
  let fields ← answer.fields? ["sha"]
  fields.needed? "sha" Answer.text?

/-- Reads the head of a branch. -/
def headOf? (answer : Answer) : Option String := do
  let fields ← answer.fields? ["commit"]
  fields.needed? "commit" commitOf?

/-- Reads an entry of a file tree. -/
def fileOf? (answer : Answer) : Option RemoteFile := do
  let fields ← answer.fields? ["path", "sha", "mode", "type", "url"]
  return {
    path := ← fields.needed? "path" Answer.text?
    sha := ← fields.needed? "sha" Answer.text?
    mode := ← fields.needed? "mode" Answer.text?
    kind := ← fields.needed? "type" Answer.text?
    url := ← fields.spare? "url" "" Answer.text? }

/-- A file tree as the service lists it. -/
structure Tree where
  files : List RemoteFile
  /-- The service left entries out. -/
  truncated : Bool
deriving DecidableEq, Repr

/-- Reads a file tree. -/
def Tree.of? (answer : Answer) : Option Tree := do
  let fields ← answer.fields? ["tree", "truncated"]
  let entries ← fields.needed? "tree" Answer.items?
  let files ← entries.mapM fileOf?
  let truncated ← fields.spare? "truncated" false Answer.flag?
  return ⟨files, truncated⟩

end SourceIndex.Host
