import SourceIndex.Json.Printer
import SourceIndex.Text.Printable

/-!
# Records from values

A record is read from an object by the names of its fields, or from an array by their order. Of
several faults the one reported is the first in this order: a value of the wrong kind, by the order
of the object's keys; then a missing field, by the order of the record's fields. An array is read
item by item against the fields.
-/

set_option autoImplicit false

namespace SourceIndex.Json

/-- Why a value is not the record that was wanted. -/
inductive DecodeError where
  /-- A field that must be there is not. -/
  | missing (field : String)
  /-- A value of another kind stands where `expected` was wanted. -/
  | mismatch (found : Json) (expected : String)
  /-- An array has `count` items and lacks the next field. -/
  | tooShort (count : Nat) (type : String) (fields : Nat)
  /-- An array has more items than the record has fields. -/
  | tooLong (count : Nat)
deriving Inhabited

/-- The kind of a value, with the value where that is short. -/
def describe : Json → String
  | .null => "null"
  | .bool true => "boolean `true`"
  | .bool false => "boolean `false`"
  | .number (.integer value) => "integer `" ++ String.ofList (renderInt value) ++ "`"
  | .number (.double value) => "floating point `" ++ String.ofList (renderDouble value) ++ "`"
  | .string text => "string " ++ Text.quote text
  | .array _ => "sequence"
  | .object _ => "map"

/-- The wording of a fault. -/
def DecodeError.message : DecodeError → String
  | .missing field => "missing field `" ++ field ++ "`"
  | .mismatch found expected => "invalid type: " ++ found.describe ++ ", expected " ++ expected
  | .tooShort count type fields =>
    "invalid length " ++ toString count ++ ", expected struct " ++ type ++ " with " ++
      toString fields ++ " elements"
  | .tooLong count =>
    "invalid length " ++ toString count ++ ", expected fewer elements in array"

/-- Accepts a value or says why not. -/
abbrev Check := Json → Option DecodeError

/-- A string. -/
def isText : Check
  | .string _ => none
  | value => some (.mismatch value "a string")

/-- An object. -/
def isMap : Check
  | .object _ => none
  | value => some (.mismatch value "a map")

/-- Null, or a value that passes a check. -/
def orNull (check : Check) : Check
  | .null => none
  | value => check value

/-- A field of a record. -/
structure Field where
  name : String
  check : Check
  required : Bool

/-- A field that must be there. -/
def Field.needed (name : String) (check : Check) : Field :=
  ⟨name, check, true⟩

/-- A field that may be left out. -/
def Field.spare (name : String) (check : Check) : Field :=
  ⟨name, check, false⟩

/-- The first fault among an object's members. -/
def memberFault? (fields : List Field) (members : Members) : Option DecodeError :=
  members.findSome? fun member =>
    match fields.find? fun field => field.name == member.1 with
    | some field => field.check member.2
    | none => none

/-- The first field that an object lacks. -/
def missingField? (fields : List Field) (members : Members) : Option DecodeError :=
  fields.findSome? fun field =>
    if field.required && (member? field.name members).isNone then some (.missing field.name)
    else none

/-- Reads the items of an array as the fields in order; `index` counts the items read. -/
def ofItems (type : String) (total count index : Nat) :
    List Field → List Json → Except DecodeError Members
  | [], [] => .ok []
  | [], _ :: _ => .error (.tooLong count)
  | field :: fields, [] =>
    if field.required then .error (.tooShort index type total)
    else ofItems type total count index fields []
  | field :: fields, item :: items =>
    match field.check item with
    | some fault => .error fault
    | none =>
      match ofItems type total count (index + 1) fields items with
      | .ok members => .ok ((field.name, item) :: members)
      | .error fault => .error fault

/-- The members of a record, checked against its fields. -/
def readRecord (type : String) (fields : List Field) : Json → Except DecodeError Members
  | .object members =>
    match memberFault? fields members with
    | some fault => .error fault
    | none =>
      match missingField? fields members with
      | some fault => .error fault
      | none => .ok members
  | .array items => ofItems type fields.length items.length 0 fields items
  | value => .error (.mismatch value ("struct " ++ type))

/-- The text under a key, empty if there is none. -/
def textOf (members : Members) (key : String) : String :=
  match member? key members with
  | some (.string text) => text
  | _ => ""

/-- The text under a key, if there is one. -/
def textOf? (members : Members) (key : String) : Option String :=
  match member? key members with
  | some (.string text) => some text
  | _ => none

/-- The object under a key, if there is one. -/
def objectOf? (members : Members) (key : String) : Option Members :=
  match member? key members with
  | some (.object inner) => some inner
  | _ => none

end SourceIndex.Json
