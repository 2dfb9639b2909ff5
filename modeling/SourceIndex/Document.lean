import SourceIndex.Json.Basic

/-!
# Structural documents

What the parser says about one source file: the members of an object, whose shape depends on the
declarations in the file. Only nested types are looked at. A document describes its primary type
under `class` and the other types of the file under `otherclasses`; each type lists the types
declared inside it under `innerclasses`. The index keeps one level of nesting, so the nested types
of nested types are dropped.
-/

set_option autoImplicit false

namespace SourceIndex

/-- The members of a structural document. -/
abbrev Document := Json.Members

namespace Document

/-- The key of the primary type. -/
def primaryKey : String := "class"

/-- The key of the other types of the file. -/
def siblingsKey : String := "otherclasses"

/-- The key of the types inside a type. -/
def nestedKey : String := "innerclasses"

/-- Changes the value under a key, where there is one. -/
def changeMember (key : String) (change : Json → Json) (members : Json.Members) : Json.Members :=
  members.map fun member => if member.1 = key then (member.1, change member.2) else member

/-- Changes every item of an array; any other value stays. -/
def changeItems (change : Json → Json) : Json → Json
  | .array items => .array (items.map change)
  | value => value

/-- Drops the types inside a nested type. -/
def dropNested : Json → Json
  | .object members => .object (Json.eraseMember nestedKey members)
  | value => value

/-- Drops the types inside the nested types of a type. -/
def flattenType : Json → Json
  | .object members => .object (changeMember nestedKey (changeItems dropNested) members)
  | value => value

/-- Keeps one level of nesting in the primary type and in each of the others. -/
def normalize (document : Document) : Document :=
  changeMember siblingsKey (changeItems flattenType)
    (changeMember primaryKey flattenType document)

end Document

end SourceIndex
