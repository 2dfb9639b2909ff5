import Mathlib.Data.List.Basic
import SourceIndex.Document
import SourceIndex.Text.Ascii
import SourceIndex.Text.Utf8

/-!
# What is kept of a source file

A document describes types, and each type lists the types nested in it. A document is normal if no
nested type lists nested types of its own (`Document.IsNormal`). Normalizing changes each type on
its own (`types_normalize`) and each nested type on its own (`nestedTypes_flattenType`), and a
nested type is left without nested types (`hasNested_dropNested`).

Main statements: a normalized document is normal (`isNormal_normalize`), and the part of a file that
is kept as its text is ASCII (`isAscii_asciiPart`).
-/

set_option autoImplicit false

namespace SourceIndex

namespace Document

/-- The items of an array; none of any other value. -/
def itemsOf : Json → List Json
  | .array items => items
  | _ => []

/-- The types that a type lists as nested in it. -/
def nestedTypes : Json → List Json
  | .object members =>
    members.flatMap fun member => if member.1 = nestedKey then itemsOf member.2 else []
  | _ => []

/-- The type has a member for the types nested in it. -/
def hasNested : Json → Bool
  | .object members => members.any fun member => member.1 == nestedKey
  | _ => false

/-- The primary type of a member of a document, or the other types. -/
def typesOf (member : String × Json) : List Json :=
  if member.1 = primaryKey then [member.2]
  else if member.1 = siblingsKey then itemsOf member.2
  else []

/-- The types that a document describes. -/
def types (document : Document) : List Json :=
  document.flatMap typesOf

/-- No type nested in a type of the document lists nested types. -/
def IsNormal (document : Document) : Prop :=
  ∀ type ∈ types document, ∀ nested ∈ nestedTypes type, hasNested nested = false

theorem itemsOf_changeItems (change : Json → Json) (value : Json) :
    itemsOf (changeItems change value) = (itemsOf value).map change := by
  cases value <;> rfl

theorem hasNested_dropNested (nested : Json) : hasNested (dropNested nested) = false := by
  cases nested with
  | object members =>
    refine List.any_eq_false.2 fun member kept => ?_
    have other := (List.mem_filter.1 kept).2
    simpa using other
  | _ => rfl

theorem nestedTypes_flattenType (type : Json) :
    nestedTypes (flattenType type) = (nestedTypes type).map dropNested := by
  cases type with
  | object members =>
    change (changeMember nestedKey (changeItems dropNested) members).flatMap _ = _
    rw [changeMember, List.flatMap_map, nestedTypes, List.map_flatMap]
    refine List.flatMap_congr fun member _ => ?_
    by_cases here : member.1 = nestedKey
    · simp [here, itemsOf_changeItems]
    · simp [here]
  | _ => rfl

theorem types_normalize (document : Document) :
    types (normalize document) = (types document).map flattenType := by
  rw [normalize, changeMember, changeMember, List.map_map, types, types, List.flatMap_map,
    List.map_flatMap]
  refine List.flatMap_congr fun member _ => ?_
  by_cases primary : member.1 = primaryKey
  · -- A member is not both the primary type and the other types.
    simp [typesOf, primary, primaryKey, siblingsKey]
  · by_cases siblings : member.1 = siblingsKey
    · simp [typesOf, siblings, primaryKey, siblingsKey, itemsOf_changeItems]
    · simp [typesOf, primary, siblings]

/-- **Normalizing a document leaves no nested types in nested types.** -/
theorem isNormal_normalize (document : Document) : (normalize document).IsNormal := by
  intro type member nested within
  rw [types_normalize] at member
  obtain ⟨whole, -, rfl⟩ := List.mem_map.1 member
  rw [nestedTypes_flattenType] at within
  obtain ⟨inner, -, rfl⟩ := List.mem_map.1 within
  exact hasNested_dropNested inner

end Document

/-- The text that is kept of a file is ASCII. -/
theorem Utf8.isAscii_asciiPart (bytes : Bytes) :
    (asciiPart bytes).toList.all Text.isAscii = true := by
  rw [asciiPart, String.toList_ofList]
  refine List.all_eq_true.2 fun character member => ?_
  obtain ⟨byte, kept, rfl⟩ := List.mem_map.1 member
  have small : byte.toNat < 128 := by simpa using (List.mem_filter.1 kept).2
  rw [Text.isAscii, Text.toNat_ofNat (by omega)]
  exact decide_eq_true small

end SourceIndex
