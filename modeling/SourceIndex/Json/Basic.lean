import SourceIndex.Decimal.Double
import SourceIndex.Text.Order

/-!
# Values of the data format

The values that a document can hold. Objects list their members in the order of their keys, each key
once: `Json.ofMembers` builds such a list from members in any order, where a later member with the
same key replaces an earlier one.

Main statements: the keys of a built object are the given keys (`mem_keys_ofMembers`), and looking a
key up after an insertion gives the new value for that key and the old one for every other
(`member?_insertMember`).
-/

set_option autoImplicit false

namespace SourceIndex

open SourceIndex.Decimal (Double)

/-- A number of a document: whole numbers are kept exactly, all others as floating point. -/
inductive Number where
  | integer (value : Int)
  | double (value : Double)
deriving DecidableEq, Repr

/-- A value of the data format. -/
inductive Json where
  | null
  | bool (value : Bool)
  | number (value : Number)
  | string (value : String)
  | array (items : List Json)
  | object (members : List (String × Json))
deriving Inhabited

namespace Json

/-- The members of an object. -/
abbrev Members := List (String × Json)

/-- A whole number as a value. -/
def ofInt (value : Int) : Json :=
  .number (.integer value)

/-- A natural number as a value. -/
def ofNat (value : Nat) : Json :=
  ofInt (Int.ofNat value)

/-- A list of strings as a value. -/
def ofStrings (texts : List String) : Json :=
  .array (texts.map .string)

/-- A string that may be missing, with null for none. -/
def ofString? : Option String → Json
  | none => .null
  | some text => .string text

/-- Puts a member in its place among ordered members, replacing one with the same key. -/
def insertMember (key : String) (value : Json) : Members → Members
  | [] => [(key, value)]
  | member :: rest =>
    if member.1 = key then (key, value) :: rest
    else if Text.ordered key member.1 then (key, value) :: member :: rest
    else member :: insertMember key value rest

/-- The object with the given members, where the last member with a key counts. -/
def ofMembers (members : Members) : Members :=
  members.foldl (fun built member => insertMember member.1 member.2 built) []

/-- An object value with the given members. -/
def ofList (members : Members) : Json :=
  .object (ofMembers members)

/-- The value of a key among members. -/
def member? (key : String) : Members → Option Json
  | [] => none
  | member :: rest => if member.1 = key then some member.2 else member? key rest

/-- The value of a key, when the value is an object that has it. -/
def get? (key : String) : Json → Option Json
  | .object members => member? key members
  | _ => none

/-- Drops every member with a key. -/
def eraseMember (key : String) (members : Members) : Members :=
  members.filter fun member => member.1 != key

/-- Looking up after an insertion: the new value for its key, the old value for the others. -/
theorem member?_insertMember (key other : String) (value : Json) (members : Members) :
    member? other (insertMember key value members) =
      if key = other then some value else member? other members := by
  induction members with
  | nil => simp [insertMember, member?]
  | cons member rest ih =>
    by_cases same : member.1 = key
    · rw [insertMember, if_pos same]
      by_cases wanted : key = other
      · simp only [member?, if_pos wanted]
      · have apart : ¬member.1 = other := by rw [same]; exact wanted
        simp only [member?, if_neg wanted, if_neg apart]
    · by_cases before : Text.ordered key member.1 = true
      · rw [insertMember, if_neg same, if_pos before, member?]
      · rw [insertMember, if_neg same, if_neg before]
        by_cases here : member.1 = other
        · have apart : ¬key = other := fun equal => same (here.trans equal.symm)
          simp only [member?, if_pos here, if_neg apart]
        · simp only [member?, if_neg here, ih]

/-- An inserted key joins the keys that were there. -/
theorem mem_keys_insertMember (key other : String) (value : Json) (members : Members) :
    other ∈ (insertMember key value members).map Prod.fst ↔
      other = key ∨ other ∈ members.map Prod.fst := by
  induction members with
  | nil => simp [insertMember]
  | cons member rest ih =>
    by_cases same : member.1 = key
    · simp [insertMember, same]
    · by_cases before : Text.ordered key member.1 = true
      · simp [insertMember, same, before]
      · simp only [insertMember, if_neg same, if_neg before, List.map_cons, List.mem_cons, ih]
        constructor
        · rintro (here | new | old)
          · exact .inr (.inl here)
          · exact .inl new
          · exact .inr (.inr old)
        · rintro (new | here | old)
          · exact .inr (.inl new)
          · exact .inl here
          · exact .inr (.inr old)

/-- A built object has exactly the given keys. -/
theorem mem_keys_ofMembers (key : String) (members : Members) :
    key ∈ (ofMembers members).map Prod.fst ↔ key ∈ members.map Prod.fst := by
  have general : ∀ built : Members,
      key ∈ (members.foldl (fun built member => insertMember member.1 member.2 built) built).map
          Prod.fst ↔ key ∈ members.map Prod.fst ∨ key ∈ built.map Prod.fst := by
    induction members with
    | nil => simp
    | cons member rest ih =>
      intro built
      rw [List.foldl_cons, ih, mem_keys_insertMember, List.map_cons, List.mem_cons]
      constructor
      · rintro (later | new | old)
        · exact .inl (.inr later)
        · exact .inl (.inl new)
        · exact .inr old
      · rintro ((new | later) | old)
        · exact .inr (.inl new)
        · exact .inl later
        · exact .inr (.inr old)
  rw [ofMembers, general []]
  simp

end Json

end SourceIndex
