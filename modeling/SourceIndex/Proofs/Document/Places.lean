import SourceIndex.Proofs.Document

/-!
# What normalizing a document leaves alone

A place in a value is a list of stops: members by key and items by index (`Json.Stop`). Normalizing
is a change along two ways through a document, to the types nested in the primary type and to the
types nested in the others (`normalize_eq_changeAlong`). A place that leaves a way holds the same
value after a change along it; a place on the way holds a value of the same shape.

Main statement: normalizing drops the nested types of nested types and nothing else, so a second
time it changes nothing, and a document stays as it is exactly if it is normal
(`Document.normalize_frame`).
-/

set_option autoImplicit false

namespace SourceIndex

namespace Json

/-! ## Places in a value -/

/-- One stop on the way into a value: a member of an object, or an item of an array. -/
inductive Stop where
  | member (key : String)
  | item (index : Nat)

/-- What a value has at a stop. -/
def child? : Stop → Json → Option Json
  | .member key, value => value.get? key
  | .item index, .array items => items[index]?
  | .item _, _ => none

/-- What a value has at a place, stop by stop. -/
def at? : List Stop → Json → Option Json
  | [], value => some value
  | stop :: rest, value => (child? stop value).bind (at? rest)

theorem at?_append (front rest : List Stop) (value : Json) :
    at? (front ++ rest) value = (at? front value).bind (at? rest) := by
  induction front generalizing value with
  | nil => rfl
  | cons stop front ih =>
    rw [List.cons_append, at?, at?, Option.bind_assoc]
    exact Option.bind_congr fun inner _ => ih inner

/-- What a value is apart from the values in it. -/
inductive Shape where
  | scalar (value : Json)
  | array (length : Nat)
  | object (keys : List String)

/-- The shape of a value: the keys of an object in their order, the number of items of an array, and
all of any other value. -/
def shape : Json → Shape
  | .array items => .array items.length
  | .object members => .object (members.map Prod.fst)
  | value => .scalar value

/-- The shape without a key. -/
def Shape.without (key : String) : Shape → Shape
  | .object keys => .object (keys.filter (· != key))
  | other => other

/-! ## Changes along a way -/

/-- One step of a way into a value: to the member with a key, or to every item. -/
inductive Way where
  | member (key : String)
  | items

/-- The stop is on the way. -/
inductive Way.Fits : Way → Stop → Prop where
  | member (key : String) : Fits (.member key) (.member key)
  | item (index : Nat) : Fits .items (.item index)

end Json

open Json

namespace Document

variable {change : Json → Json} {way : Way} {ways : List Way} {stop : Stop} {place : List Stop}

/-- Changes what is one step down a way. -/
def changeBelow (change : Json → Json) : Way → Json → Json
  | .member key, .object members => .object (changeMember key change members)
  | .member _, value => value
  | .items, value => changeItems change value

/-- Changes what is at the end of a way. -/
def changeAlong (change : Json → Json) : List Way → Json → Json
  | [], value => change value
  | way :: ways, value => changeBelow (changeAlong change ways) way value

/-- A change under a key is found under that key only. -/
theorem member?_changeMember (change : Json → Json) (key other : String)
    (members : Json.Members) :
    member? other (changeMember key change members) =
      if other = key then (member? other members).map change else member? other members := by
  induction members with
  | nil => simp [changeMember, member?]
  | cons member rest ih =>
    rw [changeMember, List.map_cons]
    change member? other (_ :: changeMember key change rest) = _
    by_cases changed : member.1 = key
    · rw [if_pos changed, member?, member?, ih]
      by_cases wanted : member.1 = other
      · simp [wanted, wanted ▸ changed]
      · simp [wanted]
    · rw [if_neg changed, member?, member?, ih]
      by_cases wanted : member.1 = other
      · simp [wanted, wanted ▸ changed]
      · simp [wanted]

theorem keys_changeMember (change : Json → Json) (key : String) (members : Json.Members) :
    (changeMember key change members).map Prod.fst = members.map Prod.fst := by
  rw [changeMember, List.map_map]
  refine List.map_congr_left fun member _ => ?_
  by_cases changed : member.1 = key <;> simp [changed]

/-- On the way, a stop holds what it held with the change. -/
theorem child?_changeBelow_of_fits (fits : way.Fits stop) (value : Json) :
    child? stop (changeBelow change way value) = (child? stop value).map change := by
  cases fits with
  | member key =>
    cases value with
    | object members =>
      change member? key (changeMember key change members) = (member? key members).map change
      rw [member?_changeMember, if_pos rfl]
    | _ => rfl
  | item index =>
    cases value with
    | array items => exact List.getElem?_map
    | _ => rfl

/-- Off the way, a stop holds what it held. -/
theorem child?_changeBelow_of_not_fits (off : ¬way.Fits stop) (value : Json) :
    child? stop (changeBelow change way value) = child? stop value := by
  cases way with
  | member key =>
    cases value with
    | object members =>
      cases stop with
      | member other =>
        have apart : other ≠ key := by
          rintro rfl
          exact off (.member other)
        change member? other (changeMember key change members) = member? other members
        rw [member?_changeMember, if_neg apart]
      | item index => rfl
    | _ => rfl
  | items =>
    cases value with
    | array items =>
      cases stop with
      | member other => rfl
      | item index => exact absurd (.item index) off
    | _ => rfl

/-- A change further down keeps the shape. -/
theorem shape_changeBelow (change : Json → Json) (way : Way) (value : Json) :
    shape (changeBelow change way value) = shape value := by
  cases way with
  | member key =>
    cases value with
    | object members => exact congrArg Shape.object (keys_changeMember change key members)
    | _ => rfl
  | items =>
    cases value with
    | array items => exact congrArg Shape.array (List.length_map change)
    | _ => rfl

/-! ## Places and ways -/

/-- The place is at the end of a way. -/
abbrev Ends (ways : List Way) (place : List Stop) : Prop :=
  List.Forall₂ Way.Fits ways place

/-- At the end of a way the value is changed. -/
theorem at?_changeAlong_of_ends (ends : Ends ways place) (rest : List Stop) (value : Json) :
    at? (place ++ rest) (changeAlong change ways value) =
      (at? place value).bind fun inner => at? rest (change inner) := by
  induction ends generalizing value with
  | nil => rfl
  | cons fits _ ih =>
    rw [List.cons_append, at?, at?, changeAlong, child?_changeBelow_of_fits fits]
    cases child? _ value with
    | none => rfl
    | some inner => exact ih inner

/-- A place that is not beyond the end of a way holds a value of the same shape. -/
theorem shape_at?_changeAlong (short : ∀ front, Ends ways front → ¬front <+: place)
    (value : Json) :
    (at? place (changeAlong change ways value)).map shape = (at? place value).map shape := by
  induction ways generalizing place value with
  | nil => exact absurd List.nil_prefix (short [] .nil)
  | cons way ways ih =>
    cases place with
    | nil => simp only [at?, changeAlong, Option.map_some, shape_changeBelow]
    | cons stop place =>
      rw [at?, at?, changeAlong]
      by_cases fits : way.Fits stop
      · rw [child?_changeBelow_of_fits fits]
        cases child? stop value with
        | none => rfl
        | some inner =>
          refine ih (fun front ends within => ?_) inner
          exact short (stop :: front) (.cons fits ends) (List.cons_prefix_cons.2 ⟨rfl, within⟩)
      · rw [child?_changeBelow_of_not_fits fits]

/-- Every way leads somewhere. -/
theorem exists_ends (ways : List Way) : ∃ place, Ends ways place := by
  induction ways with
  | nil => exact ⟨[], .nil⟩
  | cons way ways ih =>
    obtain ⟨place, ends⟩ := ih
    cases way with
    | member key => exact ⟨.member key :: place, .cons (.member key) ends⟩
    | items => exact ⟨.item 0 :: place, .cons (.item 0) ends⟩

/-- A place that is neither before nor beyond the end of a way holds the same value. -/
theorem at?_changeAlong_of_apart
    (apart : ∀ front, Ends ways front → ¬front <+: place ∧ ¬place <+: front) (value : Json) :
    at? place (changeAlong change ways value) = at? place value := by
  induction ways generalizing place value with
  | nil => exact absurd List.nil_prefix (apart [] .nil).1
  | cons way ways ih =>
    cases place with
    | nil =>
      obtain ⟨front, ends⟩ := exists_ends (way :: ways)
      exact absurd List.nil_prefix (apart front ends).2
    | cons stop place =>
      rw [at?, at?, changeAlong]
      by_cases fits : way.Fits stop
      · rw [child?_changeBelow_of_fits fits]
        cases child? stop value with
        | none => rfl
        | some inner =>
          refine ih (fun front ends => ?_) inner
          obtain ⟨notBeyond, notBefore⟩ := apart (stop :: front) (.cons fits ends)
          exact ⟨fun within => notBeyond (List.cons_prefix_cons.2 ⟨rfl, within⟩),
            fun within => notBefore (List.cons_prefix_cons.2 ⟨rfl, within⟩)⟩
      · rw [child?_changeBelow_of_not_fits fits]

/-! ## Dropping the types inside a nested type -/

theorem member?_eraseMember (key other : String) (members : Json.Members) :
    member? other (eraseMember key members) =
      if other = key then none else member? other members := by
  induction members with
  | nil => simp [eraseMember, member?]
  | cons member rest ih =>
    rw [eraseMember] at ih
    by_cases erased : member.1 = key
    · rw [eraseMember, List.filter_cons_of_neg (by simpa using erased), ih, member?]
      by_cases wanted : member.1 = other
      · simp [← wanted, erased]
      · simp [wanted]
    · rw [eraseMember, List.filter_cons_of_pos (by simpa using erased), member?, member?, ih]
      by_cases wanted : member.1 = other
      · simp [← wanted, erased]
      · simp [wanted]

theorem at?_dropNested_nested (rest : List Stop) (nested : Json) :
    at? (.member nestedKey :: rest) (dropNested nested) = none := by
  have gone : child? (.member nestedKey) (dropNested nested) = none := by
    cases nested with
    | object members =>
      change member? nestedKey (eraseMember nestedKey members) = none
      rw [member?_eraseMember, if_pos rfl]
    | _ => rfl
  rw [at?, gone]
  rfl

theorem at?_dropNested_other (other : stop ≠ .member nestedKey) (rest : List Stop)
    (nested : Json) :
    at? (stop :: rest) (dropNested nested) = at? (stop :: rest) nested := by
  have kept : child? stop (dropNested nested) = child? stop nested := by
    cases nested with
    | object members =>
      cases stop with
      | member key =>
        have apart : key ≠ nestedKey := fun same => other (congrArg Stop.member same)
        change member? key (eraseMember nestedKey members) = member? key members
        rw [member?_eraseMember, if_neg apart]
      | item index => rfl
    | _ => rfl
  rw [at?, at?, kept]

theorem shape_dropNested (nested : Json) :
    shape (dropNested nested) = (shape nested).without nestedKey := by
  cases nested with
  | object members =>
    refine congrArg Shape.object ?_
    rw [eraseMember, List.filter_map]
    rfl
  | _ => rfl

/-- Dropping what is inside nested types is a change at the end of a way: every place that is no
front of such an end and not under the key in it holds the same value. -/
theorem at?_dropAlong (notBefore : ∀ front, Ends ways front → ¬place <+: front)
    (notUnder : ∀ front, Ends ways front → ¬front ++ [.member nestedKey] <+: place)
    (value : Json) : at? place (changeAlong dropNested ways value) = at? place value := by
  by_cases beyond : ∃ front, Ends ways front ∧ front <+: place
  · obtain ⟨front, ends, rest, rfl⟩ := beyond
    cases rest with
    | nil => exact absurd (by simp) (notBefore front ends)
    | cons stop rest =>
      have other : stop ≠ .member nestedKey := by
        rintro rfl
        exact notUnder front ends ⟨rest, by simp⟩
      rw [at?_changeAlong_of_ends ends, at?_append]
      refine Option.bind_congr fun inner _ => ?_
      exact at?_dropNested_other other rest inner
  · refine at?_changeAlong_of_apart (fun front ends => ⟨fun within => ?_, notBefore front ends⟩) value
    exact beyond ⟨front, ends, within⟩

/-! ## The two ways of normalizing -/

/-- The way to the types nested in the primary type. -/
def primaryWay : List Way :=
  [.member primaryKey, .member nestedKey, .items]

/-- The way to the types nested in the other types. -/
def siblingWay : List Way :=
  [.member siblingsKey, .items, .member nestedKey, .items]

/-- The place of a type that is nested in a type of a document. -/
inductive IsNested : List Stop → Prop where
  | primary (index : Nat) :
    IsNested [.member primaryKey, .member nestedKey, .item index]
  | sibling (number index : Nat) :
    IsNested [.member siblingsKey, .item number, .member nestedKey, .item index]

theorem isNested_iff : IsNested place ↔ Ends primaryWay place ∨ Ends siblingWay place := by
  constructor
  · rintro (⟨index⟩ | ⟨number, index⟩)
    · exact .inl (.cons (.member _) (.cons (.member _) (.cons (.item _) .nil)))
    · exact .inr (.cons (.member _) (.cons (.item _) (.cons (.member _) (.cons (.item _) .nil))))
  · rintro (ends | ends)
    · cases ends with | cons first ends =>
      cases ends with | cons second ends =>
      cases ends with | cons third ends =>
      cases ends
      cases first
      cases second
      cases third
      exact .primary _
    · cases ends with | cons first ends =>
      cases ends with | cons second ends =>
      cases ends with | cons third ends =>
      cases ends with | cons fourth ends =>
      cases ends
      cases first
      cases second
      cases third
      cases fourth
      exact .sibling _ _

theorem normalize_eq_changeAlong (document : Document) :
    Json.object (normalize document) =
      changeAlong dropNested siblingWay
        (changeAlong dropNested primaryWay (.object document)) := by
  have flatten : changeAlong dropNested [.member nestedKey, .items] = flattenType := by
    funext type
    cases type <;> rfl
  have each : changeAlong dropNested [.items, .member nestedKey, .items] =
      changeItems flattenType := by
    rw [← flatten]
    rfl
  rw [siblingWay, changeAlong, each, primaryWay, changeAlong, flatten]
  rfl

/-- The place is under a nested type, where its own nested types are. -/
def IsDropped (place : List Stop) : Prop :=
  ∃ nested, IsNested nested ∧ nested ++ [.member nestedKey] <+: place

/-- The result is the document without the nested types of its nested types: there is nothing at
their places, the nested types are without the key, what is around them has the same shape, and
everywhere else is the same value. -/
structure Flattened (document result : Document) : Prop where
  dropped : ∀ place, IsDropped place → at? place (.object result) = none
  nested : ∀ place, IsNested place →
    (at? place (.object result)).map shape =
      (at? place (.object document)).map fun type => (shape type).without nestedKey
  around : ∀ place nested, IsNested nested → place <+: nested → place ≠ nested →
    (at? place (.object result)).map shape = (at? place (.object document)).map shape
  elsewhere : ∀ place, ¬IsDropped place → (∀ nested, IsNested nested → ¬place <+: nested) →
    at? place (.object result) = at? place (.object document)

/-- What is beyond the end of one way is neither before nor beyond the end of another, if they start
at different members. -/
theorem apart_of_ends {key other : String} {otherWays : List Way} {front : List Stop}
    (differ : key ≠ other) (ends : Ends (.member key :: ways) place)
    (otherEnds : Ends (.member other :: otherWays) front) (rest : List Stop) :
    ¬front <+: place ++ rest ∧ ¬place ++ rest <+: front := by
  cases ends with | cons first _ =>
  cases otherEnds with | cons otherFirst _ =>
  cases first
  cases otherFirst
  constructor <;> intro within
  · obtain ⟨same, -⟩ := List.cons_prefix_cons.1 within
    cases same
    exact differ rfl
  · obtain ⟨same, -⟩ := List.cons_prefix_cons.1 within
    cases same
    exact differ rfl

/-- A nested type is changed once, on the way that leads to it. -/
theorem at?_normalize_of_nested (nested : IsNested place) (rest : List Stop)
    (document : Document) :
    at? (place ++ rest) (.object (normalize document)) =
      (at? place (.object document)).bind fun inner => at? rest (dropNested inner) := by
  have differ : primaryKey ≠ siblingsKey := by decide
  rw [normalize_eq_changeAlong]
  rcases isNested_iff.1 nested with primary | sibling
  · have off (front : List Stop) (ends : Ends siblingWay front) :=
      apart_of_ends differ primary ends rest
    rw [at?_changeAlong_of_apart off]
    exact at?_changeAlong_of_ends primary rest _
  · have off (front : List Stop) (ends : Ends primaryWay front) :=
      apart_of_ends differ.symm sibling ends []
    rw [List.append_nil] at off
    rw [at?_changeAlong_of_ends sibling, at?_changeAlong_of_apart off]

/-- A nested type of a type is not inside another one. -/
theorem IsNested.eq_of_prefix {front : List Stop} (nested : IsNested place)
    (other : IsNested front) (within : front <+: place) : front = place := by
  rcases nested with ⟨index⟩ | ⟨number, index⟩
  · rcases other with ⟨index'⟩ | ⟨number', index'⟩
    · exact within.eq_of_length rfl
    · simp [primaryKey, siblingsKey] at within
  · rcases other with ⟨index'⟩ | ⟨number', index'⟩
    · simp [primaryKey, siblingsKey] at within
    · exact within.eq_of_length rfl

theorem flattened_normalize (document : Document) :
    Flattened document (normalize document) where
  dropped := by
    rintro - ⟨nested, isNested, rest, rfl⟩
    rw [List.append_assoc, at?_normalize_of_nested isNested]
    refine Option.bind_eq_none_iff.2 fun inner _ => ?_
    exact at?_dropNested_nested rest inner
  nested := by
    intro place isNested
    have changed := at?_normalize_of_nested isNested [] document
    rw [List.append_nil] at changed
    rw [changed]
    cases at? place (.object document) with
    | none => rfl
    | some inner => exact congrArg some (shape_dropNested inner)
  around := by
    intro place nested isNested within proper
    -- An end of either way that is no further than the place would be the nested type itself.
    have short (front : List Stop) (other : IsNested front) : ¬front <+: place := by
      intro before
      have same : front = nested := isNested.eq_of_prefix other (before.trans within)
      subst same
      exact proper (within.eq_of_length_le before.length_le)
    rw [normalize_eq_changeAlong]
    rw [shape_at?_changeAlong fun front ends => short front (isNested_iff.2 (.inr ends))]
    exact shape_at?_changeAlong (fun front ends => short front (isNested_iff.2 (.inl ends))) _
  elsewhere := by
    intro place kept notBefore
    have notUnder (front : List Stop) (nested : IsNested front) :
        ¬front ++ [.member nestedKey] <+: place := fun under => kept ⟨front, nested, under⟩
    rw [normalize_eq_changeAlong]
    rw [at?_dropAlong (fun front ends => notBefore front (isNested_iff.2 (.inr ends)))
      fun front ends => notUnder front (isNested_iff.2 (.inr ends))]
    exact at?_dropAlong (fun front ends => notBefore front (isNested_iff.2 (.inl ends)))
      (fun front ends => notUnder front (isNested_iff.2 (.inl ends))) _

/-! ## Documents that stay as they are -/

theorem dropNested_eq_self {nested : Json} (without : hasNested nested = false) :
    dropNested nested = nested := by
  cases nested with
  | object members =>
    refine congrArg Json.object (List.filter_eq_self.2 fun member within => ?_)
    have other := List.any_eq_false.1 without member within
    simpa using other
  | _ => rfl

theorem changeMember_eq_self {key : String} {members : Json.Members}
    (same : ∀ member ∈ members, member.1 = key → change member.2 = member.2) :
    changeMember key change members = members := by
  refine (List.map_congr_left fun member within => ?_).trans (List.map_id members)
  by_cases changed : member.1 = key
  · rw [if_pos changed, same member within changed]
    rfl
  · rw [if_neg changed]
    rfl

theorem changeItems_eq_self {value : Json} (same : ∀ item ∈ itemsOf value, change item = item) :
    changeItems change value = value := by
  cases value with
  | array items =>
    exact congrArg Json.array ((List.map_congr_left same).trans (List.map_id items))
  | _ => rfl

theorem flattenType_eq_self {type : Json}
    (without : ∀ nested ∈ nestedTypes type, hasNested nested = false) :
    flattenType type = type := by
  cases type with
  | object members =>
    refine congrArg Json.object (changeMember_eq_self fun member within named => ?_)
    refine changeItems_eq_self fun nested listed => dropNested_eq_self (without nested ?_)
    exact List.mem_flatMap.2 ⟨member, within, by rwa [if_pos named]⟩
  | _ => rfl

/-- A normal document stays as it is. -/
theorem normalize_eq_self {document : Document} (normal : document.IsNormal) :
    normalize document = document := by
  have flat (type : Json) (member : String × Json) (within : member ∈ document)
      (described : type ∈ typesOf member) : flattenType type = type :=
    flattenType_eq_self (normal type (List.mem_flatMap.2 ⟨member, within, described⟩))
  have primary : changeMember primaryKey flattenType document = document := by
    refine changeMember_eq_self fun member within named => flat member.2 member within ?_
    rw [typesOf, if_pos named]
    exact List.mem_singleton_self _
  rw [normalize, primary]
  refine changeMember_eq_self fun member within named => changeItems_eq_self fun type listed => ?_
  refine flat type member within ?_
  have apart : ¬member.1 = primaryKey := by
    rw [named]
    decide
  rwa [typesOf, if_neg apart, if_pos named]

/-- **Normalizing a document drops the nested types of its nested types and nothing else.** The
result is normal, the rest of the document stays, a second time changes nothing, and exactly the
normal documents stay as they are. -/
theorem normalize_frame (document : Document) :
    (normalize document).IsNormal ∧ Flattened document (normalize document) ∧
      normalize (normalize document) = normalize document ∧
      (normalize document = document ↔ document.IsNormal) := by
  have normal := isNormal_normalize document
  refine ⟨normal, flattened_normalize document, normalize_eq_self normal, fun same => ?_,
    normalize_eq_self⟩
  rw [← same]
  exact normal

example : normalize
      [("class", .object [("innerclasses",
        .array [.object [("innerclasses", .array []), ("name", .string "Inner")], .null])])] =
    [("class", .object [("innerclasses", .array [.object [("name", .string "Inner")], .null])])] :=
  rfl

end Document

end SourceIndex
