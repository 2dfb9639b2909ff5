import SourceIndex.Json.Printer
import SourceIndex.Proofs.Json.Canonical
import SourceIndex.Proofs.Json.Numerals

/-!
# Reading back what was written

The compact form of a value is read as the value again, if the value is in canonical form within the
depth that a text may have and its numbers are whole and fit 64 bits (`Json.parse?_compact`). Both
conditions are about what a text can say: an object is read with its members in order, and only such
numbers are kept exactly.

The readers take fuel. The compact form gets by with twice its length, so the fuel never runs out
(`Json.Restored`).
-/

set_option autoImplicit false

namespace SourceIndex.Json

open SourceIndex.Text (isDigit)

/-! ## The numbers of a value -/

mutual

/-- The numbers in a value. -/
def numbers : Json → List Number
  | .null | .bool _ | .string _ => []
  | .number value => [value]
  | .array items => numbersOfItems items
  | .object members => numbersOfMembers members

/-- The numbers in the items of an array. -/
def numbersOfItems : List Json → List Number
  | [] => []
  | item :: rest => numbers item ++ numbersOfItems rest

/-- The numbers in the members of an object. -/
def numbersOfMembers : List (String × Json) → List Number
  | [] => []
  | (_, value) :: rest => numbers value ++ numbersOfMembers rest

end

theorem numbers_array (items : List Json) : numbers (.array items) = items.flatMap numbers := by
  rw [numbers]
  induction items with
  | nil => rfl
  | cons item rest ih => rw [numbersOfItems, ih, List.flatMap_cons]

theorem numbers_object (members : Members) :
    numbers (.object members) = members.flatMap fun member => numbers member.2 := by
  rw [numbers]
  induction members with
  | nil => rfl
  | cons member rest ih => rw [numbersOfMembers, ih, List.flatMap_cons]

/-- All numbers of the value are whole and fit 64 bits. -/
def IsWhole (value : Json) : Prop :=
  ∀ number ∈ value.numbers, number.IsWhole

namespace IsWhole

instance (value : Json) : Decidable value.IsWhole :=
  inferInstanceAs (Decidable (∀ number ∈ value.numbers, number.IsWhole))

theorem array_iff {items : List Json} : IsWhole (.array items) ↔ ∀ item ∈ items, item.IsWhole := by
  rw [IsWhole, numbers_array]
  exact List.forall_mem_flatMap

theorem object_iff {members : Members} :
    IsWhole (.object members) ↔ ∀ member ∈ members, member.2.IsWhole := by
  rw [IsWhole, numbers_object]
  exact List.forall_mem_flatMap

end IsWhole

/-! ## Strings -/

theorem readString_shortEscape {letter character : Char}
    (short : shortEscape? letter = some character) (rest : List Char) :
    readString ('\\' :: letter :: rest) = prepend character (readString rest) := by
  have other : letter ≠ 'u' := by
    rintro rfl
    cases short
  rw [readString, short]
  · intro _ _ _ _ _ same
    exact absurd same other

theorem readString_plain {character : Char} (quote : character ≠ '"') (solidus : character ≠ '\\')
    (large : 32 ≤ character.toNat) (rest : List Char) :
    readString (character :: rest) = prepend character (readString rest) := by
  rw [readString, if_neg (Nat.not_lt.2 large)]
  · exact quote
  · intro _ _ _ _ _ same
    exact absurd same solidus
  · intro _ _ same
    exact absurd same solidus

/-- A control character is read from its code unit in four digits. -/
theorem readString_controlEscape {character : Char} (small : character.toNat < 32)
    (rest : List Char) :
    readString ('\\' :: 'u' :: '0' :: '0' :: hexDigit (character.toNat / 16) ::
      hexDigit character.toNat :: rest) = prepend character (readString rest) := by
  have units : ∀ unit < 32, codeUnit? '0' '0' (hexDigit (unit / 16)) (hexDigit unit) = some unit ∧
      isTrailing unit = false ∧ isLeading unit = false := by decide
  obtain ⟨spelled, trailing, leading⟩ := units character.toNat small
  rw [readString, spelled]
  simp only [trailing, leading, Bool.false_eq_true, if_false, Char.ofNat_toNat]

/-- A character is read from the way that it is written inside a string. -/
theorem readString_escapeChar (character : Char) (rest : List Char) :
    readString (escapeChar character ++ rest) = prepend character (readString rest) := by
  unfold escapeChar
  split
  · next quote =>
    subst quote
    exact readString_shortEscape rfl rest
  split
  · next solidus =>
    subst solidus
    exact readString_shortEscape rfl rest
  split
  · next feed =>
    subst feed
    exact readString_shortEscape rfl rest
  split
  · next carriage =>
    subst carriage
    exact readString_shortEscape rfl rest
  split
  · next tab =>
    subst tab
    exact readString_shortEscape rfl rest
  split
  · next back =>
    rw [← Char.ofNat_toNat character, back]
    exact readString_shortEscape rfl rest
  split
  · next form =>
    rw [← Char.ofNat_toNat character, form]
    exact readString_shortEscape rfl rest
  split
  · next small => exact readString_controlEscape small rest
  · next quote solidus _ _ _ _ _ large =>
    exact readString_plain quote solidus (Nat.not_lt.1 large) rest

theorem readString_escaped (text rest : List Char) :
    readString (text.flatMap escapeChar ++ '"' :: rest) = some (text, rest) := by
  induction text with
  | nil => rw [List.flatMap_nil, List.nil_append, readString]
  | cons character more ih =>
    rw [List.flatMap_cons, List.append_assoc, readString_escapeChar, ih, prepend]

theorem renderString_append (text : String) (rest : List Char) :
    renderString text ++ rest = '"' :: (text.toList.flatMap escapeChar ++ '"' :: rest) := by
  rw [renderString, List.cons_append, List.append_assoc, List.singleton_append]

/-! ## Values -/

theorem skipGaps_cons {first : Char} (visible : isGap first = false) (rest : List Char) :
    skipGaps (first :: rest) = first :: rest :=
  List.dropWhile_cons_of_neg (by simp [visible])

/-- The value is read back from its compact form with fuel for twice its length, whatever follows
that does not go on with it. -/
structure Restored (depth : Nat) (value : Json) : Prop where
  /-- The form does not look like the end of an array. -/
  starts : ∃ first more, value.render = first :: more ∧ isGap first = false ∧ first ≠ ']'
  reads {fuel : Nat} {rest : List Char} (enough : 2 * value.render.length ≤ fuel)
    (ends : EndsValue rest) : readValue fuel depth (value.render ++ rest) = some (value, rest)

theorem Restored.length_pos {depth : Nat} {value : Json} (restored : Restored depth value) :
    0 < value.render.length := by
  obtain ⟨first, more, form, -⟩ := restored.starts
  rw [form]
  exact Nat.succ_pos _

theorem endsValue_cons {character : Char} {rest : List Char}
    (mark : character = ',' ∨ character = ']' ∨ character = '\x7d') :
    EndsValue (character :: rest) := by
  rintro _ ⟨⟩
  exact mark

section

variable {fuel depth : Nat} {text more rest : List Char}

theorem readItems_last {item : Json}
    (read : readValue fuel depth text = some (item, ']' :: rest)) :
    readItems (fuel + 1) depth text = some ([item], rest) := by
  rw [readItems, read]
  rfl

theorem readItems_cons {item : Json} {items : List Json}
    (read : readValue fuel depth text = some (item, ',' :: more))
    (others : readItems fuel depth more = some (items, rest)) :
    readItems (fuel + 1) depth text = some (item :: items, rest) := by
  have comma : skipGaps (',' :: more) = ',' :: more := skipGaps_cons rfl more
  rw [readItems, read]
  simp only [comma, others]

theorem readMembers_last {key : String} {value : Json}
    (read : readValue fuel depth text = some (value, '\x7d' :: rest)) :
    readMembers (fuel + 1) depth (renderString key ++ ':' :: text) =
      some ([(key, value)], rest) := by
  have colon : skipGaps (':' :: text) = ':' :: text := skipGaps_cons rfl text
  have brace : skipGaps ('\x7d' :: rest) = '\x7d' :: rest := skipGaps_cons rfl rest
  rw [renderString_append, readMembers, skipGaps_cons rfl]
  simp only [readString_escaped, colon, read, brace, String.ofList_toList]

theorem readMembers_cons {key : String} {value : Json} {members : Members}
    (read : readValue fuel depth text = some (value, ',' :: more))
    (others : readMembers fuel depth more = some (members, rest)) :
    readMembers (fuel + 1) depth (renderString key ++ ':' :: text) =
      some ((key, value) :: members, rest) := by
  have colon : skipGaps (':' :: text) = ':' :: text := skipGaps_cons rfl text
  have comma : skipGaps (',' :: more) = ',' :: more := skipGaps_cons rfl more
  rw [renderString_append, readMembers, skipGaps_cons rfl]
  simp only [readString_escaped, colon, read, comma, others, String.ofList_toList]

/-- Items that are each read back are read back together. -/
theorem readItems_render {items : List Json} (present : items ≠ [])
    (each : ∀ item ∈ items, Restored depth item)
    (enough : 2 * (renderItems items).length ≤ fuel) :
    readItems fuel depth (renderItems items ++ rest) = some (items, rest) := by
  induction items generalizing fuel with
  | nil => exact absurd rfl present
  | cons item others ih =>
    obtain ⟨first, later⟩ := List.forall_mem_cons.1 each
    have positive := first.length_pos
    rw [renderItems, List.length_append] at enough
    rw [renderItems, List.append_assoc]
    cases fuel with
    | zero => omega
    | succ less =>
      cases others with
      | nil =>
        rw [renderMoreItems, List.length_singleton] at enough
        exact readItems_last (first.reads (by omega) (endsValue_cons (.inr (.inl rfl))))
      | cons next after =>
        rw [renderMoreItems, ← renderItems] at enough ⊢
        rw [List.length_cons] at enough
        refine readItems_cons (first.reads (by omega) (endsValue_cons (.inl rfl))) ?_
        exact ih (List.cons_ne_nil _ _) later (by omega)

/-- Members whose values are each read back are read back together. -/
theorem readMembers_render {members : Members} (present : members ≠ [])
    (each : ∀ member ∈ members, Restored depth member.2)
    (enough : 2 * (renderMembers members).length ≤ fuel) :
    readMembers fuel depth (renderMembers members ++ rest) = some (members, rest) := by
  induction members generalizing fuel with
  | nil => exact absurd rfl present
  | cons member others ih =>
    obtain ⟨key, value⟩ := member
    obtain ⟨first, later⟩ := List.forall_mem_cons.1 each
    change Restored depth value at first
    have positive := first.length_pos
    rw [renderMembers, List.length_append, List.length_cons, List.length_append] at enough
    rw [renderMembers, List.append_assoc, List.cons_append, List.append_assoc]
    cases fuel with
    | zero => omega
    | succ less =>
      cases others with
      | nil =>
        exact readMembers_last (first.reads (by omega) (endsValue_cons (.inr (.inr rfl))))
      | cons next after =>
        obtain ⟨_, _⟩ := next
        rw [renderMoreMembers, ← renderMembers] at enough ⊢
        rw [List.length_cons] at enough
        refine readMembers_cons (first.reads (by omega) (endsValue_cons (.inl rfl))) ?_
        exact ih (List.cons_ne_nil _ _) later (by omega)

end

/-! ## Values that are read back -/

/-- The first character of a number. -/
def StartsNumber (first : Char) : Prop :=
  first = '-' ∨ isDigit first = true

instance : DecidablePred StartsNumber :=
  fun first => inferInstanceAs (Decidable (first = '-' ∨ isDigit first = true))

theorem StartsNumber.ne {first other : Char} (starts : StartsNumber first)
    (unlike : ¬StartsNumber other) : first ≠ other := by
  rintro rfl
  exact unlike starts

theorem StartsNumber.isGap_eq {first : Char} (starts : StartsNumber first) :
    isGap first = false := by
  simp only [isGap, Bool.or_eq_false_iff, beq_eq_false_iff_ne]
  exact ⟨⟨⟨starts.ne (by decide), starts.ne (by decide)⟩, starts.ne (by decide)⟩,
    starts.ne (by decide)⟩

theorem exists_renderInt (value : Int) :
    ∃ first more, renderInt value = first :: more ∧ StartsNumber first := by
  rw [renderInt]
  split
  · exact ⟨_, _, rfl, .inl rfl⟩
  · obtain ⟨first, more, digits⟩ : ∃ first more, Decimal.digitChars value.natAbs = first :: more :=
      List.exists_cons_of_ne_nil Nat.toDigits_ne_nil
    exact ⟨first, more, digits, .inr (isDigit_of_mem_digitChars (digits ▸ List.mem_cons_self))⟩

namespace Restored

variable {depth : Nat}

theorem null : Restored depth .null := by
  refine ⟨⟨_, _, rfl, rfl, by decide⟩, fun {fuel rest} enough _ => ?_⟩
  cases fuel with
  | zero => cases enough
  | succ less => rfl

theorem bool {value : Bool} : Restored depth (.bool value) := by
  cases value <;>
  · refine ⟨⟨_, _, rfl, rfl, by decide⟩, fun {fuel rest} enough _ => ?_⟩
    cases fuel with
    | zero => cases enough
    | succ less => rfl

theorem string {text : String} : Restored depth (.string text) := by
  refine ⟨⟨_, _, rfl, rfl, by decide⟩, fun {fuel rest} enough _ => ?_⟩
  rw [render] at enough ⊢
  cases fuel with
  | zero => cases enough
  | succ less =>
    rw [renderString_append, readValue, skipGaps_cons rfl]
    simp only [readString_escaped, String.ofList_toList]

theorem number {value : Number} (whole : value.IsWhole) : Restored depth (.number value) := by
  cases value with
  | double value => cases whole
  | integer value =>
    obtain ⟨first, more, form, starts⟩ := exists_renderInt value
    refine ⟨⟨first, more, form, starts.isGap_eq, starts.ne (by decide)⟩,
      fun {fuel rest} enough ends => ?_⟩
    have read := readNumber_renderInt whole ends
    rw [render, renderNumber, form] at enough ⊢
    rw [form, List.cons_append] at read
    cases fuel with
    | zero => cases enough
    | succ less =>
      rw [List.cons_append, readValue, skipGaps_cons starts.isGap_eq]
      -- A number starts like no other kind of value.
      split
      iterate 6
        · next same => exact absurd (List.cons.inj same).1 (starts.ne (by decide))
      · rw [read]

theorem array {items : List Json} (each : ∀ item ∈ items, Restored depth item) :
    Restored (depth + 1) (.array items) := by
  refine ⟨⟨_, _, rfl, rfl, by decide⟩, fun {fuel rest} enough _ => ?_⟩
  rw [render, List.length_cons] at enough
  cases fuel with
  | zero => omega
  | succ less =>
    rw [render, List.cons_append, readValue, skipGaps_cons rfl]
    cases items with
    | nil => rfl
    | cons item others =>
      have read : readItems less depth (renderItems (item :: others) ++ rest) = _ :=
        readItems_render (List.cons_ne_nil item others) each (by omega)
      obtain ⟨first, more, form, visible, opens⟩ := (each item List.mem_cons_self).starts
      rw [renderItems, form, List.append_assoc, List.cons_append] at read ⊢
      simp only [skipGaps_cons visible]
      split
      · next same => exact absurd (List.cons.inj same).1 opens
      · rw [read]

theorem object {members : Members} (ascending : Ascending members)
    (each : ∀ member ∈ members, Restored depth member.2) :
    Restored (depth + 1) (.object members) := by
  refine ⟨⟨_, _, rfl, rfl, by decide⟩, fun {fuel rest} enough _ => ?_⟩
  rw [render, List.length_cons] at enough
  cases fuel with
  | zero => omega
  | succ less =>
    rw [render, List.cons_append, readValue, skipGaps_cons rfl]
    cases members with
    | nil => rfl
    | cons member others =>
      have read : readMembers less depth (renderMembers (member :: others) ++ rest) = _ :=
        readMembers_render (List.cons_ne_nil member others) each (by omega)
      obtain ⟨key, value⟩ := member
      rw [renderMembers, List.append_assoc, renderString_append] at read ⊢
      have quote : ∀ after, skipGaps ('"' :: after) = '"' :: after := skipGaps_cons rfl
      simp only [quote]
      split
      · next same => exact absurd (List.cons.inj same).1 (by decide)
      · rw [read]
        simp only [ofList, ofMembers_of_ascending ascending]

/-- **A value in canonical form whose numbers are whole is read back.** -/
theorem of_canonical {value : Json} (canonical : Canonical depth value) (whole : value.IsWhole) :
    Restored depth value := by
  induction canonical with
  | null => exact null
  | bool => exact bool
  | number => exact number (whole _ List.mem_cons_self)
  | string => exact string
  | array _ ih =>
    have wholes := IsWhole.array_iff.1 whole
    exact array fun item within => ih item within (wholes item within)
  | object ascending _ ih =>
    have wholes := IsWhole.object_iff.1 whole
    exact object ascending fun member within => ih member within (wholes member within)

end Restored

/-- **The compact form of a value is read as the value**, if the value is in canonical form within
the depth of texts and its numbers are whole. -/
theorem parse?_compact {value : Json} (canonical : Canonical depthLimit value)
    (whole : value.IsWhole) : parse? value.compact = some value := by
  have read : ∀ fuel, 2 * value.render.length ≤ fuel →
      readValue fuel depthLimit value.render = some (value, []) := by
    intro fuel enough
    have ends : EndsValue [] := fun _ first => nomatch first
    have restored := (Restored.of_canonical canonical whole).reads enough ends
    rwa [List.append_nil] at restored
  rw [parse?, compact, String.toList_ofList]
  simp only [read _ (Nat.le_add_right _ 2)]
  rfl

end SourceIndex.Json
