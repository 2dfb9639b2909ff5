import Mathlib.Data.List.Induction
import SourceIndex.Json.Reader

/-!
# Values in canonical form

A value is in canonical form within a depth if it nests no deeper and each of its objects lists its
members in the order of their keys, each key once (`Json.Canonical`). Such an object is the one
built from its own members (`Json.ofMembers_of_ascending`), so nothing is lost when it is written
out and built anew.

Main statement: every value that is read is in canonical form within the depth that a text may have
(`Json.canonical_of_parse?`).
-/

set_option autoImplicit false

namespace SourceIndex.Json

/-! ## The order of keys -/

/-- The first key comes before the second. -/
def Precedes (first second : String) : Prop :=
  Text.ordered first second = true ∧ first ≠ second

instance (first second : String) : Decidable (Precedes first second) :=
  inferInstanceAs (Decidable (Text.ordered first second = true ∧ first ≠ second))

theorem Precedes.trans {first second third : String} (earlier : Precedes first second)
    (later : Precedes second third) : Precedes first third := by
  refine ⟨Text.atMost_trans earlier.1 later.1, ?_⟩
  rintro rfl
  exact earlier.2 (String.toList_inj.1 (Text.eq_of_atMost earlier.1 later.1))

theorem Precedes.not_ordered {first second : String} (before : Precedes first second) :
    ¬Text.ordered second first = true := fun back =>
  before.2 (String.toList_inj.1 (Text.eq_of_atMost before.1 back))

theorem precedes_of_not_ordered {first second : String}
    (after : ¬Text.ordered second first = true) : Precedes first second := by
  refine ⟨?_, ?_⟩
  · rcases Bool.or_eq_true_iff.1 (Text.atMost_total first.toList second.toList) with early | late
    · exact early
    · exact absurd late after
  · rintro rfl
    exact after ((Bool.or_self _).symm.trans (Text.atMost_total first.toList first.toList))

/-- The members stand in the order of their keys, each key once. -/
def Ascending (members : Members) : Prop :=
  members.Pairwise fun first second => Precedes first.1 second.1

instance (members : Members) : Decidable (Ascending members) :=
  inferInstanceAs (Decidable (members.Pairwise fun first second => Precedes first.1 second.1))

/-! ## Objects as they are built -/

section

variable {key : String} {value : Json} {members : Members}

theorem mem_of_mem_insertMember {member : String × Json}
    (within : member ∈ insertMember key value members) :
    member = (key, value) ∨ member ∈ members := by
  induction members with
  | nil => exact .inl (List.mem_singleton.1 within)
  | cons head rest ih =>
    rw [insertMember] at within
    split at within
    · rcases List.mem_cons.1 within with new | old
      · exact .inl new
      · exact .inr (List.mem_cons_of_mem _ old)
    · split at within
      · exact List.mem_cons.1 within
      · rcases List.mem_cons.1 within with rfl | later
        · exact .inr List.mem_cons_self
        · exact (ih later).imp_right (List.mem_cons_of_mem _)

theorem ascending_insertMember (ascending : Ascending members) :
    Ascending (insertMember key value members) := by
  induction members with
  | nil => exact List.pairwise_singleton _ _
  | cons head rest ih =>
    obtain ⟨first, others⟩ := List.pairwise_cons.1 ascending
    rw [insertMember]
    split
    · next same => exact List.pairwise_cons.2 ⟨same ▸ first, others⟩
    · next other =>
      split
      · next before =>
        have least : Precedes key head.1 := ⟨before, fun equal => other equal.symm⟩
        refine List.pairwise_cons.2 ⟨fun member within => ?_, ascending⟩
        rcases List.mem_cons.1 within with rfl | later
        · exact least
        · exact least.trans (first member later)
      · next after =>
        refine List.pairwise_cons.2 ⟨fun member within => ?_, ih others⟩
        rcases mem_of_mem_insertMember within with rfl | old
        · exact precedes_of_not_ordered after
        · exact first member old

/-- A member whose key comes after all others goes to the end. -/
theorem insertMember_of_last (last : ∀ member ∈ members, Precedes member.1 key) :
    insertMember key value members = members ++ [(key, value)] := by
  induction members with
  | nil => rfl
  | cons head rest ih =>
    obtain ⟨first, others⟩ := List.forall_mem_cons.1 last
    rw [insertMember, if_neg first.2, if_neg first.not_ordered, ih others, List.cons_append]

theorem ofMembers_concat (members : Members) (member : String × Json) :
    ofMembers (members ++ [member]) = insertMember member.1 member.2 (ofMembers members) :=
  List.foldl_append

theorem mem_of_mem_ofMembers {member : String × Json} (within : member ∈ ofMembers members) :
    member ∈ members := by
  induction members using List.reverseRecOn with
  | nil => exact within
  | append_singleton earlier last ih =>
    rw [ofMembers_concat] at within
    rcases mem_of_mem_insertMember within with rfl | old
    · exact List.mem_append_right _ (List.mem_singleton_self _)
    · exact List.mem_append_left _ (ih old)

theorem ascending_ofMembers (members : Members) : Ascending (ofMembers members) := by
  induction members using List.reverseRecOn with
  | nil => exact List.Pairwise.nil
  | append_singleton earlier last ih =>
    rw [ofMembers_concat]
    exact ascending_insertMember ih

/-- An object that is built from members in order has just these members. -/
theorem ofMembers_of_ascending (ascending : Ascending members) : ofMembers members = members := by
  induction members using List.reverseRecOn with
  | nil => rfl
  | append_singleton earlier last ih =>
    obtain ⟨front, -, ends⟩ := List.pairwise_append.1 ascending
    rw [ofMembers_concat, ih front]
    exact insertMember_of_last fun member within => ends member within last List.mem_cons_self

end

/-! ## Canonical form -/

/-- The value nests at most `depth` levels deep, and each of its objects lists its members in the
order of their keys, each key once. -/
inductive Canonical : Nat → Json → Prop where
  | null {depth : Nat} : Canonical depth .null
  | bool {depth : Nat} {value : Bool} : Canonical depth (.bool value)
  | number {depth : Nat} {value : Number} : Canonical depth (.number value)
  | string {depth : Nat} {text : String} : Canonical depth (.string text)
  | array {depth : Nat} {items : List Json} (each : ∀ item ∈ items, Canonical depth item) :
    Canonical (depth + 1) (.array items)
  | object {depth : Nat} {members : Members} (ascending : Ascending members)
      (each : ∀ member ∈ members, Canonical depth member.2) :
    Canonical (depth + 1) (.object members)

namespace Canonical

theorem succ {depth : Nat} {value : Json} (canonical : Canonical depth value) :
    Canonical (depth + 1) value := by
  induction canonical with
  | null => exact .null
  | bool => exact .bool
  | number => exact .number
  | string => exact .string
  | array each ih => exact .array ih
  | object ascending each ih => exact .object ascending ih

/-- What an object is built from may come in any order. -/
theorem ofList {depth : Nat} {members : Members}
    (each : ∀ member ∈ members, Canonical depth member.2) :
    Canonical (depth + 1) (Json.ofList members) :=
  .object (ascending_ofMembers members) fun member within =>
    each member (mem_of_mem_ofMembers within)

end Canonical

/-! ## Values that are read -/

/-- What the readers find with this much fuel is in canonical form. -/
structure ReadsCanonical (fuel : Nat) : Prop where
  value {depth : Nat} {text rest : List Char} {value : Json}
    (read : readValue fuel depth text = some (value, rest)) : Canonical depth value
  items {depth : Nat} {text rest : List Char} {items : List Json}
    (read : readItems fuel depth text = some (items, rest)) : ∀ item ∈ items, Canonical depth item
  members {depth : Nat} {text rest : List Char} {members : Members}
    (read : readMembers fuel depth text = some (members, rest)) :
    ∀ member ∈ members, Canonical depth member.2

namespace ReadsCanonical

variable {fuel depth : Nat} {text rest : List Char} (less : ReadsCanonical fuel)
include less

theorem value_succ {value : Json} (read : readValue (fuel + 1) depth text = some (value, rest)) :
    Canonical depth value := by
  rw [readValue] at read
  split at read
  · cases read
    exact .null
  · cases read
    exact .bool
  · cases read
    exact .bool
  · split at read
    · cases read
    · cases read
      exact .string
  · cases depth with
    | zero => cases read
    | succ inner =>
      dsimp only at read
      split at read
      · cases read
        exact .array fun _ within => absurd within List.not_mem_nil
      · split at read
        · cases read
        · next found =>
          cases read
          exact .array (less.items found)
  · cases depth with
    | zero => cases read
    | succ inner =>
      dsimp only at read
      split at read
      · cases read
        exact .object List.Pairwise.nil fun _ within => absurd within List.not_mem_nil
      · split at read
        · cases read
        · next found =>
          cases read
          exact .ofList (less.members found)
  · split at read
    · cases read
    · cases read
      exact .number

theorem items_succ {items : List Json}
    (read : readItems (fuel + 1) depth text = some (items, rest)) :
    ∀ item ∈ items, Canonical depth item := by
  rw [readItems] at read
  split at read
  · cases read
  · next first =>
    split at read
    · cases read
      exact List.forall_mem_singleton.2 (less.value first)
    · split at read
      · cases read
      · next others =>
        cases read
        exact List.forall_mem_cons.2 ⟨less.value first, less.items others⟩
    · cases read

theorem members_succ {members : Members}
    (read : readMembers (fuel + 1) depth text = some (members, rest)) :
    ∀ member ∈ members, Canonical depth member.2 := by
  rw [readMembers] at read
  split at read
  · split at read
    · cases read
    · split at read
      · split at read
        · cases read
        · next first =>
          split at read
          · cases read
            exact List.forall_mem_singleton.2 (less.value first)
          · split at read
            · cases read
            · next others =>
              cases read
              exact List.forall_mem_cons.2 ⟨less.value first, less.members others⟩
          · cases read
      · cases read
  · cases read

end ReadsCanonical

theorem readsCanonical (fuel : Nat) : ReadsCanonical fuel := by
  induction fuel with
  | zero =>
    refine ⟨fun read => ?_, fun read => ?_, fun read => ?_⟩
    · rw [readValue] at read
      cases read
    · rw [readItems] at read
      cases read
    · rw [readMembers] at read
      cases read
  | succ fuel less => exact ⟨less.value_succ, less.items_succ, less.members_succ⟩

/-- **A value that is read is in canonical form within the depth that a text may have.** -/
theorem canonical_of_parse? {text : String} {value : Json} (parsed : parse? text = some value) :
    Canonical depthLimit value := by
  unfold parse? at parsed
  dsimp only at parsed
  split at parsed
  · cases parsed
  · next read =>
    split at parsed
    · cases parsed
      exact (readsCanonical _).value read
    · cases parsed

end SourceIndex.Json
