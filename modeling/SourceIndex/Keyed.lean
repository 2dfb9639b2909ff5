/-!
# Entries with distinct keys

A list of entries in the order they were added, no two of which have the same key. The key is
computed from the entry, so an entry can never be filed under another key than its own.

Main statements: what is found under a key after putting an entry (`find?_put`), after erasing a key
(`find?_erase`), that an entry is found under its key exactly when it is there
(`find?_eq_some_iff`), and which entries pass a test after putting one (`filter_put_of_pos`,
`filter_put_of_neg`).
-/

set_option autoImplicit false

namespace SourceIndex

/-- Entries in the order they were added, each with a key of its own. -/
structure Keyed (α : Type) (key : α → String) where
  entries : List α
  distinct : (entries.map key).Nodup

namespace Keyed

variable {α : Type} {key : α → String}

/-- Two collections with the same entries are equal. -/
theorem ext_entries {left right : Keyed α key} (same : left.entries = right.entries) :
    left = right := by
  cases left
  cases right
  cases same
  rfl

/-- No entries. -/
def empty : Keyed α key :=
  ⟨[], List.nodup_nil⟩

instance : Inhabited (Keyed α key) :=
  ⟨empty⟩

/-- The number of entries. -/
def size (collection : Keyed α key) : Nat :=
  collection.entries.length

/-- The entry under a key. -/
def find? (collection : Keyed α key) (wanted : String) : Option α :=
  collection.entries.find? fun entry => key entry == wanted

/-- There is an entry under a key. -/
def contains (collection : Keyed α key) (wanted : String) : Bool :=
  (collection.find? wanted).isSome

/-- Puts an entry in the place of the one with the same key. -/
def replaceIn (key : α → String) (entry : α) (entries : List α) : List α :=
  entries.map fun old => if key old = key entry then entry else old

/-- Replacing keeps the keys and their order. -/
theorem map_key_replaceIn (key : α → String) (entry : α) (entries : List α) :
    (replaceIn key entry entries).map key = entries.map key := by
  rw [replaceIn, List.map_map]
  refine List.map_congr_left fun old _ => ?_
  by_cases same : key old = key entry
  · simp [same]
  · simp [same]

/-- A key is found exactly when an entry has it. -/
theorem find?_eq_none_iff (collection : Keyed α key) (wanted : String) :
    collection.find? wanted = none ↔ wanted ∉ collection.entries.map key := by
  simp only [find?, List.find?_eq_none, beq_iff_eq, List.mem_map, not_exists, not_and]

/-- Puts an entry: in the place of the one with the same key, or at the end. -/
def put (collection : Keyed α key) (entry : α) : Keyed α key :=
  if there : (collection.find? (key entry)).isSome then
    ⟨replaceIn key entry collection.entries, by
      rw [map_key_replaceIn]
      exact collection.distinct⟩
  else
    ⟨collection.entries ++ [entry], by
      have absent : key entry ∉ collection.entries.map key :=
        (collection.find?_eq_none_iff _).1 (by simpa using there)
      rw [List.map_append, List.nodup_append]
      refine ⟨collection.distinct, by simp, ?_⟩
      intro old member new single equal
      rw [List.map_singleton, List.mem_singleton] at single
      exact absent (single ▸ equal ▸ member)⟩

/-- Keeps the entries that satisfy a test. -/
def filter (collection : Keyed α key) (test : α → Bool) : Keyed α key :=
  ⟨collection.entries.filter test,
    collection.distinct.sublist ((List.filter_sublist).map key)⟩

/-- Drops the entry under a key. -/
def erase (collection : Keyed α key) (unwanted : String) : Keyed α key :=
  collection.filter fun entry => key entry != unwanted

/-- Puts entries one after another. -/
def putAll (collection : Keyed α key) (entries : List α) : Keyed α key :=
  entries.foldl put collection

/-- The collection of the given entries; of several with one key the last stays. -/
def ofList (entries : List α) : Keyed α key :=
  empty.putAll entries

/-- A new entry goes to the end. -/
theorem entries_put_of_absent {collection : Keyed α key} {entry : α}
    (absent : collection.find? (key entry) = none) :
    (collection.put entry).entries = collection.entries ++ [entry] := by
  unfold put
  rw [dif_neg (by simp [absent])]

/-- An entry goes in the place of the one with its key. -/
theorem entries_put_of_found {collection : Keyed α key} {entry old : α}
    (found : collection.find? (key entry) = some old) :
    (collection.put entry).entries = replaceIn key entry collection.entries := by
  unfold put
  rw [dif_pos (by simp [found])]

/-! ## Finding -/

/-- An entry is found under a key exactly when it is there and has that key. -/
theorem find?_eq_some_iff (collection : Keyed α key) (wanted : String) (entry : α) :
    collection.find? wanted = some entry ↔ entry ∈ collection.entries ∧ key entry = wanted := by
  constructor
  · intro found
    exact ⟨List.mem_of_find?_eq_some found, by simpa using List.find?_some found⟩
  · rintro ⟨member, named⟩
    have general : ∀ entries : List α, (entries.map key).Nodup → entry ∈ entries →
        entries.find? (fun other => key other == wanted) = some entry := by
      intro entries
      induction entries with
      | nil => intro _ none; cases none
      | cons first rest ih =>
        intro distinct within
        rw [List.map_cons, List.nodup_cons] at distinct
        by_cases here : key first = wanted
        · rcases List.mem_cons.1 within with same | later
          · rw [List.find?_cons_of_pos (by simpa using here), same]
          · refine absurd (List.mem_map_of_mem (f := key) later) ?_
            rw [named, ← here]
            exact distinct.1
        · rw [List.find?_cons_of_neg (by simpa using here)]
          rcases List.mem_cons.1 within with same | later
          · exact absurd (same ▸ named) here
          · exact ih distinct.2 later
    exact general collection.entries collection.distinct member

/-- Membership after putting an entry: the entry itself, and every other with another key. -/
theorem mem_put (collection : Keyed α key) (entry other : α) :
    other ∈ (collection.put entry).entries ↔
      other = entry ∨ other ∈ collection.entries ∧ key other ≠ key entry := by
  unfold put
  split
  next there =>
    obtain ⟨stored, found⟩ := Option.isSome_iff_exists.1 there
    obtain ⟨member, named⟩ := (collection.find?_eq_some_iff _ _).1 found
    simp only [replaceIn, List.mem_map]
    constructor
    · rintro ⟨old, within, image⟩
      by_cases same : key old = key entry
      · rw [if_pos same] at image
        exact .inl image.symm
      · rw [if_neg same] at image
        exact .inr ⟨image ▸ within, image ▸ same⟩
    · rintro (same | ⟨within, apart⟩)
      · exact ⟨stored, member, by rw [if_pos named, same]⟩
      · exact ⟨other, within, if_neg apart⟩
  next absent =>
    have missing : key entry ∉ collection.entries.map key :=
      (collection.find?_eq_none_iff _).1 (by simpa using absent)
    simp only [List.mem_append, List.mem_singleton]
    constructor
    · rintro (within | same)
      · exact .inr ⟨within, fun equal => missing (equal ▸ List.mem_map_of_mem within)⟩
      · exact .inl same
    · rintro (same | ⟨within, _⟩)
      · exact .inr same
      · exact .inl within

/-- What is found after putting an entry: the entry under its key, the old entries elsewhere. -/
theorem find?_put (collection : Keyed α key) (entry : α) (wanted : String) :
    (collection.put entry).find? wanted =
      if wanted = key entry then some entry else collection.find? wanted := by
  by_cases same : wanted = key entry
  · rw [if_pos same]
    exact (find?_eq_some_iff _ _ _).2 ⟨(mem_put _ _ _).2 (.inl rfl), same.symm⟩
  · rw [if_neg same]
    cases found : collection.find? wanted with
    | some other =>
      obtain ⟨member, named⟩ := (collection.find?_eq_some_iff _ _).1 found
      exact (find?_eq_some_iff _ _ _).2
        ⟨(mem_put _ _ _).2 (.inr ⟨member, named ▸ same⟩), named⟩
    | none =>
      cases other : (collection.put entry).find? wanted with
      | none => rfl
      | some wrong =>
        obtain ⟨member, named⟩ := (find?_eq_some_iff _ _ _).1 other
        rcases (mem_put _ _ _).1 member with new | ⟨within, _⟩
        · exact absurd (new ▸ named).symm same
        · have clash := (collection.find?_eq_some_iff _ _).2 ⟨within, named⟩
          rw [found] at clash
          cases clash

/-- What is found among the entries that satisfy a test. -/
theorem find?_filter (collection : Keyed α key) (test : α → Bool) (wanted : String) :
    (collection.filter test).find? wanted = (collection.find? wanted).filter test := by
  cases found : collection.find? wanted with
  | some entry =>
    obtain ⟨member, named⟩ := (collection.find?_eq_some_iff _ _).1 found
    by_cases passes : test entry = true
    · rw [Option.filter_some_pos passes]
      exact (find?_eq_some_iff _ _ _).2 ⟨List.mem_filter.2 ⟨member, passes⟩, named⟩
    · rw [Option.filter_some_neg (by simpa using passes)]
      cases other : (collection.filter test).find? wanted with
      | none => rfl
      | some wrong =>
        obtain ⟨within, called⟩ := (find?_eq_some_iff _ _ _).1 other
        obtain ⟨inside, passed⟩ := List.mem_filter.1 within
        have clash := (collection.find?_eq_some_iff _ _).2 ⟨inside, called⟩
        rw [found] at clash
        cases clash
        exact absurd passed passes
  | none =>
    cases other : (collection.filter test).find? wanted with
    | none => rfl
    | some wrong =>
      obtain ⟨within, called⟩ := (find?_eq_some_iff _ _ _).1 other
      have clash := (collection.find?_eq_some_iff _ _).2 ⟨(List.mem_filter.1 within).1, called⟩
      rw [found] at clash
      cases clash

/-- What is found after erasing a key: nothing under it, the old entries elsewhere. -/
theorem find?_erase (collection : Keyed α key) (unwanted wanted : String) :
    (collection.erase unwanted).find? wanted =
      if wanted = unwanted then none else collection.find? wanted := by
  rw [erase, find?_filter]
  cases found : collection.find? wanted with
  | none => simp
  | some entry =>
    obtain ⟨_, named⟩ := (collection.find?_eq_some_iff _ _).1 found
    by_cases same : wanted = unwanted
    · rw [if_pos same, Option.filter_some_neg (by simp [named, same])]
    · rw [if_neg same, Option.filter_some_pos (by simp [named, same])]

/-- A key is there after putting an entry if it was there before or is the key of the entry. -/
theorem contains_put (collection : Keyed α key) (entry : α) (wanted : String) :
    (collection.put entry).contains wanted = true ↔
      wanted = key entry ∨ collection.contains wanted = true := by
  rw [contains, contains, find?_put]
  by_cases same : wanted = key entry
  · simp [same]
  · simp [same]

/-- A key is there after erasing one if it was there before and is another one. -/
theorem contains_erase (collection : Keyed α key) (unwanted wanted : String) :
    (collection.erase unwanted).contains wanted = true ↔
      wanted ≠ unwanted ∧ collection.contains wanted = true := by
  rw [contains, contains, find?_erase]
  by_cases same : wanted = unwanted
  · simp [same]
  · simp [same]

/-- Erasing the key of an entry that was new undoes putting it. -/
theorem erase_put_of_absent {collection : Keyed α key} {entry : α}
    (absent : collection.contains (key entry) = false) :
    (collection.put entry).erase (key entry) = collection := by
  have missing : collection.find? (key entry) = none :=
    Option.not_isSome_iff_eq_none.1 (by rw [← contains, absent]; exact Bool.false_ne_true)
  refine ext_entries ?_
  change (collection.put entry).entries.filter _ = _
  rw [entries_put_of_absent missing, List.filter_append, List.filter_eq_self.2]
  · simp
  · intro old member
    have apart : key old ≠ key entry := fun same =>
      (collection.find?_eq_none_iff _).1 missing (same ▸ List.mem_map_of_mem member)
    simpa using apart

/-! ## Parts of a collection -/

section

variable {collection : Keyed α key} {test : α → Bool} {entry : α}

theorem filter_comm (collection : Keyed α key) (test other : α → Bool) :
    (collection.filter test).filter other = (collection.filter other).filter test := by
  refine ext_entries ?_
  change (collection.entries.filter test).filter other = _
  rw [List.filter_filter, show ((collection.filter other).filter test).entries =
    (collection.entries.filter other).filter test from rfl, List.filter_filter]
  exact List.filter_congr fun old _ => Bool.and_comm _ _

/-- The entry with a key is the one found under it. -/
theorem test_replaced (replaced : ∀ old, collection.find? (key entry) = some old →
      test old = test entry) {old : α} (member : old ∈ collection.entries) :
    test (if key old = key entry then entry else old) = test old := by
  by_cases same : key old = key entry
  · rw [if_pos same]
    exact (replaced old ((collection.find?_eq_some_iff _ _).2 ⟨member, same⟩)).symm
  · rw [if_neg same]

/-- An entry that passes a test is put into the part that passes it. -/
theorem filter_put_of_pos (passes : test entry = true)
    (replaced : ∀ old, collection.find? (key entry) = some old → test old = true) :
    (collection.put entry).filter test = (collection.filter test).put entry := by
  refine ext_entries ?_
  change (collection.put entry).entries.filter test = _
  cases found : collection.find? (key entry) with
  | none =>
    have absent : (collection.filter test).find? (key entry) = none := by
      rw [find?_filter, found]
      rfl
    rw [entries_put_of_absent found, entries_put_of_absent absent, List.filter_append,
      List.filter_cons_of_pos passes]
    rfl
  | some old =>
    have kept : (collection.filter test).find? (key entry) = some old := by
      rw [find?_filter, found, Option.filter_some_pos (replaced old found)]
    rw [entries_put_of_found found, entries_put_of_found kept, replaceIn, List.filter_map]
    refine congrArg _ (List.filter_congr fun other member => ?_)
    exact test_replaced (fun old found => (replaced old found).trans passes.symm) member

/-- An entry that fails a test leaves the part that passes it alone. -/
theorem filter_put_of_neg (fails : test entry = false)
    (replaced : ∀ old, collection.find? (key entry) = some old → test old = false) :
    (collection.put entry).filter test = collection.filter test := by
  refine ext_entries ?_
  change (collection.put entry).entries.filter test = collection.entries.filter test
  cases found : collection.find? (key entry) with
  | none =>
    rw [entries_put_of_absent found, List.filter_append, List.filter_cons_of_neg (by simp [fails]),
      List.filter_nil, List.append_nil]
  | some old =>
    have kept : collection.entries.filter
        (test ∘ fun old => if key old = key entry then entry else old) =
          collection.entries.filter test :=
      List.filter_congr fun other member =>
        test_replaced (fun old found => (replaced old found).trans fails.symm) member
    rw [entries_put_of_found found, replaceIn, List.filter_map, kept]
    refine (List.map_congr_left fun other member => ?_).trans (List.map_id _)
    obtain ⟨there, passes⟩ := List.mem_filter.1 member
    refine if_neg fun same => ?_
    rw [replaced other ((collection.find?_eq_some_iff _ _).2 ⟨there, same⟩)] at passes
    cases passes

/-- Dropping an entry that fails a test leaves the part that passes it alone. -/
theorem filter_erase_of_neg {unwanted : String}
    (dropped : ∀ old, collection.find? unwanted = some old → test old = false) :
    (collection.erase unwanted).filter test = collection.filter test := by
  refine ext_entries ?_
  change (collection.entries.filter fun entry => key entry != unwanted).filter test =
    collection.entries.filter test
  rw [List.filter_filter]
  refine List.filter_congr fun old member => ?_
  by_cases same : key old = unwanted
  · rw [dropped old ((collection.find?_eq_some_iff _ _).2 ⟨member, same⟩), Bool.false_and]
  · rw [bne_iff_ne.2 same, Bool.and_true]

end

end Keyed

end SourceIndex
