import Mathlib.Data.List.DropRight
import SourceIndex.Text.Lines

/-!
# Texts without their ends

What is dropped at an end of a text is all of one kind, and what is left does not end with that kind
(`Text.dropEndWhile_cut`, `Text.dropEndWhile_eq_self`).

Main statements: a text is what is left of it when it is trimmed, with blanks around it
(`Text.trim_cut`), and blanks around a text do not count (`Text.trim_append`), so a text with solid
ends is left whole by trimming (`Text.trim_eq_self`).
-/

set_option autoImplicit false

namespace SourceIndex.Text

variable {test : Char → Bool} {text ending : List Char}

/-! ## One end -/

theorem dropEndWhile_append (all : ∀ character ∈ ending, test character = true) :
    dropEndWhile test (text ++ ending) = dropEndWhile test text := by
  rw [dropEndWhile, List.reverse_append, List.dropWhile_append_of_pos
    (fun character within => all character (List.mem_reverse.1 within)), dropEndWhile]

theorem dropEndWhile_eq_self :
    dropEndWhile test text = text ↔ ∀ last ∈ text.getLast?, test last = false := by
  rw [show dropEndWhile test text = List.rdropWhile test text from rfl,
    List.rdropWhile_eq_self_iff]
  constructor
  · intro kept last isLast
    obtain ⟨filled, rfl⟩ := List.mem_getLast?_eq_getLast isLast
    exact Bool.eq_false_iff.2 (kept filled)
  · exact fun kept filled => Bool.eq_false_iff.1
      (kept _ (List.getLast?_eq_some_getLast filled))

theorem dropEndWhile_isPrefix : dropEndWhile test text <+: text :=
  List.rdropWhile_prefix test text

/-- What is dropped at the end, and what stays before it. -/
theorem dropEndWhile_cut (test : Char → Bool) (text : List Char) :
    ∃ dropped, text = dropEndWhile test text ++ dropped ∧
      ∀ character ∈ dropped, test character = true := by
  refine ⟨List.rtakeWhile test text, (List.rdropWhile_append_rtakeWhile).symm, ?_⟩
  exact fun character within => List.mem_rtakeWhile_imp within

theorem dropEnding_append : dropEnding ending (text ++ ending) = text := by
  rw [dropEnding, List.isSuffixOf?_eq_some_iff_append_eq.2 rfl]

theorem dropEnding_of_not_suffix (other : ¬ending <:+ text) : dropEnding ending text = text := by
  rw [dropEnding]
  split
  · next start cut => exact absurd ⟨start, List.isSuffixOf?_eq_some_iff_append_eq.1 cut⟩ other
  · rfl

theorem dropEnding_eq_self (filled : ending ≠ []) :
    dropEnding ending text = text ↔ ¬ending <:+ text := by
  constructor
  · rintro kept ⟨stem, rfl⟩
    rw [dropEnding_append] at kept
    exact filled (by simpa using congrArg List.length kept)
  · exact dropEnding_of_not_suffix

theorem dropEnding_isPrefix : dropEnding ending text <+: text := by
  rw [dropEnding]
  split
  · next start cut => exact ⟨ending, List.isSuffixOf?_eq_some_iff_append_eq.1 cut⟩
  · exact List.prefix_rfl

/-! ## Both ends -/

/-- All characters of a text are blank. -/
def AllBlank (text : List Char) : Prop :=
  ∀ character ∈ text, isBlank character = true

/-- A text neither starts nor ends with a blank. -/
structure HasSolidEnds (text : List Char) : Prop where
  first : ∀ character ∈ text.head?, isBlank character = false
  last : ∀ character ∈ text.getLast?, isBlank character = false

-- Characters are a finite type: an instance for the quantifier may try all of them.
instance : DecidablePred AllBlank := fun text =>
  decidable_of_iff (text.all isBlank = true) List.all_eq_true

theorem AllBlank.append {lead trail : List Char} (leading : AllBlank lead)
    (trailing : AllBlank trail) : AllBlank (lead ++ trail) :=
  List.forall_mem_append.2 ⟨leading, trailing⟩

theorem trimStart_eq_nil_iff : trimStart text = [] ↔ AllBlank text :=
  List.dropWhile_eq_nil_iff

theorem trim_append_left {lead : List Char} (leading : AllBlank lead) (text : List Char) :
    trim (lead ++ text) = trim text := by
  rw [trim, trimStart, List.dropWhile_append_of_pos leading, trim, trimStart]

theorem trim_append_right {trail : List Char} (trailing : AllBlank trail) (text : List Char) :
    trim (text ++ trail) = trim text := by
  rw [trim, trim]
  by_cases blank : AllBlank text
  · rw [trimStart_eq_nil_iff.2 blank, trimStart_eq_nil_iff.2 (blank.append trailing)]
  · have filled : (text.dropWhile isBlank).isEmpty = false :=
      List.isEmpty_eq_false_iff.2 (mt trimStart_eq_nil_iff.1 blank)
    have kept : trimStart (text ++ trail) = trimStart text ++ trail := by
      rw [trimStart, List.dropWhile_append, filled]
      rfl
    rw [kept, dropEndWhile_append trailing]

/-- **Blanks around a text do not count.** -/
theorem trim_append {lead trail : List Char} (leading : AllBlank lead)
    (trailing : AllBlank trail) (text : List Char) : trim (lead ++ text ++ trail) = trim text := by
  rw [trim_append_right trailing, trim_append_left leading]

/-- What is dropped around a text, and what stays between. -/
theorem trim_cut (text : List Char) :
    ∃ lead trail, AllBlank lead ∧ AllBlank trail ∧ text = lead ++ trim text ++ trail := by
  obtain ⟨trail, ended, trailing⟩ := dropEndWhile_cut isBlank (trimStart text)
  refine ⟨text.takeWhile isBlank, trail, fun _ within => List.mem_takeWhile_imp within, trailing, ?_⟩
  rw [List.append_assoc, trim, ← ended]
  exact List.takeWhile_append_dropWhile.symm

theorem trim_eq_self (solid : HasSolidEnds text) : trim text = text := by
  have started : trimStart text = text := by
    cases text with
    | nil => rfl
    | cons first rest => exact List.dropWhile_cons_of_neg (by simp [solid.first first rfl])
  rw [trim, started]
  exact dropEndWhile_eq_self.2 solid.last

/-- A text that does not start with a blank starts with the same character when it is trimmed. -/
theorem head?_trim_cons {first : Char} (solid : isBlank first = false) (rest : List Char) :
    (trim (first :: rest)).head? = some first := by
  have started : trimStart (first :: rest) = first :: rest :=
    List.dropWhile_cons_of_neg (by simp [solid])
  obtain ⟨dropped, ended, blank⟩ := dropEndWhile_cut isBlank (first :: rest)
  rw [trim, started]
  cases kept : dropEndWhile isBlank (first :: rest) with
  | nil =>
    rw [kept, List.nil_append] at ended
    have dark := blank first (ended ▸ List.mem_cons_self)
    rw [solid] at dark
    cases dark
  | cons character more =>
    rw [kept, List.cons_append] at ended
    rw [(List.cons.inj ended).1]
    rfl

/-- What is left of a text has solid ends. -/
theorem hasSolidEnds_trim (text : List Char) : HasSolidEnds (trim text) where
  first := by
    intro character isFirst
    obtain ⟨dropped, ended, -⟩ := dropEndWhile_cut isBlank (trimStart text)
    have first : (trimStart text).head? = some character := by
      rw [ended, List.head?_append, show (dropEndWhile isBlank _).head? = _ from isFirst]
      rfl
    have solid := List.head?_dropWhile_not isBlank text
    rw [show text.dropWhile isBlank = trimStart text from rfl, first] at solid
    exact solid
  last := dropEndWhile_eq_self.1 (List.rdropWhile_idempotent isBlank (trimStart text))

end SourceIndex.Text
