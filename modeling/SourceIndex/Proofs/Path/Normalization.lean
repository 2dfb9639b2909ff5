import Mathlib.Logic.Relation
import SourceIndex.Proofs.Path

/-!
# Lexical normalization

A path is made absolute by its segments alone, those of the current directory first, unless it
starts at the root. A dot segment goes as `Cancels` says: a `.` on its own, a `..` together with the
segment right before it, and a `..` at the root on its own. It does not matter which goes first:
they can go from left to right until there are none (`reduces_resolve`), no step changes the place
that the segments lead to (`Cancels.resolve_eq`), and so all ways end with the same segments
(`reduces_iff`).

Main statement: the absolute form of a path has the segments that are left without dot segments, is
its own absolute form, and can stand in for the path before any other one (`absolute?_normalizes`).
-/

set_option autoImplicit false

namespace SourceIndex.Path

/-! ## Segments that go -/

/-- One dot segment goes. -/
inductive Cancels : List (List Char) → List (List Char) → Prop where
  /-- A `.` goes on its own. -/
  | stay (before after : List (List Char)) :
      Cancels (before ++ ['.'] :: after) (before ++ after)
  /-- A `..` goes together with the segment right before it. -/
  | climb (before : List (List Char)) {segment : List Char} (plain : Clean [segment])
      (after : List (List Char)) :
      Cancels (before ++ segment :: ['.', '.'] :: after) (before ++ after)
  /-- There is nothing above the root. -/
  | root (after : List (List Char)) : Cancels (['.', '.'] :: after) after

/-- Any number of dot segments go, one after another. -/
abbrev Reduces : List (List Char) → List (List Char) → Prop :=
  Relation.ReflTransGen Cancels

theorem resolve_stay (start after : List (List Char)) :
    resolve start (['.'] :: after) = resolve start after :=
  if_pos rfl

theorem resolve_climb (start after : List (List Char)) :
    resolve start (['.', '.'] :: after) = resolve start.dropLast after :=
  if_neg (by decide)

theorem resolve_plain {segment : List Char} (plain : Clean [segment])
    (start after : List (List Char)) :
    resolve start (segment :: after) = resolve (start ++ [segment]) after := by
  rw [← List.singleton_append, resolve_append, resolve_of_clean plain]

theorem clean_append_iff {first second : List (List Char)} :
    Clean (first ++ second) ↔ Clean first ∧ Clean second :=
  List.forall_mem_append

/-- A step keeps the place below the root that the segments lead to. -/
theorem Cancels.resolve_eq {steps rest : List (List Char)} (cancels : Cancels steps rest) :
    resolve [] steps = resolve [] rest := by
  cases cancels with
  | stay before after =>
    rw [resolve_append, resolve_append, resolve_stay]
  | climb before plain after =>
    rw [resolve_append, resolve_append, resolve_plain plain, resolve_climb, List.dropLast_concat]
  | root after =>
    rw [resolve_climb]
    rfl

theorem Reduces.resolve_eq {steps rest : List (List Char)} (reduces : Reduces steps rest) :
    resolve [] steps = resolve [] rest := by
  induction reduces with
  | refl => rfl
  | tail _ cancels ih => exact ih.trans cancels.resolve_eq

/-- After a clean start, dot segments can go from left to right until none is left. -/
theorem reduces_resolve {start : List (List Char)} (clean : Clean start)
    (steps : List (List Char)) : Reduces (start ++ steps) (resolve start steps) := by
  induction steps generalizing start with
  | nil =>
    rw [List.append_nil]
    exact .refl
  | cons segment rest ih =>
    by_cases stays : segment = ['.']
    · subst stays
      rw [resolve_stay]
      exact .head (.stay start rest) (ih clean)
    by_cases climbs : segment = ['.', '.']
    · subst climbs
      rw [resolve_climb]
      -- What the `..` takes with it is the end of the start, if that is not the root.
      cases start using List.reverseRecOn with
      | nil => exact .head (.root rest) (ih clean)
      | append_singleton front last =>
        obtain ⟨kept, plain⟩ := clean_append_iff.1 clean
        rw [List.dropLast_concat, List.append_assoc]
        exact .head (.climb front plain rest) (ih kept)
    · have plain : Clean [segment] := List.forall_mem_singleton.2 ⟨stays, climbs⟩
      have longer := ih (clean_append_iff.2 ⟨clean, plain⟩)
      rw [List.append_assoc, List.singleton_append] at longer
      rwa [resolve_plain plain]

/-- **However the dot segments go, the same segments are left.** -/
theorem reduces_iff {steps place : List (List Char)} (clean : Clean place) :
    Reduces steps place ↔ resolve [] steps = place := by
  constructor
  · intro reduces
    rw [reduces.resolve_eq, resolve_of_clean clean]
    rfl
  · rintro rfl
    exact reduces_resolve clean_nil steps

/-! ## Absolute forms -/

/-- A path leads from the root where it leads from the current directory, once the two are
joined. -/
theorem resolved_eq_resolve_join (current path : String) :
    resolved current path = resolve [] (segments (join current path).toList) := by
  rw [resolved]
  cases absolute : isAbsolute path with
  | true => rw [join_of_isAbsolute absolute, if_pos rfl]
  | false => rw [segments_join absolute, resolve_append, if_neg Bool.false_ne_true]

theorem mem_segments_join {base path : String} {segment : List Char}
    (within : segment ∈ segments (join base path).toList) :
    segment ∈ segments path.toList ∨ segment ∈ segments base.toList := by
  cases absolute : isAbsolute path with
  | true =>
    rw [join_of_isAbsolute absolute] at within
    exact .inl within
  | false =>
    rw [segments_join absolute] at within
    exact (List.mem_append.1 within).symm

/-- Normalizing brings in no segment. -/
theorem mem_resolved {current path : String} {segment : List Char}
    (within : segment ∈ resolved current path) :
    segment ∈ segments path.toList ∨ segment ∈ segments current.toList := by
  rw [resolved_eq_resolve_join] at within
  apply mem_segments_join
  exact forall_resolve (List.forall_mem_nil _) (fun _ inside => inside) segment within

/-- An absolute form leads from everywhere to where the path leads. -/
theorem resolved_of_absolute? {current path form : String}
    (formed : absolute? current path = some form) (elsewhere : String) :
    resolved elsewhere form = resolved current path := by
  rw [(isNormal_of_absolute? formed).resolved_eq, segments_of_absolute? formed]

theorem ne_empty_of_absolute? {current path form : String}
    (formed : absolute? current path = some form) : form ≠ "" := by
  rintro rfl
  exact absurd (isAbsolute_of_absolute? formed) (by decide)

/-- An absolute form is its own absolute form, from everywhere. -/
theorem absolute?_of_absolute? {current path form : String}
    (formed : absolute? current path = some form) (elsewhere : String) :
    absolute? elsewhere form = some form := by
  obtain ⟨-, spelled⟩ := absolute?_eq_some_iff.1 formed
  rw [← resolved_of_absolute? formed elsewhere] at spelled
  exact absolute?_eq_some_iff.2 ⟨ne_empty_of_absolute? formed, spelled⟩

/-- Paths that lead to the same place do so before any other path. -/
theorem resolved_join_congr {current base form : String}
    (same : resolved current base = resolved current form) (next : String) :
    resolved current (join base next) = resolved current (join form next) := by
  cases absolute : isAbsolute next with
  | true => rw [join_of_isAbsolute absolute, join_of_isAbsolute absolute]
  | false => rw [resolved_join absolute, resolved_join absolute, same]

/-- The absolute form of a path can stand in for it before any other path. -/
theorem absolute?_join {current path form : String}
    (formed : absolute? current path = some form) (next : String) :
    absolute? current (join path next) = absolute? current (join form next) := by
  have named := (absolute?_eq_some_iff.1 formed).1
  have filled := ne_empty_of_absolute? formed
  rw [absolute?_of_named (join_ne_empty_of_base named next),
    absolute?_of_named (join_ne_empty_of_base filled next),
    resolved_join_congr (resolved_of_absolute? formed current)]

/-- **Absolute forms are reduced, stable and compositional.** Every path but the empty one has an
absolute form. It starts at the root, has no `.` and no `..`, and its segments are among those of
the path and of the current directory. It is its own absolute form, wherever that is asked, and
putting it before another path, relative or not, in the place of the path changes nothing.

One more `..` after the path removes the last segment of the form, if there is one. And however dot
segments go from the path after the current directory, exactly the segments of the form are left
when there are no more. -/
theorem absolute?_normalizes (current : String) {path : String} (named : path ≠ "") :
    ∃ form, absolute? current path = some form ∧
      IsNormal form ∧
      (∀ segment ∈ segments form.toList,
        segment ∈ segments path.toList ∨ segment ∈ segments current.toList) ∧
      (∀ elsewhere, absolute? elsewhere form = some form) ∧
      (∀ next, absolute? current (join path next) = absolute? current (join form next)) ∧
      (∃ up, absolute? current (join path "..") = some up ∧
        segments up.toList = (segments form.toList).dropLast) ∧
      ∀ place, Clean place →
        (Reduces (segments (join current path).toList) place ↔ segments form.toList = place) := by
  have formed := absolute?_of_named named current
  have led := segments_of_absolute? formed
  refine ⟨_, formed, isNormal_of_absolute? formed, ?_, absolute?_of_absolute? formed,
    absolute?_join formed, ?_, ?_⟩
  · intro segment within
    rw [led] at within
    exact mem_resolved within
  · have climbed := absolute?_of_named (join_ne_empty_of_base named "..") current
    refine ⟨_, climbed, ?_⟩
    rw [segments_of_absolute? climbed, resolved_join (by decide), led]
    exact resolve_climb _ []
  · intro place clean
    rw [led, resolved_eq_resolve_join]
    exact reduces_iff clean

/-- A path with more `..` than segments before them, and with `.` and repeated slashes. -/
theorem absolute?_normalizes_climbing :
    absolute? "/w" "src/../..//../a/./b/" = some "/a/b" ∧
      absolute? "/w" (join "src/../..//../a/./b/" "../../c") = absolute? "/w" "/a/b/../../c" ∧
      Reduces [['w'], ['s', 'r', 'c'], ['.', '.'], ['.', '.'], ['.', '.'], ['a'], ['.'], ['b']]
        [['a'], ['b']] := by
  obtain ⟨form, formed, -, -, -, before, -, left⟩ :=
    absolute?_normalizes "/w" (by decide : "src/../..//../a/./b/" ≠ "")
  have spelled : absolute? "/w" "src/../..//../a/./b/" = some "/a/b" := by decide +kernel
  obtain rfl : form = "/a/b" := Option.some.inj (formed.symm.trans spelled)
  exact ⟨spelled, before "../../c", (left _ (by decide)).2 (by decide +kernel)⟩

end SourceIndex.Path
