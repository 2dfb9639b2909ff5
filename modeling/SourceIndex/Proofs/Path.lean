import Mathlib.Data.List.Induction
import SourceIndex.Path
import SourceIndex.Proofs.Address

/-!
# Joined and resolved paths

The segments of a joined path are those of its two parts (`Path.segments_join`), so a relative path
is resolved from where the path before it leads (`Path.resolved_join`). Segments without `.` and
`..` only go down (`Path.resolve_of_clean`), and segments that never climb above the place where
they started stay below it (`Path.prefix_resolve`).

An absolute form is a path that starts at the root and is resolved already
(`Path.isNormal_of_absolute?`).
-/

set_option autoImplicit false

namespace SourceIndex.Path

/-! ## Segments -/

theorem segments_append (first second : List Char) :
    segments (first ++ '/' :: second) = segments first ++ segments second := by
  rw [segments, List.splitOn_append_cons_self, List.filter_append, segments, segments]

/-- A text without a separator is one segment. -/
theorem segments_of_notMem {segment : List Char} (whole : '/' ∉ segment)
    (filled : segment ≠ []) : segments segment = [segment] := by
  rw [segments, List.splitOn_eq_singleton whole]
  exact List.filter_eq_self.2 fun other within => by simp [List.mem_singleton.1 within, filled]

theorem segments_pair {first second : List Char} (ofFirst : '/' ∉ first ∧ first ≠ [])
    (ofSecond : '/' ∉ second ∧ second ≠ []) :
    segments (first ++ '/' :: second) = [first, second] := by
  rw [segments_append, segments_of_notMem ofFirst.1 ofFirst.2,
    segments_of_notMem ofSecond.1 ofSecond.2, List.singleton_append]

theorem of_mem_segments {path segment : List Char} (within : segment ∈ segments path) :
    '/' ∉ segment ∧ segment ≠ [] := by
  obtain ⟨cut, filled⟩ := List.mem_filter.1 within
  exact ⟨separator_notMem_of_mem_splitOn cut, by simpa using filled⟩

/-- Segments that are put together below the root are its segments again. -/
theorem segments_ofSegments {parts : List (List Char)}
    (each : ∀ part ∈ parts, '/' ∉ part ∧ part ≠ []) : segments (ofSegments parts) = parts := by
  have root : segments (ofSegments parts) = segments (['/'].intercalate parts) := by
    rw [ofSegments, ← List.nil_append ('/' :: _), segments_append]
    rfl
  rw [root]
  cases parts with
  | nil => rfl
  | cons first rest =>
    rw [segments, List.splitOn_intercalate _ (fun part within => (each part within).1)
      (List.cons_ne_nil first rest)]
    exact List.filter_eq_self.2 fun part within => by simp [(each part within).2]

/-! ## Joined paths -/

theorem isAbsolute_of_notMem {path : String} (whole : '/' ∉ path.toList) :
    isAbsolute path = false := by
  rw [isAbsolute, beq_eq_false_iff_ne]
  exact fun first => whole (List.mem_of_mem_head? first)

theorem join_of_isAbsolute {base path : String} (absolute : isAbsolute path = true) :
    join base path = path :=
  if_pos absolute

theorem join_empty (path : String) : join "" path = path := by
  rw [join]
  split
  · rfl
  · exact String.empty_append

/-- The segments of a relative path come after those of the path before it, whatever becomes of
other characters than the separator. -/
theorem segments_map_join {change : Char → Char} (keeps : change '/' = '/') {base path : String}
    (relative : isAbsolute path = false) :
    segments ((join base path).toList.map change) =
      segments (base.toList.map change) ++ segments (path.toList.map change) := by
  rw [join, relative, if_neg Bool.false_ne_true]
  split
  · next ended =>
    rw [String.toList_append, List.map_append]
    rcases Bool.or_eq_true_iff.1 ended with empty | slash
    · rw [String.isEmpty_iff.1 empty]
      rfl
    · obtain ⟨front, spelled⟩ := List.getLast?_eq_some_iff.1 (beq_iff_eq.1 slash)
      rw [spelled, List.map_append, List.map_singleton, keeps, List.append_assoc,
        List.singleton_append, segments_append, segments_append]
      exact congrArg (· ++ _) (List.append_nil _).symm
  · have slash : "/".toList.map change = ['/'] := congrArg (fun kept => [kept]) keeps
    rw [String.toList_append, String.toList_append, List.append_assoc, List.map_append,
      List.map_append, slash]
    exact segments_append (base.toList.map change) (path.toList.map change)

theorem segments_join {base path : String} (relative : isAbsolute path = false) :
    segments (join base path).toList = segments base.toList ++ segments path.toList := by
  have joined : segments ((join base path).toList.map id) = _ := segments_map_join rfl relative
  simpa only [List.map_id] using joined

theorem toList_key (path : String) :
    (key path).toList =
      path.toList.map fun character => if character = '\\' then '/' else character :=
  String.toList_ofList

theorem segments_key_join {base path : String} (relative : isAbsolute path = false) :
    segments (key (join base path)).toList =
      segments (key base).toList ++ segments (key path).toList := by
  rw [toList_key, toList_key, toList_key]
  exact segments_map_join rfl relative

theorem join_ne_empty {base path : String} (named : path ≠ "") : join base path ≠ "" := by
  rw [join]
  split
  · exact named
  · split
    · exact fun empty => named (String.append_eq_empty_iff.1 empty).2
    · exact fun empty => named (String.append_eq_empty_iff.1 empty).2

/-- A joined path starts as the path before it does, unless that is empty. -/
theorem head?_join {base path : String} (relative : isAbsolute path = false) (named : base ≠ "") :
    (join base path).toList.head? = base.toList.head? := by
  obtain ⟨first, rest, spelled⟩ : ∃ first rest, base.toList = first :: rest :=
    List.exists_cons_of_ne_nil (mt (fun none => String.toList_inj.1 none) named)
  rw [join, relative, if_neg Bool.false_ne_true]
  split <;> simp [spelled]

theorem join_ne_empty_of_base {base : String} (named : base ≠ "") (next : String) :
    join base next ≠ "" := by
  by_cases empty : next = ""
  · subst empty
    intro joined
    have head := head?_join (by decide : isAbsolute "" = false) named
    rw [joined] at head
    exact named (String.toList_inj.1 (List.head?_eq_none_iff.1 head.symm))
  · exact join_ne_empty empty

theorem isAbsolute_join (base path : String) :
    isAbsolute (join base path) = (isAbsolute base || isAbsolute path) := by
  cases absolute : isAbsolute path with
  | true => rw [join_of_isAbsolute absolute, absolute, Bool.or_true]
  | false =>
    rw [Bool.or_false]
    by_cases empty : base = ""
    · rw [empty, join_empty]
      exact absolute
    · exact congrArg (· == some '/') (head?_join absolute empty)

theorem isAbsolute_key_join {base path : String} (relative : isAbsolute path = false)
    (named : base ≠ "") : isAbsolute (key (join base path)) = isAbsolute (key base) := by
  rw [isAbsolute, isAbsolute, toList_key, toList_key, List.head?_map, List.head?_map,
    head?_join relative named]

theorem isAbsolute_key {path : String} (absolute : isAbsolute path = true) :
    isAbsolute (key path) = true := by
  rw [isAbsolute, toList_key, List.head?_map, beq_iff_eq.1 absolute]
  rfl

/-! ## Resolved paths -/

theorem resolve_append (start first second : List (List Char)) :
    resolve start (first ++ second) = resolve (resolve start first) second := by
  induction first generalizing start with
  | nil => rfl
  | cons segment rest ih =>
    rw [List.cons_append, resolve, resolve]
    split
    · exact ih start
    · split
      · exact ih start.dropLast
      · exact ih (start ++ [segment])

instance : DecidablePred Clean := fun segments =>
  inferInstanceAs (Decidable (∀ segment ∈ segments, segment ≠ ['.'] ∧ segment ≠ ['.', '.']))

theorem clean_nil : Clean [] :=
  fun _ within => absurd within List.not_mem_nil

/-- Segments without `.` and `..` lead down. -/
theorem resolve_of_clean {segments : List (List Char)} (clean : Clean segments)
    (start : List (List Char)) : resolve start segments = start ++ segments := by
  induction segments generalizing start with
  | nil => exact (List.append_nil start).symm
  | cons segment rest ih =>
    obtain ⟨⟨stays, climbs⟩, others⟩ := List.forall_mem_cons.1 clean
    rw [resolve, if_neg stays, if_neg climbs, ih others, List.append_assoc, List.singleton_append]

theorem forall_resolve {good : List Char → Prop} {start segments : List (List Char)}
    (before : ∀ segment ∈ start, good segment) (each : ∀ segment ∈ segments, good segment) :
    ∀ segment ∈ resolve start segments, good segment := by
  induction segments generalizing start with
  | nil => exact before
  | cons segment rest ih =>
    obtain ⟨first, others⟩ := List.forall_mem_cons.1 each
    rw [resolve]
    split
    · exact ih before others
    · split
      · exact ih (fun other within => before other ((List.dropLast_sublist start).subset within))
          others
      · refine ih (fun other within => ?_) others
        rcases List.mem_append.1 within with old | new
        · exact before other old
        · exact List.mem_singleton.1 new ▸ first

/-- A relative path is resolved from where the path before it leads. -/
theorem resolved_join {base path : String} (relative : isAbsolute path = false)
    (current : String) :
    resolved current (join base path) =
      resolve (resolved current base) (segments path.toList) := by
  rw [resolved, isAbsolute_join, relative, Bool.or_false, segments_join relative]
  exact resolve_append _ _ _

/-- The same as a path is spelled for the parser. -/
theorem resolved_key_join {base path : String} (relative : isAbsolute path = false)
    (named : base ≠ "") (current : String) :
    resolved current (key (join base path)) =
      resolve (resolved current (key base)) (segments (key path).toList) := by
  rw [resolved, isAbsolute_key_join relative named, segments_key_join relative]
  exact resolve_append _ _ _

/-- The path starts at the root and has no `.` and no `..` among its segments. -/
def IsNormal (path : String) : Prop :=
  isAbsolute path = true ∧ Clean (segments path.toList)

instance : DecidablePred IsNormal := fun path =>
  inferInstanceAs (Decidable (isAbsolute path = true ∧ Clean (segments path.toList)))

theorem IsNormal.resolved_eq {path : String} (normal : IsNormal path) (current : String) :
    resolved current path = segments path.toList := by
  rw [resolved, normal.1, if_pos rfl, resolve_of_clean normal.2]
  rfl

theorem clean_resolved (current path : String) : Clean (resolved current path) := by
  rw [resolved]
  apply resolve_clean
  split
  · exact clean_nil
  · exact resolve_clean clean_nil _

/-- Every segment of the place that a path leads to is whole. -/
theorem of_mem_resolved {current path : String} {segment : List Char}
    (within : segment ∈ resolved current path) : '/' ∉ segment ∧ segment ≠ [] := by
  rw [resolved] at within
  refine forall_resolve ?_ (fun _ => of_mem_segments) segment within
  split
  · exact List.forall_mem_nil _
  · exact forall_resolve (List.forall_mem_nil _) fun _ => of_mem_segments

theorem absolute?_eq_some_iff {current path form : String} :
    absolute? current path = some form ↔
      path ≠ "" ∧ String.ofList (ofSegments (resolved current path)) = form := by
  rw [absolute?, Option.ite_none_left_eq_some, String.isEmpty_iff, Option.some_inj]

theorem absolute?_of_named {path : String} (named : path ≠ "") (current : String) :
    absolute? current path = some (String.ofList (ofSegments (resolved current path))) :=
  absolute?_eq_some_iff.2 ⟨named, rfl⟩

theorem isAbsolute_of_absolute? {current path absolute : String}
    (formed : absolute? current path = some absolute) : isAbsolute absolute = true := by
  obtain ⟨-, rfl⟩ := absolute?_eq_some_iff.1 formed
  rw [isAbsolute, String.toList_ofList]
  rfl

/-- The segments of an absolute form are those of the place that the path leads to. -/
theorem segments_of_absolute? {current path absolute : String}
    (formed : absolute? current path = some absolute) :
    segments absolute.toList = resolved current path := by
  obtain ⟨-, rfl⟩ := absolute?_eq_some_iff.1 formed
  rw [String.toList_ofList]
  exact segments_ofSegments fun _ => of_mem_resolved

/-- **An absolute form starts at the root and is resolved already.** -/
theorem isNormal_of_absolute? {current path absolute : String}
    (formed : absolute? current path = some absolute) : IsNormal absolute := by
  refine ⟨isAbsolute_of_absolute? formed, ?_⟩
  rw [segments_of_absolute? formed]
  exact clean_resolved current path

/-! ## Paths that stay below a place -/

/-- Following the segments from a place `depth` levels below another one never leads above that
other place. -/
def descends : Nat → List (List Char) → Bool
  | _, [] => true
  | depth, segment :: rest =>
    if segment = ['.'] then descends depth rest
    else if segment = ['.', '.'] then depth != 0 && descends (depth - 1) rest
    else descends (depth + 1) rest

/-- **Segments that never climb above a place stay below it.** -/
theorem prefix_resolve {start below segments : List (List Char)}
    (stays : descends below.length segments = true) :
    start <+: resolve (start ++ below) segments := by
  induction segments generalizing below with
  | nil => exact List.prefix_append start below
  | cons segment rest ih =>
    rw [descends] at stays
    rw [resolve]
    split at stays
    · next here =>
      rw [if_pos here]
      exact ih stays
    · next other =>
      rw [if_neg other]
      split at stays
      · next up =>
        rw [if_pos up]
        obtain ⟨deep, stays⟩ := Bool.and_eq_true_iff.1 stays
        cases below using List.reverseRecOn with
        | nil => cases deep
        | append_singleton front last =>
          rw [List.length_append, List.length_singleton, Nat.add_sub_cancel] at stays
          rw [← List.append_assoc, List.dropLast_concat]
          exact ih stays
      · next down =>
        rw [if_neg down, List.append_assoc]
        refine ih ?_
        rw [List.length_append, List.length_singleton]
        exact stays

/-- Once both are resolved, the path is the directory or lies below it. -/
def Within (current directory path : String) : Prop :=
  resolved current directory <+: resolved current path

instance (current directory path : String) : Decidable (Within current directory path) :=
  inferInstanceAs (Decidable (resolved current directory <+: resolved current path))

theorem Within.refl (current directory : String) : Within current directory directory :=
  List.prefix_rfl

/-- The path is relative and never leads above where it starts, whether `\` is a separator, as it is
for the parser, or not, as on the disk. -/
structure IsInner (path : String) : Prop where
  relative : isAbsolute path = false
  descends : descends 0 (segments path.toList) = true
  keyDescends : Path.descends 0 (segments (key path).toList) = true

instance : DecidablePred IsInner := fun path =>
  decidable_of_iff
    (isAbsolute path = false ∧ Path.descends 0 (segments path.toList) = true ∧
      Path.descends 0 (segments (key path).toList) = true)
    ⟨fun ⟨relative, stays, keyStays⟩ => ⟨relative, stays, keyStays⟩,
      fun ⟨relative, stays, keyStays⟩ => ⟨relative, stays, keyStays⟩⟩

namespace IsInner

variable {base path : String} (inner : IsInner path) (current : String)
include inner

theorem within_join : Within current base (join base path) := by
  have stays : resolved current base <+: resolve (resolved current base ++ []) _ :=
    prefix_resolve inner.descends
  rwa [List.append_nil, ← resolved_join inner.relative] at stays

theorem within_key_join (named : base ≠ "") :
    Within current (key base) (key (join base path)) := by
  have stays : resolved current (key base) <+: resolve (resolved current (key base) ++ []) _ :=
    prefix_resolve inner.keyDescends
  rwa [List.append_nil, ← resolved_key_join inner.relative named] at stays

end IsInner

end SourceIndex.Path
