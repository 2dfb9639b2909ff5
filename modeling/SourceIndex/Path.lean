import SourceIndex.Text.Lines

/-!
# Paths

Paths are texts with `/` between their segments. Nothing here looks at a disk: a path is joined,
made absolute and resolved by its spelling alone, so `..` always removes the segment before it.

Main statement: the resolved form of a path has no `.` and no `..` among its segments
(`resolve_clean`).
-/

set_option autoImplicit false

namespace SourceIndex.Path

/-- The path starts at the root. -/
def isAbsolute (path : String) : Bool :=
  path.toList.head? == some '/'

/-- The segments of a path that are not empty. -/
def segments (path : List Char) : List (List Char) :=
  (path.splitOn '/').filter fun segment => !segment.isEmpty

/-- The path of segments below the root. -/
def ofSegments (segments : List (List Char)) : List Char :=
  '/' :: ['/'].intercalate segments

/-- Follows segments from a place below the root: `.` stays, `..` goes up and stays at the root, and
any other segment goes down. -/
def resolve (start : List (List Char)) : List (List Char) → List (List Char)
  | [] => start
  | segment :: rest =>
    if segment = ['.'] then resolve start rest
    else if segment = ['.', '.'] then resolve start.dropLast rest
    else resolve (start ++ [segment]) rest

/-- The segments of a path resolved from a current directory. -/
def resolved (current path : String) : List (List Char) :=
  let start := if isAbsolute path then [] else resolve [] (segments current.toList)
  resolve start (segments path.toList)

/-- The absolute form of a path, with `.` and `..` resolved; the empty path has none. -/
def absolute? (current path : String) : Option String :=
  if path.isEmpty then none else some (String.ofList (ofSegments (resolved current path)))

/-- One path after another. An absolute path replaces what comes before it. -/
def join (base path : String) : String :=
  if isAbsolute path then path
  else if base.isEmpty || base.toList.getLast? == some '/' then base ++ path
  else base ++ "/" ++ path

/-- Drops, from a path written backward, the separators and the `.` segments at its end. -/
def dropIdle : List Char → List Char
  | '/' :: rest => dropIdle rest
  | '.' :: '/' :: rest => dropIdle rest
  | path => path

/-- The part of a path before its last segment; the root and the empty path have none. -/
def parent? (path : String) : Option String :=
  let backward := dropIdle path.toList.reverse
  if backward.isEmpty then none
  else
    let before := backward.dropWhile (· != '/')
    let trimmed := dropIdle before
    if trimmed.isEmpty && !before.isEmpty then some "/"
    else some (String.ofList trimmed.reverse)

/-- The spelling of a path with `/` as its only separator. -/
def key (path : String) : String :=
  Text.onString (Text.replaceChar '\\' '/') path

/-- No segment stands for a place relative to another one. -/
def Clean (segments : List (List Char)) : Prop :=
  ∀ segment ∈ segments, segment ≠ ['.'] ∧ segment ≠ ['.', '.']

/-- Following any segments from a clean place ends in a clean place. -/
theorem resolve_clean {start : List (List Char)} (clean : Clean start)
    (segments : List (List Char)) : Clean (resolve start segments) := by
  induction segments generalizing start with
  | nil => exact clean
  | cons segment rest ih =>
    by_cases here : segment = ['.']
    · simpa only [resolve, if_pos here] using ih clean
    · by_cases up : segment = ['.', '.']
      · rw [resolve, if_neg here, if_pos up]
        exact ih fun other member => clean other ((List.dropLast_sublist start).subset member)
      · rw [resolve, if_neg here, if_neg up]
        refine ih fun other member => ?_
        rcases List.mem_append.1 member with old | new
        · exact clean other old
        · rw [List.mem_singleton.1 new]
          exact ⟨here, up⟩

end SourceIndex.Path
