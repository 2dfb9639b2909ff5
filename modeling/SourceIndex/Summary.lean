import SourceIndex.Decimal.Shortest
import SourceIndex.Index.Basic

/-!
# The summary of an index

The statistics of an index as a text for people: where it is and how large, how many projects and
files it holds, and a table of its projects.
-/

set_option autoImplicit false

namespace SourceIndex.Summary

open SourceIndex.Decimal

/-- A number of bytes in the largest unit that gives at least one, with one decimal place, or two
for the largest unit. -/
def sizeText (bytes : Nat) : String :=
  if bytes < 1024 then toString bytes ++ " B"
  else
    let rounded : Nat × Nat := ((Double.ofNat? bytes).map Double.ratio).getD (bytes, 1)
    let inUnit (unit places : Nat) : String :=
      String.ofList (fixedPlaces rounded.1 (rounded.2 * unit) places)
    if bytes < Nat.pow 1024 2 then inUnit 1024 1 ++ " KB"
    else if bytes < Nat.pow 1024 3 then inUnit (Nat.pow 1024 2) 1 ++ " MB"
    else inUnit (Nat.pow 1024 3) 2 ++ " GB"

/-- Fills a text up with spaces at the end. -/
def padEnd (width : Nat) (text : String) : String :=
  text ++ String.ofList (List.replicate (width - text.length) ' ')

/-- Fills a text up with spaces at the start. -/
def padStart (width : Nat) (text : String) : String :=
  String.ofList (List.replicate (width - text.length) ' ') ++ text

/-- A row of the table of projects. -/
def row (project files : String) : String :=
  "  " ++ padEnd 48 project ++ " " ++ padStart 8 files ++ "\n"

/-- How many files in a hundred carry structure, rounded toward zero. -/
def percentage (stats : IndexStats) : Int :=
  if 0 < stats.files then (stats.structuredFiles * 100).tdiv stats.files else 0

/-- The table of projects, if there are any. -/
def projectTable (stats : IndexStats) : String :=
  if stats.perProject.isEmpty then ""
  else
    "\n  By project:\n" ++ row "PROJECT" "FILES" ++
      "  " ++ String.ofList (List.replicate 57 '-') ++ "\n" ++
      String.join (stats.perProject.map fun entry => row entry.1 (toString entry.2))

/-- The summary of an index at a path whose file has `bytes` bytes. -/
def render (stats : IndexStats) (path : String) (bytes : Nat) : String :=
  "Agora Index Stats\n" ++ "=================\n\n" ++
    "  Index:       " ++ path ++ "\n" ++
    "  Size:        " ++ sizeText bytes ++ "\n\n" ++
    "  Projects:    " ++ toString stats.projects ++ "\n" ++
    "  Files:       " ++ toString stats.files ++ "\n" ++
    "  Structured:  " ++ toString stats.structuredFiles ++ " / " ++ toString stats.files ++
    " (" ++ toString (percentage stats) ++ "%)\n" ++ projectTable stats ++ "\n"

end SourceIndex.Summary
