import SourceIndex.Json.Printer

/-!
# Progress of a sync

What a sync reports while it runs, and how the reports are written to the error stream: not at all,
as a dot for every fifth of the writes, or as one object per line. Reports are observations only;
nothing in a sync depends on them.

Main statement: a write outside the run completes no fifth (`completesFifth_outside`).
-/

set_option autoImplicit false

namespace SourceIndex

/-- A report of a sync about one project. -/
inductive Event where
  /-- The project is looked up on the hosting service. -/
  | resolving (project : String)
  /-- The working copy is brought up to date, by cloning if there was none. -/
  | mirroring (project : String) (cloning : Bool)
  /-- The whole working copy is extracted at once. -/
  | extracting (project : String)
  /-- The `count`-th of `total` files was written to the index. -/
  | writing (project : String) (count total : Nat)
  | finished (project : String)
deriving DecidableEq, Repr

/-- How reports are written. -/
inductive ProgressMode where
  | off
  | dots
  | json
deriving DecidableEq, Repr

namespace Progress

/-- The `count`-th of `total` writes completes another fifth of the run. -/
def completesFifth (count total : Nat) : Bool :=
  if total = 0 || count = 0 || total < count then false
  else (count - 1) * 5 / total < count * 5 / total

/-- Writes before the first or after the last complete no fifth. -/
theorem completesFifth_outside {count total : Nat} (outside : count = 0 ∨ total < count) :
    completesFifth count total = false := by
  rcases outside with zero | beyond
  · simp [completesFifth, zero]
  · simp [completesFifth, beyond]

/-- The writes of a run of `total`, and the two counts around them, that complete a fifth. -/
def dotted (total : Nat) : List Nat :=
  (List.range (total + 2)).filter fun count => completesFifth count total

/-- An event as a dot, a line end or nothing. -/
def dotText : Event → String
  | .writing _ count total => if completesFifth count total then "." else ""
  | .finished _ => "\n"
  | _ => ""

/-- The members that all reports during a run share. -/
def phaseMembers (project phase : String) : Json.Members :=
  [("event", .string "progress"), ("project", .string project), ("phase", .string phase)]

/-- An event as an object. -/
def toJson : Event → Json
  | .resolving project => Json.ofList (phaseMembers project "resolving")
  | .mirroring project cloning =>
    Json.ofList (phaseMembers project "mirroring" ++ [("cloning", .bool cloning)])
  | .extracting project => Json.ofList (phaseMembers project "extracting")
  | .writing project count total =>
    Json.ofList (phaseMembers project "writing" ++
      [("n", Json.ofNat count), ("total", Json.ofNat total)])
  | .finished project =>
    Json.ofList [("event", .string "finished"), ("project", .string project)]

/-- What a mode writes for an event. -/
def text : ProgressMode → Event → String
  | .off, _ => ""
  | .dots, event => dotText event
  | .json, event => (toJson event).compact ++ "\n"

/-- What a mode writes for events in order. -/
def textOfAll (mode : ProgressMode) (events : List Event) : String :=
  String.join (events.map (text mode))

end Progress

end SourceIndex
