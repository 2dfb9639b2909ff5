import SourceIndex.Disk
import SourceIndex.Index.Basic
import SourceIndex.Parser.Basic
import SourceIndex.Progress

/-!
# The parties of a sync

A sync works with parties outside the index: the hosting service, the mirror that keeps working
copies, the parser, the disk, and whatever makes operations of the index fail. `Collaborators` is
their behaviour over a state of their own: every answer may depend on all that happened before.

`Session` is that state together with a trace of what a sync did, in order. The trace is what a
caller sees of a run besides its result.
-/

set_option autoImplicit false

namespace SourceIndex

/-- What the mirror is asked to do. -/
structure MirrorCall where
  projectId : String
  url : String
  path : String
  branch : String
deriving DecidableEq, Repr

/-- One thing that a sync did. -/
inductive Act where
  | mirrored (call : MirrorCall)
  | asked (kind : RequestKind) (payload : String)
  /-- A file was looked for on the disk. -/
  | read (path : String)
  /-- A write to the index that succeeded. -/
  | wrote (write : Write)
  /-- An operation of the index that failed. -/
  | failed (operation : Operation) (error : StoreError)
  | reported (event : Event)

/-- Error messages from the outermost inward. -/
abbrev Chain := List String

/-- All messages of a chain. -/
def Chain.message (chain : Chain) : String :=
  ": ".intercalate chain

/-- The behaviour of the parties of a sync over a state `ε` of their own. -/
structure Collaborators (ε : Type) where
  /-- What the hosting service says of an address; nothing if there is no such project. -/
  resolve : String → ε → Except Chain (Option RemoteProject) × ε
  /-- Brings a working copy up to date. -/
  mirror : MirrorCall → ε → Except Chain Unit × ε
  /-- Asks the parser. -/
  ask : RequestKind → String → ε → ParserReply × ε
  /-- The content of a file on the disk. -/
  read : String → ε → Except DiskError Bytes
  /-- A path leads to something on the disk. -/
  pathExists : String → ε → Bool
  /-- Makes an operation of the index fail. -/
  refuse : Operation → ε → Option Chain × ε

/-- The state of the parties and the trace of what was done with them. -/
structure Session (ε : Type) where
  world : ε
  trace : List Act

namespace Session

variable {ε : Type}

/-- A session in which nothing was done yet. -/
def start (world : ε) : Session ε :=
  ⟨world, []⟩

/-- Adds to the trace. -/
def record (session : Session ε) (act : Act) : Session ε :=
  { session with trace := session.trace ++ [act] }

end Session

namespace Act

/-- The request of an act, if it is one. -/
def request? : Act → Option (RequestKind × String)
  | .asked kind payload => some (kind, payload)
  | _ => none

/-- The report of an act, if it is one. -/
def event? : Act → Option Event
  | .reported event => some event
  | _ => none

/-- The write of an act, if it is one. -/
def write? : Act → Option Write
  | .wrote write => some write
  | _ => none

/-- The failed operation of an act with its error, if it is one. -/
def failure? : Act → Option (Operation × StoreError)
  | .failed operation error => some (operation, error)
  | _ => none

/-- The act is a write to the index or the failed attempt at one. -/
def attemptsWrite : Act → Bool
  | .wrote _ => true
  | .failed operation _ => operation.method.isWrite
  | _ => false

/-- The mirror call of an act, if it is one. -/
def mirrorCall? : Act → Option MirrorCall
  | .mirrored call => some call
  | _ => none

/-- The path that an act read, if it read one. -/
def readPath? : Act → Option String
  | .read path => some path
  | _ => none

/-- The writes among acts are those that succeeded. -/
theorem mem_writes_iff {acts : List Act} {write : Write} :
    write ∈ acts.filterMap write? ↔ .wrote write ∈ acts := by
  refine List.mem_filterMap.trans ⟨?_, fun member => ⟨_, member, rfl⟩⟩
  rintro ⟨act, member, found⟩
  cases act with
  | wrote other =>
    cases found
    exact member
  | _ => cases found

/-- The failures among acts are those that were noted. -/
theorem mem_failures_iff {acts : List Act} {operation : Operation} {error : StoreError} :
    (operation, error) ∈ acts.filterMap failure? ↔ .failed operation error ∈ acts := by
  refine List.mem_filterMap.trans ⟨?_, fun member => ⟨_, member, rfl⟩⟩
  rintro ⟨act, member, found⟩
  cases act with
  | failed other cause =>
    cases found
    exact member
  | _ => cases found

end Act

end SourceIndex
