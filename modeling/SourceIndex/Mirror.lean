import SourceIndex.Collaborators
import SourceIndex.Program
import SourceIndex.Text.Blank

/-!
# The mirror

Working copies are kept by git, run as a program of its own. A project without a working copy is
cloned; the working copy of any other is brought to the state of its branch, whatever was changed in
it.

Main statement: a working copy is cloned exactly when there is none (`ensure_eq`).
-/

set_option autoImplicit false

namespace SourceIndex

/-- What a run of git ended with. -/
structure GitResult where
  code : Nat
  /-- What it wrote to the error stream. -/
  errors : Bytes
deriving DecidableEq, Repr

/-- Git and the disk, over a state `γ` of their own. -/
structure Git (γ : Type) where
  /-- Runs a program; an error if it cannot be started. -/
  run : ProgramCall → γ → Except StartError GitResult × γ
  /-- Makes a directory and those above it. -/
  makeDirectories : String → γ → Except DiskError Unit × γ
  /-- A path leads to something. -/
  pathExists : String → γ → Bool

namespace Mirror

variable {γ : Type}

/-- Runs one command of git. -/
def runCommand (git : Git γ) (program what : String) (args : List String)
    (directory : Option String) (state : γ) : Except Chain Unit × γ :=
  match git.run ⟨program, what :: args, directory⟩ state with
  | (.error error, after) =>
    (.error
      ["Failed to execute '" ++ program ++ " " ++ what ++ "'. Is git installed?", error.message],
      after)
  | (.ok result, after) =>
    if result.code = 0 then (.ok (), after)
    else
      let errors := String.ofList (Text.trim (Utf8.decodeLossy result.errors))
      (.error ["git " ++ what ++ " failed: " ++ errors], after)

/-- Makes the directory that a working copy lies in. -/
def makeParent (git : Git γ) (path : String) (state : γ) : Except Chain Unit × γ :=
  match Path.parent? path with
  | none => (.ok (), state)
  | some parent =>
    match git.makeDirectories parent state with
    | (.ok (), after) => (.ok (), after)
    | (.error error, after) =>
      (.error ["Failed to create mirror directory: " ++ parent, error.message], after)

/-- Clones a working copy. -/
def clone (git : Git γ) (program : String) (call : MirrorCall) (state : γ) :
    Except Chain Unit × γ :=
  match makeParent git call.path state with
  | (.error chain, after) => (.error chain, after)
  | (.ok (), after) =>
    runCommand git program "clone"
      ["--branch", call.branch, "--single-branch", call.url, call.path] none after

/-- Brings a working copy to the state of its branch. -/
def update (git : Git γ) (program : String) (call : MirrorCall) (state : γ) :
    Except Chain Unit × γ :=
  match runCommand git program "fetch" ["origin", call.branch] (some call.path) state with
  | (.error chain, after) => (.error chain, after)
  | (.ok (), after) =>
    runCommand git program "reset" ["--hard", "origin/" ++ call.branch] (some call.path) after

/-- There is a working copy at a path. -/
def isWorkingCopy (git : Git γ) (path : String) (state : γ) : Bool :=
  git.pathExists (Path.join path ".git") state

/-- Clones a working copy that is missing and updates one that is there. -/
def cloneOrUpdate (git : Git γ) (program : String) (call : MirrorCall) (state : γ) :
    Except Chain Unit × γ :=
  if isWorkingCopy git call.path state then update git program call state
  else clone git program call state

/-- Brings a working copy up to date. -/
def ensure (git : Git γ) (program : String) (call : MirrorCall) (state : γ) :
    Except Chain Unit × γ :=
  match cloneOrUpdate git program call state with
  | (.ok (), after) => (.ok (), after)
  | (.error chain, after) => (.error (("Failed to mirror " ++ call.projectId) :: chain), after)

/-- Whether a working copy is there decides alone whether it is cloned or updated. -/
theorem ensure_eq (git : Git γ) (program : String) (call : MirrorCall) (state : γ) :
    (ensure git program call state).2 =
      if isWorkingCopy git call.path state then (update git program call state).2
      else (clone git program call state).2 := by
  unfold ensure cloneOrUpdate
  by_cases there : isWorkingCopy git call.path state = true
  · simp only [there, if_true]
    split <;> simp_all
  · simp only [there]
    split <;> simp_all

end Mirror

end SourceIndex
