import SourceIndex.Disk

/-!
# Programs

Starting a program as a process of its own. A program with a separator in its name is looked up from
the directory that it is to run in; one without is looked for where the system keeps its programs,
and none of those is known here.

Main statement: a program that starts is the file at a path on the disk (`locate_of_found`).
-/

set_option autoImplicit false

namespace SourceIndex

/-- Why a program cannot be started. -/
inductive StartError where
  | disk (error : DiskError)
  /-- A text that is handed to the system holds the byte zero. -/
  | zeroByte
  /-- An argument is too long. -/
  | tooLong
deriving DecidableEq, Repr

/-- The wording of an error. -/
def StartError.message : StartError → String
  | .disk error => error.message
  | .zeroByte => "nul byte found in provided data"
  | .tooLong => "Argument list too long (os error 7)"

/-- A program with its arguments, and the directory that it is to run in unless it is the current
one. -/
structure ProgramCall where
  program : String
  args : List String
  directory : Option String
deriving DecidableEq, Repr

namespace ProgramCall

/-- The longest argument, in bytes. -/
def longestArgument : Nat := 131071

/-- The texts of a call. -/
def texts (call : ProgramCall) : List String :=
  call.program :: call.args ++ call.directory.toList

/-- A text with the byte zero. -/
def holdsZero (text : String) : Bool :=
  text.toList.contains (Char.ofNat 0)

/-- The directory that a call runs in. -/
def place (call : ProgramCall) (disk : Disk) (current : String) :
    Except StartError (List (List Char)) :=
  match call.directory with
  | none => .ok (Path.resolved current "")
  | some directory =>
    match disk.locate current directory with
    | .error error => .error (.disk error)
    | .ok (_, .file _) => .error (.disk .notADirectory)
    | .ok (place, .directory) => .ok place

/-- Looks for the program of a call from a directory. -/
def find (call : ProgramCall) (disk : Disk) (directory : String) : Except StartError String :=
  if call.program.toList.contains '/' then
    match disk.locate directory call.program with
    | .error error => .error (.disk error)
    | .ok (_, .directory) => .error (.disk .permissionDenied)
    | .ok (place, .file _) => .ok (Disk.pathOf place)
  else if 255 < Utf8.size call.program then .error (.disk .invalidName)
  else if [".", ".."].contains call.program then .error (.disk .permissionDenied)
  else .error (.disk .notFound)

/-- Starts a call where a single file can be executed, and tells the directory that it runs in. -/
def start (call : ProgramCall) (disk : Disk) (current executable : String) :
    Except StartError String :=
  if call.texts.any holdsZero then .error .zeroByte
  else
    match call.place disk current with
    | .error error => .error error
    | .ok place =>
      let directory := Disk.pathOf place
      if (call.program :: call.args).any fun text => longestArgument < Utf8.size text then
        .error .tooLong
      else
        match call.find disk directory with
        | .error error => .error error
        | .ok path => if path = executable then .ok directory else .error (.disk .permissionDenied)

/-- A program that is found is the file at a path on the disk. -/
theorem locate_of_found {call : ProgramCall} {disk : Disk} {directory path : String}
    (found : call.find disk directory = .ok path) :
    ∃ place content, disk.locate directory call.program = .ok (place, .file content) ∧
      path = Disk.pathOf place := by
  unfold find at found
  split at found
  · split at found <;> simp only [reduceCtorEq, Except.ok.injEq] at found
    exact ⟨_, _, ‹_›, found.symm⟩
  · split at found
    · simp at found
    · split at found <;> simp at found

end ProgramCall

end SourceIndex
