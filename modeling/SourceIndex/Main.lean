import SourceIndex.Command.Run

/-!
# The program

Runs one command line on the files that it names. The machine of a run has no network and no other
programs, and its index lasts as long as the run does.
-/

set_option autoImplicit false

namespace SourceIndex

/-- A machine with files and nothing else. -/
def plainMachine : Machine DatabaseFiles Unit where
  current := "/"
  token := none
  files files := files
  setFiles files _ := files
  network :=
    { send := fun _ files => (.lost ["network is unreachable"], files)
      now := fun _ => 0
      wait := fun _ files => files }
  workers :=
    { launch := fun _ files => (.error DiskError.notFound.message, files)
      receive := fun _ _ files => (([], none), files) }
  git :=
    { run := fun _ files => (.error (.disk .notFound), files)
      makeDirectories := fun path files =>
        let done := files.disk.makeDirectories "/" path
        (done.1, { files with disk := done.2 })
      pathExists := fun path files => files.disk.pathExists "/" path }

/-- The files that an invocation reads. -/
def Invocation.inputs (invocation : Invocation) : List String :=
  match invocation.command with
  | .addProjects file => [invocation.settings, file]
  | .deleteProjects file => [invocation.settings, file]
  | _ => [invocation.settings]

/-- Takes a file from the disk of the system, if it can be read. -/
def takeFile (files : DatabaseFiles) (path : String) : IO DatabaseFiles := do
  try
    let content ← IO.FS.readBinFile path
    pure { files with disk := files.disk.write "/" path (.file content.toList) }
  catch _ => pure files

/-- Takes the files that a command line names. -/
def takeInputs (arguments : List String) : IO DatabaseFiles :=
  match Arguments.read arguments with
  | .run invocation => invocation.inputs.foldlM takeFile ⟨Disk.empty, Keyed.empty⟩
  | _ => pure ⟨Disk.empty, Keyed.empty⟩

end SourceIndex

/-- Runs a command line, prints what it printed and ends with its code. -/
def main (arguments : List String) : IO UInt32 := do
  let files ← SourceIndex.takeInputs arguments
  let printed := (SourceIndex.Command.runArguments SourceIndex.plainMachine arguments files).1
  IO.print printed.output
  IO.eprint printed.errors
  pure (UInt32.ofNat printed.code)
