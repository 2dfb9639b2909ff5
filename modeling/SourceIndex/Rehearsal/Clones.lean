import SourceIndex.Mirror

/-!
# Rehearsed git

A git that acts by a script, on a disk that is a value. Each command has prepared runs, which say
how the run ends and which files it writes. A clone makes a working copy at its destination, unless
it fails or its run says otherwise.
-/

set_option autoImplicit false

namespace SourceIndex.Rehearsal

/-- How one run of git ends and what it does. -/
structure GitRun where
  result : GitResult
  /-- Files and directories that the run writes. -/
  files : List (String × DiskNode)
  /-- A clone makes a working copy. -/
  makesCopy : Bool
deriving DecidableEq, Repr

namespace GitRun

/-- A run that succeeds and writes nothing of its own. -/
def plain : GitRun :=
  ⟨⟨0, []⟩, [], true⟩

/-- What a run leaves on a disk. A clone writes below its destination, which is its last argument,
and every other command below the directory that it runs in. -/
def effect (run : GitRun) (args : List String) (directory : String) (disk : Disk) : Disk :=
  let isClone := args.head? == some "clone"
  let base :=
    if isClone then Disk.pathOf (Path.resolved directory (args.getLastD "")) else directory
  let ready :=
    if isClone && run.result.code == 0 && run.makesCopy then disk.write base ".git" .directory
    else disk
  run.files.foldl (fun written entry => written.write base entry.1 entry.2) ready

end GitRun

/-- The prepared runs of one command of git, used in turn; the last one is used again and again. -/
structure GitScript where
  command : String
  runs : List GitRun
deriving DecidableEq, Repr

/-- The next run of a command, and the scripts after it. -/
def nextRun (command : String) : List GitScript → GitRun × List GitScript
  | [] => (.plain, [])
  | script :: rest =>
    if script.command = command then
      match script.runs with
      | [] => (.plain, script :: rest)
      | [last] => (last, script :: rest)
      | run :: more => (run, { script with runs := more } :: rest)
    else
      let later := nextRun command rest
      (later.1, script :: later.2)

/-- A run of git as it was asked for. -/
structure GitCall where
  args : List String
  directory : String
deriving DecidableEq, Repr

/-- A scripted git and the disk that it works on. -/
structure Clones where
  disk : Disk
  /-- The directory that relative paths start from. -/
  current : String
  /-- The path of the git program. -/
  program : String
  scripts : List GitScript
  log : List GitCall

namespace Clones

/-- Runs git. -/
def run (call : ProgramCall) (clones : Clones) : Except StartError GitResult × Clones :=
  match call.start clones.disk clones.current clones.program with
  | .error error => (.error error, clones)
  | .ok directory =>
    let next := nextRun (call.args.headD "") clones.scripts
    let after := { clones with
      disk := next.1.effect call.args directory clones.disk
      scripts := next.2
      log := clones.log ++ [⟨call.args, directory⟩] }
    (.ok next.1.result, after)

/-- Makes a directory. -/
def makeDirectories (path : String) (clones : Clones) : Except DiskError Unit × Clones :=
  let done := clones.disk.makeDirectories clones.current path
  (done.1, { clones with disk := done.2 })

/-- The scripted git. -/
def git : Git Clones where
  run := run
  makeDirectories := makeDirectories
  pathExists path clones := clones.disk.pathExists clones.current path

end Clones

end SourceIndex.Rehearsal
