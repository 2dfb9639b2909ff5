import SourceIndex.Address
import SourceIndex.Command.Arguments
import SourceIndex.Host.Client
import SourceIndex.Index.Files
import SourceIndex.Mirror
import SourceIndex.Settings
import SourceIndex.Summary
import SourceIndex.Sync.Batch

/-!
# Commands

What the program does for each command: the parties of a sync are set up as the settings say, the
index is opened, and the results are printed. The machine that all of this runs on is a parameter.

Adding projects starts the parser before the index is opened, and the parser is ended again whatever
happens then. Deleting projects never starts it. A command that fails prints the reason to the error
stream, after the progress that it reported until then.
-/

set_option autoImplicit false

namespace SourceIndex

/-- What a program printed, and the code that it ended with. -/
structure Printed where
  output : String
  errors : String
  code : Nat
deriving DecidableEq, Repr

/-- A machine that commands run on, over a state `σ`, with worker processes of states `ψ`. -/
structure Machine (σ ψ : Type) where
  /-- The directory that relative paths start from. -/
  current : String
  /-- The token of the environment. -/
  token : Option String
  files : σ → DatabaseFiles
  setFiles : DatabaseFiles → σ → σ
  network : Host.Network σ
  workers : Workers σ ψ
  git : Git σ

namespace Machine

variable {σ ψ : Type}

/-- The content of a file as text. -/
def readText? (machine : Machine σ ψ) (path : String) (state : σ) : Option String :=
  match (machine.files state).disk.read machine.current path with
  | .ok content => Utf8.toString? content
  | .error _ => none

/-- Opens the index at a path. -/
def openIndex (machine : Machine σ ψ) (path : String) (state : σ) :
    Except StoreError Connection × σ :=
  let opened := (machine.files state).openIndex machine.current path
  (opened.1, machine.setFiles opened.2 state)

/-- Closes an index. -/
def closeIndex (machine : Machine σ ψ) (index : Connection) (state : σ) : σ :=
  machine.setFiles ((machine.files state).close index) state

/-- Changes the database at a path, which is made if there is none. -/
def changeDatabase (machine : Machine σ ψ) (path : String)
    (change : Connection → Except StoreError Connection) (state : σ) :
    Except StoreError Unit × σ :=
  let connected := (machine.files state).connect machine.current path
  let after := machine.setFiles connected.2 state
  match connected.1 with
  | .error error => (.error error, after)
  | .ok connection =>
    match change connection with
    | .error error => (.error error, after)
    | .ok changed => (.ok (), machine.closeIndex changed after)

/-- The parties of a sync on a machine, with a channel to the parser. -/
def team (machine : Machine σ ψ) (settings : Settings) : Collaborators (Link σ ψ) where
  resolve address link :=
    let answered := Host.Client.resolve machine.network
      ⟨settings.host, machine.token, .standard⟩ address link.world
    (answered.1.answer, { link with world := answered.2 })
  mirror call link :=
    let done := Mirror.ensure machine.git settings.mirror.gitCommand call link.world
    (done.1, { link with world := done.2 })
  ask kind payload link :=
    match Channel.request machine.workers kind payload link with
    | (.ok answer, after) => (.text answer, after)
    | (.error error, after) => (.failed error, after)
  read path link := (machine.files link.world).disk.read machine.current path
  pathExists path link := (machine.files link.world).disk.pathExists machine.current path
  refuse _ link := (none, link)

end Machine

namespace Command

variable {σ ψ : Type}

/-- A command that succeeded. -/
def succeed (output : String) : Printed :=
  ⟨output, "", 0⟩

/-- A command that failed. -/
def fail (reason : String) : Printed :=
  ⟨"", "Error: " ++ reason ++ "\n", 1⟩

/-- The status line of an address. -/
def statusLine (entry : String × Except SyncError Outcome) : String :=
  match entry.2 with
  | .ok outcome => entry.1 ++ ": " ++ outcome.message ++ "\n"
  | .error error => entry.1 ++ ": FAILED (" ++ error.className ++ ") " ++ error.message ++ "\n"

/-- Why a batch as a whole failed, if it did. -/
def batchFailure (batch : Batch) : Option String :=
  match batch.aborted with
  | some reason => some ("batch aborted: " ++ reason)
  | none =>
    if batch.isSuccess then none
    else some (toString batch.failed.length ++ " project(s) failed")

/-- What is printed for a batch. -/
def printBatch (verb : String) (mode : ProgressMode) (events : List Event) (batch : Batch) :
    Printed :=
  let closing :=
    "Done: " ++ toString batch.succeeded.length ++ " " ++ verb ++ ", " ++
      toString batch.failed.length ++ " failed.\n"
  let output := String.join (batch.results.map statusLine) ++ closing
  let progress := Progress.textOfAll mode events
  match batchFailure batch with
  | none => ⟨output, progress, 0⟩
  | some reason => ⟨output, progress ++ (fail reason).errors, 1⟩

/-- Runs a batch on the index that the settings name, with a channel to the parser that is given up
afterwards. -/
def runBatch (machine : Machine σ ψ) (settings : Settings) (mode : ProgressMode) (verb : String)
    (task : StateM (Run (Link σ ψ) Connection) Batch) (link : Link σ ψ) : Printed × σ :=
  match machine.openIndex settings.indexPath link.world with
  | (.error error, state) =>
    (fail error.summary, Channel.close machine.workers { link with world := state })
  | (.ok index, state) =>
    let done := task ⟨Session.start { link with world := state }, index⟩
    let session := done.2.session
    let closed := Channel.close machine.workers session.world
    (printBatch verb mode (session.trace.filterMap Act.event?) done.1,
      machine.closeIndex done.2.index closed)

/-- The channel that the settings describe, on a machine. -/
def linkOf (settings : Settings) (state : σ) : Link σ ψ :=
  ⟨settings.channel, state⟩

/-- Adds projects. -/
def add (machine : Machine σ ψ) (settings : Settings) (mode : ProgressMode)
    (addresses : List String) (state : σ) : Printed × σ :=
  match Channel.start machine.workers (linkOf settings state) with
  | (.error _, link) =>
    (fail ("Failed to start parser worker `" ++ settings.parser.command ++ "`"), link.world)
  | (.ok (), link) =>
    let setup := Setup.make settings.extraction machine.current settings.mirror.sourceDir
    let task := Sync.addProjects (machine.team settings) Connection.backend setup addresses
    runBatch machine settings mode "synced" task link

/-- Deletes projects. -/
def delete (machine : Machine σ ψ) (settings : Settings) (mode : ProgressMode)
    (addresses : List String) (state : σ) : Printed × σ :=
  let task := Sync.deleteProjects (machine.team settings) Connection.backend addresses
  runBatch machine settings mode "deleted" task (linkOf settings state)

/-- Does something with the addresses that a file lists. -/
def withAddresses (machine : Machine σ ψ) (file : String)
    (task : List String → σ → Printed × σ) (state : σ) : Printed × σ :=
  match machine.readText? file state with
  | none => (fail ("Failed to read address list: " ++ file), state)
  | some text => task (Address.listed text) state

/-- Prints what an open index answers. -/
def query (machine : Machine σ ψ) (settings : Settings)
    (answer : Connection → Except StoreError Printed) (state : σ) : Printed × σ :=
  match machine.openIndex settings.indexPath state with
  | (.error error, after) => (fail error.summary, after)
  | (.ok index, after) =>
    match answer index with
    | .error error => (fail error.summary, after)
    | .ok printed => (printed, after)

/-- The size of the file at a path, or zero. -/
def sizeOf (machine : Machine σ ψ) (path : String) (state : σ) : Nat :=
  match (machine.files state).disk.read machine.current path with
  | .ok content => content.length
  | .error _ => 0

/-- Prints a record, if there is one. -/
def printRecord (id : String) : Option FileRecord → Printed
  | some file => succeed (file.toJson.indented ++ "\n")
  | none => fail ("file " ++ id ++ " is not indexed")

/-- Runs a command with settings that were read. -/
def perform (machine : Machine σ ψ) (settings : Settings) (mode : ProgressMode)
    (command : Command) (state : σ) : Printed × σ :=
  let path := settings.indexPath
  let change (step : Connection → Except StoreError Connection) (output : String) :
      Printed × σ :=
    match machine.changeDatabase path step state with
    | (.error error, after) => (fail error.summary, after)
    | (.ok (), after) => (succeed output, after)
  match command with
  | .createIndex => change Connection.create ("Index created at " ++ path ++ ".\n")
  | .deleteIndex => change Connection.drop "Index deleted.\n"
  | .addProject address => add machine settings mode [address] state
  | .addProjects file => withAddresses machine file (add machine settings mode) state
  | .deleteProject address => delete machine settings mode [address] state
  | .deleteProjects file => withAddresses machine file (delete machine settings mode) state
  | .stats =>
    let size := sizeOf machine path state
    query machine settings
      (fun index =>
        (Connection.backend.stats index).map fun stats =>
          succeed (Summary.render stats path size))
      state
  | .showFile id =>
    query machine settings
      (fun index => (Connection.backend.getFile index id).map (printRecord id)) state

/-- Runs a command. -/
def run (machine : Machine σ ψ) (invocation : Invocation) (state : σ) : Printed × σ :=
  match Settings.load (machine.files state).disk machine.current invocation.settings with
  | .error error => (fail error.message, state)
  | .ok settings => perform machine settings invocation.progress invocation.command state

/-- The version that the program tells. -/
def versionText : String := "agora 0.5.1\n"

/-- Runs a command line. Arguments that make no sense end with a code of their own. -/
def runArguments (machine : Machine σ ψ) (arguments : List String) (state : σ) : Printed × σ :=
  match Arguments.read arguments with
  | .run invocation => run machine invocation state
  | .help => (succeed "", state)
  | .version => (succeed versionText, state)
  | .misuse => (⟨"", "", 2⟩, state)

end Command

end SourceIndex
