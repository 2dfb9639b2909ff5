import SourceIndex.Sync.Basic

/-!
# Steps of a sync

The steps that a sync is made of: reporting, asking the outside parties, and reading and writing the
index. Every operation on the index may be refused by the outside world before it reaches the index.
A write enters the trace once it has succeeded, and an operation that failed enters it as such.
-/

set_option autoImplicit false

namespace SourceIndex.Sync

variable {ε ι : Type}

/-- Changes the session of a run. -/
def onSession (change : Session ε → Session ε) (run : Run ε ι) : Run ε ι :=
  { run with session := change run.session }

/-- Reports an event. -/
def report (event : Event) : Sync ε ι Unit :=
  fun run => (.ok (), onSession (·.record (.reported event)) run)

/-- Looks a project up on the hosting service. -/
def resolve (team : Collaborators ε) (address : String) : Sync ε ι (Option RemoteProject) :=
  fun run =>
    let answered := team.resolve address run.session.world
    let after := onSession (fun session => { session with world := answered.2 }) run
    match answered.1 with
    | .ok project => (.ok project, after)
    | .error chain => (.error (.host chain), after)

/-- Brings a working copy up to date. -/
def mirror (team : Collaborators ε) (call : MirrorCall) : Sync ε ι Unit :=
  fun run =>
    let answered := team.mirror call run.session.world
    let after := onSession
      (fun session => { (session.record (.mirrored call)) with world := answered.2 }) run
    match answered.1 with
    | .ok () => (.ok (), after)
    | .error chain => (.error (.mirror chain), after)

/-- There is a working copy at a path. -/
def hasWorkingCopy (team : Collaborators ε) (path : String) : Sync ε ι Bool :=
  fun run => (.ok (team.pathExists (Path.join path ".git") run.session.world), run)

/-- Does work with the parser and the disk. -/
def work {α : Type} (task : Work ε α) : Sync ε ι α :=
  fun run =>
    match task run.session with
    | (.ok value, session) => (.ok value, { run with session := session })
    | (.error halt, session) => (.error (.ofHalt halt), { run with session := session })

/-- Ends a run because an operation of the index failed. -/
def fail {α : Type} (operation : Operation) (error : StoreError) : Sync ε ι α :=
  fun run => (.error (.store error), onSession (·.record (.failed operation error)) run)

/-- Lets the outside world refuse an operation of the index. -/
def permit (team : Collaborators ε) (operation : Operation) : Sync ε ι Unit :=
  fun run =>
    let answered := team.refuse operation run.session.world
    let after := onSession (fun session => { session with world := answered.2 }) run
    match answered.1 with
    | none => (.ok (), after)
    | some chain => fail operation (.refused chain) after

/-- Reads the index. -/
def query {α : Type} (team : Collaborators ε) (operation : Operation)
    (read : ι → Except StoreError α) : Sync ε ι α := do
  permit team operation
  fun run =>
    match read run.index with
    | .ok value => (.ok value, run)
    | .error error => fail operation error run

/-- Writes to the index and notes the write. -/
def commit {α : Type} (team : Collaborators ε) (write : Write)
    (change : ι → Except StoreError (α × ι)) : Sync ε ι α := do
  permit team write.operation
  fun run =>
    match change run.index with
    | .ok (value, index) => (.ok value, ⟨run.session.record (.wrote write), index⟩)
    | .error error => fail write.operation error run

/-- A change of the index that gives no value. -/
def silent (change : ι → Except StoreError ι) (index : ι) : Except StoreError (Unit × ι) :=
  (change index).map fun changed => ((), changed)

/-- Whether a project is indexed. -/
def hasProject (team : Collaborators ε) (backend : Backend ι) (id : String) : Sync ε ι Bool :=
  query team ⟨.hasProject, id⟩ fun index => backend.hasProject index id

/-- The hashes of a project's indexed files. -/
def fileHashes (team : Collaborators ε) (backend : Backend ι) (id : String) : Sync ε ι Hashes :=
  query team ⟨.fileHashes, id⟩ fun index => backend.fileHashes index id

/-- Reads the records under ids, leaving out those that are gone. -/
def readRecords (backend : Backend ι) (index : ι) :
    List String → Except StoreError (List FileRecord)
  | [] => .ok []
  | id :: rest =>
    match backend.getFile index id with
    | .error error => .error error
    | .ok file =>
      match readRecords backend index rest with
      | .error error => .error error
      | .ok files => .ok (file.toList ++ files)

/-- The records of a project's indexed files, in the order of their ids. -/
def recordsOf (team : Collaborators ε) (backend : Backend ι) (id : String) :
    Sync ε ι (List FileRecord) := do
  let hashes ← fileHashes team backend id
  fun run =>
    match readRecords backend run.index (Text.sorted (hashes.entries.map Prod.fst)) with
    | .ok files => (.ok files, run)
    | .error error => (.error (.store error), run)

/-- Adds a project to the index. -/
def createProject (team : Collaborators ε) (backend : Backend ι) (project : Project) :
    Sync ε ι Unit :=
  commit team (.createProject project)
    (silent fun index => backend.createProject index project)

/-- Removes a project and its files from the index. -/
def removeProject (team : Collaborators ε) (backend : Backend ι) (id : String) :
    Sync ε ι Nat :=
  commit team (.deleteProject id)
    fun index => backend.deleteProject index id

/-- Adds a file to the index. -/
def createFile (team : Collaborators ε) (backend : Backend ι) (file : FileRecord) :
    Sync ε ι Unit :=
  commit team (.createFile file)
    (silent fun index => backend.createFile index file)

/-- Overwrites an indexed file. -/
def updateFile (team : Collaborators ε) (backend : Backend ι) (file : FileRecord) :
    Sync ε ι Unit :=
  commit team (.updateFile file)
    (silent fun index => backend.updateFile index file)

/-- Removes a file from the index. -/
def deleteFile (team : Collaborators ε) (backend : Backend ι) (id : String) : Sync ε ι Unit :=
  commit team (.deleteFile id)
    (silent fun index => backend.deleteFile index id)

/-- A write of a file that is still to be done. -/
inductive FileWrite where
  | create (file : FileRecord)
  | update (file : FileRecord)
  | delete (id : String)

/-- The write to the index that a write of a file is. -/
def FileWrite.write : FileWrite → Write
  | .create file => .createFile file
  | .update file => .updateFile file
  | .delete id => .deleteFile id

/-- Does a write. -/
def perform (team : Collaborators ε) (backend : Backend ι) : FileWrite → Sync ε ι Unit
  | .create file => createFile team backend file
  | .update file => updateFile team backend file
  | .delete id => deleteFile team backend id

/-- Does writes in order and reports each, the first as number `done + 1` of `total`. The first
failure ends it. -/
def performAll (team : Collaborators ε) (backend : Backend ι) (projectId : String)
    (total : Nat) : Nat → List FileWrite → Sync ε ι Unit
  | _, [] => pure ()
  | count, write :: rest => do
    perform team backend write
    report (.writing projectId (count + 1) total)
    performAll team backend projectId total (count + 1) rest

end SourceIndex.Sync
