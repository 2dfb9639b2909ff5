import SourceIndex.Address
import SourceIndex.Sync.Step

/-!
# Syncing one project

A project is looked up on the hosting service, its working copy is brought up to date, and then the
index is brought in line: by a reconciliation if the project is indexed, and by a first import if it
is not.

A reconciliation extracts the new and changed files one by one and writes only what changed, deletes
last. A first import extracts the whole working copy at once and indexes the project only if
something in it has structure; when a write fails after the project was written, the project is
removed again and the failure of the write is the result.
-/

set_option autoImplicit false

namespace SourceIndex.Sync

variable {ε ι : Type}

/-- The writes of a plan, in the order they are done. -/
def writesOf (plan : Plan) : List FileWrite :=
  plan.toCreate.map .create ++ plan.toUpdate.map .update ++ plan.toDelete.map .delete

/-- Does the writes of a plan. -/
def apply (team : Collaborators ε) (backend : Backend ι) (projectId : String) (plan : Plan) :
    Sync ε ι Report := do
  performAll team backend projectId plan.writeCount 0 (writesOf plan)
  pure plan.report

/-- The plan that brings a project in line with a listing. -/
def loadPlan (team : Collaborators ε) (backend : Backend ι) (projectId : String)
    (listing : List RemoteFile) : Sync ε ι Plan := do
  let indexed ← fileHashes team backend projectId
  pure (Plan.make projectId listing indexed)

/-- Extracts the records of a plan. -/
def preparePlan (step : FileRecord → Work ε FileRecord) (plan : Plan) : Work ε Plan :=
  fun session =>
    match plan.prepare step session with
    | ((prepared, none), after) => (.ok prepared, after)
    | ((_, some halt), after) => (.error halt, after)

/-- Extracts the record of a file from the working copy of its project. -/
def extractRecord (team : Collaborators ε) (setup : Setup) (projectId : String)
    (file : FileRecord) : Work ε FileRecord :=
  Extraction.enrich team setup.policy none (Path.join (setup.localPath projectId) file.path) file

/-- The plan for a listing, with the records to be written extracted. -/
def preparedPlan (team : Collaborators ε) (backend : Backend ι) (setup : Setup)
    (projectId : String) (listing : List RemoteFile) : Sync ε ι Plan := do
  let plan ← loadPlan team backend projectId listing
  if plan.hasRecords then work (preparePlan (extractRecord team setup projectId) plan)
  else pure plan

/-- Brings an indexed project in line with its listing. -/
def reconcile (team : Collaborators ε) (backend : Backend ι) (setup : Setup)
    (projectId : String) (listing : List RemoteFile) : Sync ε ι Report := do
  let prepared ← preparedPlan team backend setup projectId listing
  apply team backend projectId prepared

/-- Extracts the listed files one by one, given the structures of the whole working copy. -/
def enrichAll (team : Collaborators ε) (policy : Policy) (structures : Structures)
    (directory projectId : String) : List RemoteFile → Work ε (List FileRecord)
  | [] => pure []
  | remote :: rest => do
    let file ← Extraction.enrich team policy (some structures)
      (Path.join directory remote.path) (FileRecord.ofRemote projectId remote)
    let files ← enrichAll team policy structures directory projectId rest
    pure (file :: files)

/-- Extracts the working copy of a project; nothing if the parser has no result for it. -/
def extractProject (team : Collaborators ε) (setup : Setup) (projectId : String)
    (listing : List RemoteFile) : Work ε (Option (List FileRecord)) := do
  let directory := setup.localPath projectId
  match ← Extraction.attempt (Extraction.extractDirectory team directory) with
  | .error (.empty _) => pure none
  | .error error => throw (.failed error)
  | .ok structures =>
    if structures.entries.isEmpty then pure none
    else
      let files ← enrichAll team setup.policy structures directory projectId listing
      pure (some files)

/-- Runs a step and undoes it by another one if it fails. The failure of the first step is the
result, whatever becomes of the second. -/
def orUndo {α β : Type} (step : Sync ε ι α) (undo : Sync ε ι β) : Sync ε ι α :=
  fun run =>
    match step run with
    | (.ok value, after) => (.ok value, after)
    | (.error error, after) => (.error error, (undo after).2)

/-- The records of a project to be imported, of which one has structure at least. -/
def importedRecords (team : Collaborators ε) (setup : Setup) (projectId : String)
    (listing : List RemoteFile) : Sync ε ι (List FileRecord) := do
  report (.extracting projectId)
  match ← work (extractProject team setup projectId listing) with
  | none => throw (.nothingToIndex projectId)
  | some files =>
    if files.countP FileRecord.hasStructure = 0 then throw (.nothingToIndex projectId)
    else pure files

/-- Adds a project with its files to the index. The project is removed again if a file cannot be
added. -/
def addProject (team : Collaborators ε) (backend : Backend ι) (projectId : String)
    (project : Project) (files : List FileRecord) : Sync ε ι Unit := do
  createProject team backend project
  orUndo
    (performAll team backend projectId files.length 0 (files.map .create))
    (removeProject team backend projectId)

/-- Imports a project that is not indexed. -/
def firstImport (team : Collaborators ε) (backend : Backend ι) (setup : Setup)
    (projectId : String) (remote : RemoteProject) : Sync ε ι Outcome := do
  let files ← importedRecords team setup projectId remote.files
  addProject team backend projectId remote.project files
  pure (.imported files.length (files.countP FileRecord.hasStructure))

/-- The project id of an address. -/
def projectIdOf (address : String) : Sync ε ι String :=
  match Address.projectId? address with
  | some id => pure id
  | none => throw (.notFound address)

/-- Looks a project up that must be there. -/
def resolveProject (team : Collaborators ε) (address projectId : String) :
    Sync ε ι RemoteProject := do
  match ← resolve team address with
  | some remote => pure remote
  | none => throw (.notFound projectId)

/-- Looks a project up, brings its working copy up to date and says whether it is indexed. -/
def survey (team : Collaborators ε) (backend : Backend ι) (setup : Setup) (address : String) :
    Sync ε ι (String × RemoteProject × Bool) := do
  let projectId ← projectIdOf address
  report (.resolving projectId)
  let remote ← resolveProject team address projectId
  let directory := setup.localPath projectId
  let present ← hasWorkingCopy team directory
  report (.mirroring projectId (!present))
  mirror team ⟨projectId, remote.project.gitUrl, directory, remote.project.defaultBranch⟩
  let indexed ← hasProject team backend projectId
  pure (projectId, remote, indexed)

/-- Reconciles an indexed project and imports any other. -/
def settle (team : Collaborators ε) (backend : Backend ι) (setup : Setup) (projectId : String)
    (remote : RemoteProject) (indexed : Bool) : Sync ε ι Outcome :=
  if indexed then do
    let report ← reconcile team backend setup projectId remote.files
    pure (.reconciled report)
  else firstImport team backend setup projectId remote

/-- Brings the index in line with the hosting service for one project. -/
def syncProject (team : Collaborators ε) (backend : Backend ι) (setup : Setup)
    (address : String) : Sync ε ι Outcome := do
  let (projectId, remote, indexed) ← survey team backend setup address
  let outcome ← settle team backend setup projectId remote indexed
  report (.finished projectId)
  pure outcome

/-- Removes a project and all of its files from the index. -/
def deleteProject (team : Collaborators ε) (backend : Backend ι) (address : String) :
    Sync ε ι Outcome := do
  let projectId ← projectIdOf address
  let indexed ← hasProject team backend projectId
  if indexed then
    let files ← removeProject team backend projectId
    report (.finished projectId)
    pure (.deleted files)
  else pure .notIndexed

end SourceIndex.Sync
