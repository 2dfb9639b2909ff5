import SourceIndex.Index.Basic

/-!
# The index in memory

Projects and records under their ids, and a count of the writes that succeeded.
-/

set_option autoImplicit false

namespace SourceIndex

/-- An index held in memory. -/
structure MemoryIndex where
  projects : Keyed Project Project.id
  files : Keyed FileRecord FileRecord.id
  /-- The writes that succeeded so far. -/
  writes : Nat
deriving Inhabited

namespace MemoryIndex

/-- The index without projects and files. -/
def empty : MemoryIndex :=
  ⟨Keyed.empty, Keyed.empty, 0⟩

/-- The records filed under a project, in the order of their ids. -/
def filesOf (index : MemoryIndex) (projectId : String) : List FileRecord :=
  (index.files.entries.filter fun file => file.projectId == projectId).mergeSort
    fun left right => Text.ordered left.id right.id

/-- Adds a project that is not there yet. -/
def createProject (index : MemoryIndex) (project : Project) : Except StoreError MemoryIndex :=
  if index.projects.contains project.id then .error (.projectExists project.id)
  else .ok { index with projects := index.projects.put project, writes := index.writes + 1 }

/-- Removes a project and the records filed under it, and counts the records. -/
def deleteProject (index : MemoryIndex) (projectId : String) : Nat × MemoryIndex :=
  let kept := index.files.filter fun file => file.projectId != projectId
  (index.files.size - kept.size,
    { projects := index.projects.erase projectId, files := kept, writes := index.writes + 1 })

/-- The hashes of the records filed under a project. -/
def fileHashes (index : MemoryIndex) (projectId : String) : Hashes :=
  let own := index.files.filter fun file => file.projectId == projectId
  ⟨own.entries.map fun file => (file.id, file.sha), by
    rw [List.map_map]
    exact own.distinct⟩

/-- Adds the record of a file that is not there yet. -/
def createFile (index : MemoryIndex) (file : FileRecord) : Except StoreError MemoryIndex :=
  if index.files.contains file.id then .error (.fileExists file.id)
  else .ok { index with files := index.files.put file, writes := index.writes + 1 }

/-- Overwrites the record of a file that is there. -/
def updateFile (index : MemoryIndex) (file : FileRecord) : Except StoreError MemoryIndex :=
  match index.files.find? file.id with
  | none => .error (.fileMissing file.id)
  | some stored =>
    .ok { index with
      files := index.files.put (file.storedOver stored), writes := index.writes + 1 }

/-- Removes the record of a file, if there is one. -/
def deleteFile (index : MemoryIndex) (id : String) : MemoryIndex :=
  { index with files := index.files.erase id, writes := index.writes + 1 }

/-- The index in numbers. -/
def stats (index : MemoryIndex) : IndexStats :=
  { projects := index.projects.size
    files := index.files.size
    structuredFiles := index.files.entries.countP FileRecord.hasStructure
    perProject := IndexStats.tally (index.files.entries.map FileRecord.projectId) }

/-- The operations of the index in memory. -/
def backend : Backend MemoryIndex where
  hasProject index id := .ok (index.projects.contains id)
  createProject := createProject
  deleteProject index id := .ok (index.deleteProject id)
  fileHashes index id := .ok (index.fileHashes id)
  hasFile index id := .ok (index.files.contains id)
  getFile index id := .ok (index.files.find? id)
  createFile := createFile
  updateFile := updateFile
  deleteFile index id := .ok (index.deleteFile id)
  stats index := .ok index.stats

end MemoryIndex

end SourceIndex
