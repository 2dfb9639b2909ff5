import SourceIndex.Index.Basic
import SourceIndex.Json.Reader

/-!
# The index in a database

Two tables, one of projects and one of files, each with the id as its primary key. The structure of
a file is stored as the text of an object and read back from that text. Whether a record was demoted
is not stored; the mark in its extension tells.

The tables are created and dropped together. As long as they do not exist every operation fails.
-/

set_option autoImplicit false

namespace SourceIndex

/-- A row of the table of files. -/
structure FileRow where
  id : String
  projectId : String
  path : String
  name : String
  extension : String
  sha : String
  mode : String
  kind : String
  url : String
  /-- The text of the structure, if there is one. -/
  structureText : Option String
  rawContent : Option String
deriving DecidableEq, Repr, Inhabited

namespace FileRow

/-- The row of a record. -/
def ofRecord (file : FileRecord) : FileRow :=
  { id := file.id
    projectId := file.projectId
    path := file.path
    name := file.name
    extension := file.extension
    sha := file.sha
    mode := file.mode
    kind := file.kind
    url := file.url
    structureText := file.document.map fun document => (Json.object document).compact
    rawContent := file.rawContent }

/-- The record of a row with the given structure. -/
def toRecord (row : FileRow) (document : Option Document) : FileRecord :=
  { id := row.id
    projectId := row.projectId
    path := row.path
    name := row.name
    extension := row.extension
    sha := row.sha
    mode := row.mode
    kind := row.kind
    url := row.url
    document := document
    rawContent := row.rawContent
    demoted := false }

/-- The record of a row, whose structure must be the text of an object. -/
def toRecord? (row : FileRow) : Except StoreError FileRecord :=
  match row.structureText with
  | none => .ok (row.toRecord none)
  | some text =>
    match Json.parseObject? text with
    | some document => .ok (row.toRecord (some document))
    | none => .error (.unreadableStructure row.id)

/-- The row that an update with a record leaves behind. -/
def updatedBy (row : FileRow) (file : FileRecord) : FileRow :=
  let fresh := ofRecord file
  if file.keepsStoredStructure then
    { fresh with structureText := row.structureText, rawContent := row.rawContent }
  else fresh

end FileRow

/-- The rows of both tables. -/
structure Tables where
  projects : Keyed Project Project.id
  files : Keyed FileRow FileRow.id
deriving Inhabited

/-- A database, with or without the tables of an index. -/
structure DatabaseIndex where
  tables : Option Tables
deriving Inhabited

namespace DatabaseIndex

/-- A database without tables. -/
def blank : DatabaseIndex :=
  ⟨none⟩

/-- Creates the tables, unless they exist. -/
def create (index : DatabaseIndex) : DatabaseIndex :=
  ⟨some (index.tables.getD ⟨Keyed.empty, Keyed.empty⟩)⟩

/-- Drops the tables. -/
def drop (_ : DatabaseIndex) : DatabaseIndex :=
  blank

/-- The tables exist. -/
def isCreated (index : DatabaseIndex) : Bool :=
  index.tables.isSome

/-- Uses the tables; `table` is the one that a statement misses first. -/
def withTables {α : Type} (index : DatabaseIndex) (table : Table) (task : Option String)
    (use : Tables → Except StoreError α) : Except StoreError α :=
  match index.tables with
  | none => .error (.database task (.noTable table))
  | some tables => use tables

/-- The index with other files. -/
def withFiles (tables : Tables) (files : Keyed FileRow FileRow.id) : DatabaseIndex :=
  ⟨some { tables with files := files }⟩

/-- What an operation was about to do with the row of an id. -/
def task (action id : String) : Option String :=
  some ("Failed to " ++ action ++ " " ++ id)

/-- Inserts a project. -/
def createProject (index : DatabaseIndex) (project : Project) :
    Except StoreError DatabaseIndex :=
  let task := task "create project" project.id
  index.withTables .projects task fun tables =>
    if tables.projects.contains project.id then
      .error (.database task (.duplicate .projects))
    else .ok ⟨some { tables with projects := tables.projects.put project }⟩

/-- Deletes the files filed under a project and the project, in one transaction. -/
def deleteProject (index : DatabaseIndex) (projectId : String) :
    Except StoreError (Nat × DatabaseIndex) :=
  index.withTables .files none fun tables =>
    let kept := tables.files.filter fun row => row.projectId != projectId
    .ok (tables.files.size - kept.size, ⟨some ⟨tables.projects.erase projectId, kept⟩⟩)

/-- The hashes of the files filed under a project. -/
def fileHashes (index : DatabaseIndex) (projectId : String) : Except StoreError Hashes :=
  index.withTables .files none fun tables =>
    let own := tables.files.filter fun row => row.projectId == projectId
    .ok ⟨own.entries.map fun row => (row.id, row.sha), by
      rw [List.map_map]
      exact own.distinct⟩

/-- Reads the record of a file. -/
def getFile (index : DatabaseIndex) (id : String) : Except StoreError (Option FileRecord) :=
  index.withTables .files none fun tables =>
    match tables.files.find? id with
    | none => .ok none
    | some row => row.toRecord?.map some

/-- Inserts a file. -/
def createFile (index : DatabaseIndex) (file : FileRecord) : Except StoreError DatabaseIndex :=
  let task := task "create file" file.id
  index.withTables .files task fun tables =>
    if tables.files.contains file.id then .error (.database task (.duplicate .files))
    else .ok (withFiles tables (tables.files.put (FileRow.ofRecord file)))

/-- Updates a file. -/
def updateFile (index : DatabaseIndex) (file : FileRecord) : Except StoreError DatabaseIndex :=
  index.withTables .files (task "update file" file.id) fun tables =>
    match tables.files.find? file.id with
    | none => .error (.fileMissing file.id)
    | some row => .ok (withFiles tables (tables.files.put (row.updatedBy file)))

/-- Deletes a file. -/
def deleteFile (index : DatabaseIndex) (id : String) : Except StoreError DatabaseIndex :=
  index.withTables .files (task "delete file" id) fun tables =>
    .ok (withFiles tables (tables.files.erase id))

/-- The index in numbers. -/
def stats (index : DatabaseIndex) : Except StoreError IndexStats :=
  index.withTables .projects none fun tables =>
    .ok
      { projects := tables.projects.size
        files := tables.files.size
        structuredFiles := tables.files.entries.countP fun row => row.structureText.isSome
        perProject := IndexStats.tally (tables.files.entries.map FileRow.projectId) }

/-- Overwrites the stored text of a file's structure and counts the rows changed. -/
def setStructureText (index : DatabaseIndex) (id text : String) :
    Except StoreError (Nat × DatabaseIndex) :=
  index.withTables .files none fun tables =>
    match tables.files.find? id with
    | none => .ok (0, index)
    | some row =>
      .ok (1, withFiles tables (tables.files.put { row with structureText := some text }))

/-- The operations of the index in a database. -/
def backend : Backend DatabaseIndex where
  hasProject index id :=
    index.withTables .projects none fun tables => .ok (tables.projects.contains id)
  createProject := createProject
  deleteProject := deleteProject
  fileHashes := fileHashes
  hasFile index id := index.withTables .files none fun tables => .ok (tables.files.contains id)
  getFile := getFile
  createFile := createFile
  updateFile := updateFile
  deleteFile := deleteFile
  stats := stats

end DatabaseIndex

end SourceIndex
