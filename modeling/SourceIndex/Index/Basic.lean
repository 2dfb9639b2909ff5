import SourceIndex.Keyed
import SourceIndex.Record

/-!
# Indexes

An index keeps projects and, filed under the id of their project, the records of files. Two kinds of
index offer the same operations: one held in memory, and one held in the tables of a database. The
operations are collected in `Backend`, so that everything built on an index works with either.

A failing operation returns an error and no index, so it cannot have changed anything.
-/

set_option autoImplicit false

namespace SourceIndex

/-- The tables of the database index. -/
inductive Table where
  | projects
  | files
deriving DecidableEq, Repr

/-- The name of a table. -/
def Table.name : Table → String
  | .projects => "projects"
  | .files => "files"

/-- What a database refuses. -/
inductive DatabaseFault where
  /-- A row with the same id is there already. -/
  | duplicate (table : Table)
  /-- The table does not exist. -/
  | noTable (table : Table)
  /-- The database was opened for reading only. -/
  | readOnly
deriving DecidableEq, Repr

/-- The wording of a database fault. -/
def DatabaseFault.message : DatabaseFault → String
  | .duplicate table => "(code: 1555) UNIQUE constraint failed: " ++ table.name ++ ".id"
  | .noTable table => "(code: 1) no such table: " ++ table.name
  | .readOnly => "(code: 8) attempt to write a readonly database"

/-- Why an operation of an index failed. -/
inductive StoreError where
  | projectExists (id : String)
  | fileExists (id : String)
  | fileMissing (id : String)
  /-- The stored structure of a file is not the text of an object. -/
  | unreadableStructure (id : String)
  /-- The database refused, possibly during the named task. -/
  | database (task : Option String) (fault : DatabaseFault)
  /-- The database file cannot be used. -/
  | unusable (reason : String)
  /-- The index failed for reasons of its own, given as messages from the outermost inward. -/
  | refused (chain : List String)
deriving DecidableEq, Repr

namespace StoreError

/-- The messages of an error from the outermost inward. A database's fault is reported once by the
database and once by the connection to it. -/
def chain : StoreError → List String
  | .projectExists id => ["project " ++ id ++ " already exists"]
  | .fileExists id => ["file " ++ id ++ " already exists"]
  | .fileMissing id => ["file " ++ id ++ " does not exist"]
  | .unreadableStructure id => ["Stored structure of " ++ id ++ " is not valid JSON"]
  | .database task fault =>
    task.toList ++ ["error returned from database: " ++ fault.message, fault.message]
  | .unusable reason => [reason]
  | .refused chain => chain

/-- All messages of an error. -/
def message (error : StoreError) : String :=
  ": ".intercalate error.chain

/-- The outermost message of an error. -/
def summary (error : StoreError) : String :=
  error.chain.headD ""

end StoreError

/-- What an index holds, in numbers. -/
structure IndexStats where
  projects : Int
  files : Int
  /-- The files whose record carries structure. -/
  structuredFiles : Int
  /-- The projects that have files, each with the number of them. -/
  perProject : List (String × Int)
deriving DecidableEq, Repr, Inhabited

/-- The content hashes of files, under the files' ids. -/
abbrev Hashes := Keyed (String × String) Prod.fst

/-- The operations of a kind of index. -/
structure Backend (ι : Type) where
  hasProject : ι → String → Except StoreError Bool
  createProject : ι → Project → Except StoreError ι
  /-- Removes a project and every file filed under it, and counts the files. -/
  deleteProject : ι → String → Except StoreError (Nat × ι)
  /-- The hashes of the files filed under a project. -/
  fileHashes : ι → String → Except StoreError Hashes
  hasFile : ι → String → Except StoreError Bool
  getFile : ι → String → Except StoreError (Option FileRecord)
  createFile : ι → FileRecord → Except StoreError ι
  /-- Overwrites a file's record, except for the structure and text if the new record keeps
  those. -/
  updateFile : ι → FileRecord → Except StoreError ι
  deleteFile : ι → String → Except StoreError ι
  stats : ι → Except StoreError IndexStats

/-- The operations of an index that a sync uses. -/
inductive Method where
  | hasProject
  | createProject
  | deleteProject
  | fileHashes
  | createFile
  | updateFile
  | deleteFile
deriving DecidableEq, Repr

/-- The operation changes the index. -/
def Method.isWrite : Method → Bool
  | .hasProject | .fileHashes => false
  | .createProject | .deleteProject | .createFile | .updateFile | .deleteFile => true

/-- The use of an operation for the project or file with an id. -/
structure Operation where
  method : Method
  id : String
deriving DecidableEq, Repr

/-- A write to an index. -/
inductive Write where
  | createProject (project : Project)
  | deleteProject (id : String)
  | createFile (file : FileRecord)
  | updateFile (file : FileRecord)
  | deleteFile (id : String)

/-- The operation that does a write. -/
def Write.operation : Write → Operation
  | .createProject project => ⟨.createProject, project.id⟩
  | .deleteProject id => ⟨.deleteProject, id⟩
  | .createFile file => ⟨.createFile, file.id⟩
  | .updateFile file => ⟨.updateFile, file.id⟩
  | .deleteFile id => ⟨.deleteFile, id⟩

namespace IndexStats

/-- The order of the projects in the statistics: more files first, then by id. -/
def precedes (left right : String × Int) : Bool :=
  if left.2 = right.2 then Text.ordered left.1 right.1 else right.2 < left.2

/-- The distinct ids of a list. -/
def distinctIds : List String → List String
  | [] => []
  | id :: rest => id :: (distinctIds rest).filter fun other => other != id

/-- Counts how often each id occurs, the most frequent first. -/
def tally (ids : List String) : List (String × Int) :=
  ((distinctIds ids).map fun id => (id, (ids.count id : Int))).mergeSort precedes

end IndexStats

end SourceIndex
