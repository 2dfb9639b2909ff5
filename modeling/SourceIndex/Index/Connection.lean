import SourceIndex.Index.Database

/-!
# Connections

A database is used through a connection, which may be one that only reads. Whatever would change the
database is then refused, though not before the tables are found missing.
-/

set_option autoImplicit false

namespace SourceIndex

/-- An open database. -/
structure Connection where
  /-- The absolute path of the database's file, if it has one. -/
  place : Option String
  database : DatabaseIndex
  isWritable : Bool
deriving Inhabited

namespace Connection

variable {α : Type}

/-- Changes a database with a result. The tables are there if they hold `table`. -/
def write (connection : Connection) (table : Table) (task : Option String)
    (step : DatabaseIndex → Except StoreError (α × DatabaseIndex)) :
    Except StoreError (α × Connection) :=
  if connection.isWritable then
    (step connection.database).map fun done => (done.1, { connection with database := done.2 })
  else connection.database.withTables table task fun _ => .error (.database task .readOnly)

/-- Changes a database. -/
def change (connection : Connection) (table : Table) (task : Option String)
    (step : DatabaseIndex → Except StoreError DatabaseIndex) : Except StoreError Connection :=
  (connection.write table task fun database => (step database).map fun after => ((), after)).map
    Prod.snd

/-- Creates the tables, unless they exist. -/
def create (connection : Connection) : Except StoreError Connection :=
  if connection.isWritable || connection.database.isCreated then
    .ok { connection with database := connection.database.create }
  else .error (.database none .readOnly)

/-- Drops the tables, if they exist. -/
def drop (connection : Connection) : Except StoreError Connection :=
  if connection.isWritable || !connection.database.isCreated then
    .ok { connection with database := connection.database.drop }
  else .error (.database none .readOnly)

/-- Overwrites the stored text of a file's structure and counts the rows changed. -/
def setStructureText (connection : Connection) (id text : String) :
    Except StoreError (Nat × Connection) :=
  connection.write .files none fun database => database.setStructureText id text

/-- The operations of the index in an open database. -/
def backend : Backend Connection where
  hasProject connection := DatabaseIndex.backend.hasProject connection.database
  createProject connection project :=
    connection.change .projects (DatabaseIndex.task "create project" project.id) fun database =>
      database.createProject project
  deleteProject connection id :=
    connection.write .files none fun database => database.deleteProject id
  fileHashes connection := connection.database.fileHashes
  hasFile connection := DatabaseIndex.backend.hasFile connection.database
  getFile connection := connection.database.getFile
  createFile connection file :=
    connection.change .files (DatabaseIndex.task "create file" file.id) fun database =>
      database.createFile file
  updateFile connection file :=
    connection.change .files (DatabaseIndex.task "update file" file.id) fun database =>
      database.updateFile file
  deleteFile connection id :=
    connection.change .files (DatabaseIndex.task "delete file" id) fun database =>
      database.deleteFile id
  stats connection := connection.database.stats

end Connection

end SourceIndex
