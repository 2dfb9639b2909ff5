import SourceIndex.Disk
import SourceIndex.Index.Connection
import SourceIndex.Index.Location

/-!
# Database files

Where the databases are on a disk. Opening a database makes the directory that its path names and
the file itself if they are missing; a new file is a database without tables. An index can only be
opened where its tables were created before. A database without a file of its own is blank every
time it is opened.

A change goes to a log beside the file first and reaches the file when the database is closed. Only
a connection that takes the file to be immutable can tell, since it does not look at the log.
-/

set_option autoImplicit false

namespace SourceIndex

/-- A database in a file. -/
structure DatabaseFile where
  /-- What the database holds. -/
  content : DatabaseIndex
  /-- What the file holds without the log. -/
  settled : DatabaseIndex
deriving Inhabited

/-- A disk and the databases in its files, under the absolute paths of the files. A database that is
not among them is blank. -/
structure DatabaseFiles where
  disk : Disk
  databases : Keyed (String × DatabaseFile) Prod.fst

namespace DatabaseFiles

/-- How the file of a database starts: the name of the format, the size of a page, the versions for
writing and for reading, which tell whether there is a log, and four numbers that are always the
same. -/
def header (isLogged : Bool) : Bytes :=
  let version : UInt8 := if isLogged then 2 else 1
  Utf8.ofString "SQLite format 3" ++ [0, 16, 0, version, version, 0, 64, 32, 32]

/-- The longest path of a file that a database can be in. -/
def longestPath : Nat := 504

/-- The longest path that may occur on the way to a file. -/
def longestWay : Nat := 511

/-- Follows segments from a place by their spelling. Every place on the way is looked up, and
nothing is found there or something, unless a file or a name that is too long is in the way. -/
def spell? (disk : Disk) (place : List (List Char)) :
    List (List Char) → Option (List (List Char))
  | [] => some place
  | segment :: rest =>
    if segment = ['.'] then spell? disk place rest
    else if segment = ['.', '.'] then spell? disk place.dropLast rest
    else
      let next := place ++ [segment]
      if longestWay < Utf8.size (Disk.pathOf next) then none
      else
        match disk.follow [] next with
        | .ok _ => spell? disk next rest
        | .error .notFound => spell? disk next rest
        | .error _ => none

/-- The place of a database's file. -/
def placeOf? (disk : Disk) (current : String) (name : List Char) : Option (List (List Char)) :=
  let start := if name.head? == some '/' then [] else Path.segments current.toList
  match spell? disk [] (start ++ Path.segments name) with
  | none => none
  | some place =>
    if place.isEmpty || longestPath < Utf8.size (Disk.pathOf place) then none else some place

/-- Makes the directory that a path names for a database. -/
def prepareDirectory (files : DatabaseFiles) (current path : String) :
    Except StoreError Unit × DatabaseFiles :=
  match Path.parent? path with
  | none => (.ok (), files)
  | some parent =>
    match files.disk.makeDirectories current parent with
    | (.ok (), disk) => (.ok (), { files with disk := disk })
    | (.error _, disk) =>
      (.error (.unusable ("Failed to create index directory: " ++ parent)),
        { files with disk := disk })

/-- Makes a file without content at a place where there is nothing, in a directory that is there. -/
def makeFile? (disk : Disk) (location : Location) (place : List (List Char)) : Option Disk :=
  if location.access = .create ∧ disk.nodeAt place.dropLast = some .directory then
    some (disk.putNode place (.file []))
  else none

/-- The database in the file at an absolute path. -/
def databaseAt (files : DatabaseFiles) (path : String) : DatabaseFile :=
  ((files.databases.find? path).map Prod.snd).getD ⟨.blank, .blank⟩

/-- Opens an empty file, which becomes a database with its log. Without a log it stays empty until
something is written, and a connection that only reads cannot make a database of it. -/
def openEmpty? (files : DatabaseFiles) (location : Location) (place : List (List Char)) :
    Option (Connection × DatabaseFiles) :=
  let path := Disk.pathOf place
  let isLogged := location.usesLog && !location.isImmutable
  if isLogged && location.access = .read then none
  else
    let content := if isLogged then header true else []
    some (⟨some path, .blank, location.isWritable⟩,
      { disk := files.disk.putNode place (.file content)
        databases := files.databases.erase path })

/-- Opens the file of a database. One with a log cannot be used without it, unless the file is taken
to be immutable; one without gets its log when it is opened with it. -/
def openWritten? (files : DatabaseFiles) (location : Location) (place : List (List Char))
    (isLogged : Bool) : Option (Connection × DatabaseFiles) :=
  let path := Disk.pathOf place
  let file := files.databaseAt path
  let connect (database : DatabaseIndex) : Connection := ⟨some path, database, location.isWritable⟩
  if location.isImmutable then some (connect file.settled, files)
  else if location.usesLog = isLogged then some (connect file.content, files)
  else if isLogged || location.access = .read then none
  else
    some (connect file.content,
      { files with disk := files.disk.putNode place (.file (header true)) })

/-- Opens the file at a place. A file that is neither empty nor a database cannot be opened. -/
def openFile? (files : DatabaseFiles) (location : Location) (place : List (List Char)) :
    Option (Connection × DatabaseFiles) :=
  match files.disk.nodeAt place with
  | none =>
    match makeFile? files.disk location place with
    | some disk => openEmpty? { files with disk := disk } location place
    | none => none
  | some .directory => none
  | some (.file []) => openEmpty? files location place
  | some (.file content) =>
    if content = header true then openWritten? files location place true
    else if content = header false then openWritten? files location place false
    else none

/-- Opens the database at a location. -/
def open? (files : DatabaseFiles) (current : String) (location : Location) :
    Option (Connection × DatabaseFiles) :=
  match location.resolved? with
  | none => none
  | some resolved =>
    match resolved.target? with
    | none => none
    | some .memory => some (⟨none, .blank, resolved.access != .read⟩, files)
    | some (.file name) =>
      match placeOf? files.disk current name with
      | none => none
      | some place => files.openFile? resolved place

/-- Connects to the database at a path, making it if there is none. The directories that were made
stay even if it cannot be opened. -/
def connect (files : DatabaseFiles) (current path : String) :
    Except StoreError Connection × DatabaseFiles :=
  match files.prepareDirectory current path with
  | (.error error, ready) => (.error error, ready)
  | (.ok (), ready) =>
    match Location.read path with
    | .error fault => (.error (.unusable fault.message), ready)
    | .ok location =>
      match ready.open? current location with
      | none => (.error (.unusable ("Failed to open index at " ++ path)), ready)
      | some (connection, opened) => (.ok connection, opened)

/-- Connects to the database at a path, which must have the tables of an index. The files that were
made stay even if it has none. -/
def openIndex (files : DatabaseFiles) (current path : String) :
    Except StoreError Connection × DatabaseFiles :=
  match files.connect current path with
  | (.error error, after) => (.error error, after)
  | (.ok connection, after) =>
    if connection.database.isCreated then (.ok connection, after)
    else
      (.error (.unusable ("index at " ++ path ++ " does not exist; run create_index first")),
        after)

/-- Closes a connection: what was changed through it is in the file of the database then. -/
def close (files : DatabaseFiles) (connection : Connection) : DatabaseFiles :=
  match connection.place, connection.isWritable with
  | some path, true =>
    let place := Path.segments path.toList
    let isWritten := connection.database.isCreated && files.disk.nodeAt place == some (.file [])
    { disk := if isWritten then files.disk.putNode place (.file (header false)) else files.disk
      databases := files.databases.put (path, ⟨connection.database, connection.database⟩) }
  | _, _ => files

end DatabaseFiles

end SourceIndex
