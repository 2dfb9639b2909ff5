import SourceIndex.Keyed
import SourceIndex.Path
import SourceIndex.Text.Utf8

/-!
# Disks

The contents of a disk as a value: files and directories under their absolute paths. Looking a path
up follows it from directory to directory, so that a path through something missing, or through a
file, fails as it would on a real disk. Names may have 255 bytes and a path 4095.
-/

set_option autoImplicit false

namespace SourceIndex

/-- Why a path cannot be used. -/
inductive DiskError where
  | notFound
  | permissionDenied
  | alreadyExists
  | notADirectory
  | isADirectory
  | invalidName
  | invalidPath
deriving DecidableEq, Repr

namespace DiskError

/-- The wording of an error. -/
def message : DiskError → String
  | .notFound => "No such file or directory (os error 2)"
  | .permissionDenied => "Permission denied (os error 13)"
  | .alreadyExists => "File exists (os error 17)"
  | .notADirectory => "Not a directory (os error 20)"
  | .isADirectory => "Is a directory (os error 21)"
  | .invalidName => "File name too long (os error 36)"
  | .invalidPath => "file name contained an unexpected NUL byte"

end DiskError

/-- What a path leads to. -/
inductive DiskNode where
  | file (content : Bytes)
  | directory
deriving DecidableEq, Repr

/-- Files and directories under their absolute paths. The root is always there. -/
structure Disk where
  nodes : Keyed (String × DiskNode) Prod.fst
deriving Inhabited

namespace Disk

/-- The disk with nothing but its root. -/
def empty : Disk :=
  ⟨Keyed.empty⟩

/-- The absolute path of a place. -/
def pathOf (place : List (List Char)) : String :=
  String.ofList (Path.ofSegments place)

/-- What is at a place. -/
def nodeAt (disk : Disk) (place : List (List Char)) : Option DiskNode :=
  if place.isEmpty then some .directory
  else (disk.nodes.find? (pathOf place)).map Prod.snd

/-- Follows segments from a place. Each step needs a directory to start from. -/
def follow (disk : Disk) (place : List (List Char)) :
    List (List Char) → Except DiskError (List (List Char))
  | [] => .ok place
  | segment :: rest =>
    match disk.nodeAt place with
    | none => .error .notFound
    | some (.file _) => .error .notADirectory
    | some .directory =>
      if segment = ['.'] then disk.follow place rest
      else if segment = ['.', '.'] then disk.follow place.dropLast rest
      else if 255 < (Utf8.encode segment).length then .error .invalidName
      else disk.follow (place ++ [segment]) rest

/-- What a path leads to from a current directory, and where. -/
def locate (disk : Disk) (current path : String) :
    Except DiskError (List (List Char) × DiskNode) :=
  if path.toList.contains (Char.ofNat 0) then .error .invalidPath
  else if path.isEmpty then .error .notFound
  else if 4095 < Utf8.size path then .error .invalidName
  else
    let start :=
      if Path.isAbsolute path then [] else Path.resolve [] (Path.segments current.toList)
    match disk.follow start (Path.segments path.toList) with
    | .error error => .error error
    | .ok place =>
      match disk.nodeAt place with
      | none => .error .notFound
      | some .directory => .ok (place, .directory)
      | some (.file content) =>
        if path.toList.getLast? == some '/' then .error .notADirectory
        else .ok (place, .file content)

/-- A path leads to something. -/
def pathExists (disk : Disk) (current path : String) : Bool :=
  match disk.locate current path with
  | .ok _ => true
  | .error _ => false

/-- The content of a file. -/
def read (disk : Disk) (current path : String) : Except DiskError Bytes :=
  match disk.locate current path with
  | .error error => .error error
  | .ok (_, .directory) => .error .isADirectory
  | .ok (_, .file content) => .ok content

/-- Puts a node at a place. -/
def putNode (disk : Disk) (place : List (List Char)) (node : DiskNode) : Disk :=
  if place.isEmpty then disk else ⟨disk.nodes.put (pathOf place, node)⟩

/-- Makes a directory of a place and of every place above it. -/
def addDirectories (disk : Disk) (place : List (List Char)) : Disk :=
  (List.range (place.length + 1)).foldl
    (fun built depth =>
      let above := place.take depth
      if (built.nodeAt above).isSome then built else built.putNode above .directory)
    disk

/-- Writes a file or a directory with every directory above it. -/
def write (disk : Disk) (current path : String) (node : DiskNode) : Disk :=
  let place := Path.resolved current path
  (disk.addDirectories place.dropLast).putNode place node

/-- Removes what is at a path, with everything below it. -/
def remove (disk : Disk) (current path : String) : Disk :=
  let place := Path.resolved current path
  let below := Path.ofSegments place ++ ['/']
  ⟨disk.nodes.filter fun entry =>
    entry.1 != pathOf place && !below.isPrefixOf entry.1.toList⟩

/-- Makes the directory that segments lead to from a place. The one above it must be there. -/
def makeDirectory (disk : Disk) (start segments : List (List Char)) : Except DiskError Disk :=
  match disk.follow start segments with
  | .error error => .error error
  | .ok place =>
    match disk.nodeAt place with
    | some _ => .error .alreadyExists
    | none => .ok (disk.putNode place .directory)

/-- Makes the directory that segments lead to from a place, unless it is there. -/
def ensureDirectory (disk : Disk) (start segments : List (List Char)) :
    Except DiskError Unit × Disk :=
  match disk.makeDirectory start segments with
  | .ok made => (.ok (), made)
  | .error error =>
    match disk.follow start segments with
    | .error _ => (.error error, disk)
    | .ok place =>
      if disk.nodeAt place = some .directory then (.ok (), disk) else (.error error, disk)

/-- Makes the directory that segments lead to from a place; the segments are given backward. Where
something is missing on the way, what is above is made first, and it stays even if the rest cannot
be made. -/
def makeThrough (disk : Disk) (start : List (List Char)) :
    List (List Char) → Except DiskError Unit × Disk
  | [] => (.ok (), disk)
  | last :: before =>
    let segments := (last :: before).reverse
    match disk.ensureDirectory start segments with
    | (.error .notFound, _) =>
      match disk.makeThrough start before with
      | (.ok (), made) => made.ensureDirectory start segments
      | failed => failed
    | done => done

/-- Makes a directory with every directory on the way to it, and tells what the disk is then. -/
def makeDirectories (disk : Disk) (current path : String) : Except DiskError Unit × Disk :=
  if path.toList.contains (Char.ofNat 0) then (.error .invalidPath, disk)
  else if 4095 < Utf8.size path then (.error .invalidName, disk)
  else
    let start :=
      if Path.isAbsolute path then [] else Path.resolve [] (Path.segments current.toList)
    let segments := (Path.segments path.toList).filter fun segment => segment != ['.']
    disk.makeThrough start segments.reverse

/-- A file as plain text: its ASCII bytes, all others left out; nothing if there is no such file. -/
def readAscii (disk : Disk) (current path : String) : Except DiskError (Option String) :=
  match disk.read current path with
  | .ok content => .ok (some (Utf8.asciiPart content))
  | .error .notFound => .ok none
  | .error error => .error error

end Disk

end SourceIndex
