import SourceIndex.Collaborators
import SourceIndex.Json.Reader

/-!
# Extraction

Structure is extracted file by file, or for a whole directory in one request. An answer must be the
text of an object; the structure is that object, normalized. An empty answer to a file request is
tried once more.

`enrich` decides for one record whether extraction applies and what becomes of the record. Only an
error after which the parser is unusable ends the work; any other failure demotes the record.
-/

set_option autoImplicit false

namespace SourceIndex

/-- Which files are extracted. -/
structure Policy where
  /-- The extensions of source files. -/
  extensions : List String
  /-- A longer name, in bytes, is not extracted. -/
  maxNameLength : Nat
deriving DecidableEq, Repr

namespace Policy

/-- The policy that applies unless another one is chosen. -/
def standard : Policy :=
  ⟨["java"], 125⟩

/-- Files with this extension are source files. -/
def isSource (policy : Policy) (extension : String) : Bool :=
  policy.extensions.contains extension

end Policy

/-- Why an extraction gave nothing. -/
inductive ExtractError where
  /-- The parser had no result, twice. -/
  | empty (path : String)
  /-- The parser's answer is not well formed. -/
  | malformed (path : String)
  /-- The result for a path is not an object. -/
  | notAnObject (path : String)
  | parser (error : ParserError)
deriving DecidableEq, Repr

namespace ExtractError

/-- The wording of an error. -/
def message : ExtractError → String
  | .empty path => "parser returned no result for " ++ path
  | .malformed path => "parser returned malformed JSON for " ++ path
  | .notAnObject path => "parser result for " ++ path ++ " is not a JSON object"
  | .parser error => error.message

/-- After a fatal error the parser can no longer be used. -/
def isFatal : ExtractError → Bool
  | .parser error => error.isFatal
  | _ => false

end ExtractError

/-- Why extraction work ended before its end. -/
inductive Halt where
  | failed (error : ExtractError)
  /-- The task that did the work died. -/
  | crashed
deriving DecidableEq, Repr

/-- Work with the parser and the disk. -/
abbrev Work (ε α : Type) := ExceptT Halt (StateM (Session ε)) α

/-- The documents of a directory's files, under the paths of the files. -/
abbrev Structures := Keyed (String × Document) Prod.fst

namespace Extraction

variable {ε : Type}

/-- Sends one request to the parser. -/
def ask (team : Collaborators ε) (kind : RequestKind) (payload : String) : Work ε String :=
  fun session =>
    let answered := team.ask kind payload session.world
    let after := { (session.record (.asked kind payload)) with world := answered.2 }
    match answered.1 with
    | .text answer => (.ok answer, after)
    | .failed error => (.error (.failed (.parser error)), after)
    | .crashed => (.error .crashed, after)

/-- Reads a file as plain text: its ASCII bytes, all others left out. -/
def readSource (team : Collaborators ε) (path : String) : Work ε (Except DiskError String) :=
  fun session =>
    (.ok ((team.read path session.world).map Utf8.asciiPart), session.record (.read path))

/-- The normalized document of a value. -/
def documentOf (path : String) : Json → Except ExtractError Document
  | .object members => .ok (Document.normalize members)
  | _ => .error (.notAnObject path)

/-- The document that an answer spells. -/
def readAnswer (path answer : String) : Except ExtractError Document :=
  match Json.parse? answer with
  | none => .error (.malformed path)
  | some value => documentOf path value

/-- Takes up a result as work. -/
def ofResult {α : Type} : Except ExtractError α → Work ε α
  | .ok value => pure value
  | .error error => throw (.failed error)

/-- Extracts one file. -/
def extractFile (team : Collaborators ε) (path : String) : Work ε Document := do
  let target := Path.key path
  let first ← ask team .file target
  let answer ← if first.isEmpty then ask team .file target else pure first
  if answer.isEmpty then throw (.failed (.empty target)) else ofResult (readAnswer target answer)

/-- Files the documents of a directory under their paths. Members are taken in the order of their
keys; of several that spell one path the last stays. -/
def fileAll (filed : Structures) : Json.Members → Except ExtractError Structures
  | [] => .ok filed
  | member :: rest =>
    let path := Path.key member.1
    match documentOf path member.2 with
    | .error error => .error error
    | .ok document => fileAll (filed.put (path, document)) rest

/-- The documents that the answer for a directory spells. -/
def readDirectoryAnswer (path answer : String) : Except ExtractError Structures :=
  match Json.parseObject? answer with
  | none => .error (.malformed path)
  | some members => fileAll Keyed.empty members

/-- Extracts every file below a directory. -/
def extractDirectory (team : Collaborators ε) (path : String) : Work ε Structures := do
  let target := Path.key path
  let answer ← ask team .directory target
  if answer.isEmpty then throw (.failed (.empty target))
  else ofResult (readDirectoryAnswer target answer)

/-- Runs an extraction and hands on what it gave, or the error if the parser is still usable. -/
def attempt {α : Type} (work : Work ε α) : Work ε (Except ExtractError α) :=
  fun session =>
    match work session with
    | (.ok value, after) => (.ok (.ok value), after)
    | (.error .crashed, after) => (.error .crashed, after)
    | (.error (.failed error), after) =>
      if error.isFatal then (.error (.failed error), after) else (.ok (.error error), after)

/-- The document of a file: from the batch if it has one, else extracted. -/
def documentFor (team : Collaborators ε) (batch : Option Structures) (path : String) :
    Work ε (Except ExtractError Document) :=
  match batch.bind fun structures => structures.find? (Path.key path) with
  | some entry => pure (.ok entry.2)
  | none => attempt (extractFile team path)

/-- Adds structure and text to the record of a source file, or demotes it: when its name is too
long, when extraction fails, or when the file cannot be read. Other records stay as they are. -/
def enrich (team : Collaborators ε) (policy : Policy) (batch : Option Structures)
    (path : String) (file : FileRecord) : Work ε FileRecord := do
  if !policy.isSource file.extension then return file
  if policy.maxNameLength < Utf8.size file.name then return file.demote
  match ← documentFor team batch path with
  | .error _ => return file.demote
  | .ok document =>
    match ← readSource team path with
    | .ok text => return file.attach document text
    | .error _ => return file.demote

end Extraction

end SourceIndex
