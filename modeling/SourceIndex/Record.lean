import SourceIndex.Document
import SourceIndex.Json.Decode
import SourceIndex.Text.Lines

/-!
# Projects and files

A project as the hosting service describes it, an entry of its file listing, and the record that the
index keeps of a file.

A file's record starts from its listing entry, with no structure. Extraction then either attaches
the structure together with the text it was derived from, or demotes the record: its extension is
marked and it carries neither. A record that was given neither is plain.
-/

set_option autoImplicit false

namespace SourceIndex

/-! ## Projects -/

/-- What the index keeps of a project. -/
structure Project where
  /-- The id `owner/name`, under which the project's files are filed too. -/
  id : String
  defaultBranch : String
  url : String
  /-- Where the working copy is cloned from. -/
  gitUrl : String
  treesUrl : String
  user : String
  name : String
deriving DecidableEq, Repr, Inhabited

namespace Project

/-- The fields of a project's written form. -/
def fields : List Json.Field :=
  ["id", "default_branch", "url", "git_url", "trees_url", "user", "name"].map
    fun name => .needed name Json.isText

/-- Reads the written form of a project. -/
def ofJson (value : Json) : Except Json.DecodeError Project :=
  (Json.readRecord "ProjectRecord" fields value).map fun members =>
    { id := Json.textOf members "id"
      defaultBranch := Json.textOf members "default_branch"
      url := Json.textOf members "url"
      gitUrl := Json.textOf members "git_url"
      treesUrl := Json.textOf members "trees_url"
      user := Json.textOf members "user"
      name := Json.textOf members "name" }

/-- The members of a project's written form, in the order of its fields. -/
def members (project : Project) : Json.Members :=
  [("id", .string project.id), ("default_branch", .string project.defaultBranch),
    ("url", .string project.url), ("git_url", .string project.gitUrl),
    ("trees_url", .string project.treesUrl), ("user", .string project.user),
    ("name", .string project.name)]

/-- The written form of a project. -/
def toJson (project : Project) : Json :=
  Json.ofList project.members

end Project

/-! ## Listings -/

/-- An entry of a project's file listing. -/
structure RemoteFile where
  path : String
  /-- The hash of the file's content. -/
  sha : String
  mode : String
  /-- The kind of the entry: a file, a directory or another project. -/
  kind : String
  url : String
deriving DecidableEq, Repr, Inhabited

namespace RemoteFile

/-- The fields of an entry's written form. -/
def fields : List Json.Field :=
  (["path", "sha", "mode", "type"].map fun name => .needed name Json.isText) ++
    [.spare "url" Json.isText]

/-- Reads the written form of an entry. -/
def ofJson (value : Json) : Except Json.DecodeError RemoteFile :=
  (Json.readRecord "RemoteFile" fields value).map fun members =>
    { path := Json.textOf members "path"
      sha := Json.textOf members "sha"
      mode := Json.textOf members "mode"
      kind := Json.textOf members "type"
      url := Json.textOf members "url" }

/-- The written form of an entry. -/
def toJson (file : RemoteFile) : Json :=
  Json.ofList
    [("path", .string file.path), ("sha", .string file.sha), ("mode", .string file.mode),
      ("type", .string file.kind), ("url", .string file.url)]

end RemoteFile

/-- A project and its listing, as the hosting service answers. -/
structure RemoteProject where
  project : Project
  files : List RemoteFile
deriving DecidableEq, Repr, Inhabited

/-! ## Files -/

/-- What the index keeps of a file. -/
structure FileRecord where
  /-- The id `owner/name/path`. -/
  id : String
  /-- The id of the project that the file is filed under. -/
  projectId : String
  path : String
  name : String
  extension : String
  /-- The hash of the content, by which a change is noticed. -/
  sha : String
  mode : String
  kind : String
  url : String
  document : Option Document
  rawContent : Option String
  /-- The record was relabelled because it could not be extracted. -/
  demoted : Bool
deriving Inhabited

namespace FileRecord

/-- The mark in front of the extension of a file that could not be extracted. -/
def unextractedMark : String := "l"

/-- The part of a path after its last slash. -/
def nameOf (path : String) : String :=
  Text.onString (Text.afterLast '/') path

/-- The part of a name after its last point, empty if it has none. -/
def extensionOf (name : String) : String :=
  if name.toList.contains '.' then Text.onString (Text.afterLast '.') name else ""

/-- The id of a project's file. -/
def idOf (projectId path : String) : String :=
  projectId ++ "/" ++ path

/-- The record of a listing entry, before any extraction. -/
def ofRemote (projectId : String) (remote : RemoteFile) : FileRecord :=
  { id := idOf projectId remote.path
    projectId := projectId
    path := remote.path
    name := nameOf remote.path
    extension := extensionOf (nameOf remote.path)
    sha := remote.sha
    mode := remote.mode
    kind := remote.kind
    url := remote.url
    document := none
    rawContent := none
    demoted := false }

/-- The record carries structure. -/
def hasStructure (file : FileRecord) : Bool :=
  file.document.isSome

/-- Adds the structure together with the text it was derived from. -/
def attach (file : FileRecord) (document : Document) (text : String) : FileRecord :=
  { file with document := some document, rawContent := some text }

/-- Relabels the record as one that could not be extracted: it carries neither structure nor
text. -/
def demote (file : FileRecord) : FileRecord :=
  { file with
    extension := unextractedMark ++ file.extension
    document := none
    rawContent := none
    demoted := true }

/-- An update with this record leaves the stored structure and text in place: nothing was extracted
anew and the record was not demoted. -/
def keepsStoredStructure (file : FileRecord) : Bool :=
  !file.hasStructure && !file.demoted

/-- The record as an update stores it over another one. -/
def storedOver (file stored : FileRecord) : FileRecord :=
  if file.keepsStoredStructure then
    { file with document := stored.document, rawContent := stored.rawContent }
  else file

/-- The fields of a record's written form. -/
def fields : List Json.Field :=
  (["id", "project_id", "path", "name", "extension", "sha", "mode", "type", "url"].map
    fun name => .needed name Json.isText) ++
    [.spare "structure" (Json.orNull Json.isMap), .spare "raw_content" (Json.orNull Json.isText)]

/-- Reads the written form of a record. -/
def ofJson (value : Json) : Except Json.DecodeError FileRecord :=
  (Json.readRecord "FileRecord" fields value).map fun members =>
    { id := Json.textOf members "id"
      projectId := Json.textOf members "project_id"
      path := Json.textOf members "path"
      name := Json.textOf members "name"
      extension := Json.textOf members "extension"
      sha := Json.textOf members "sha"
      mode := Json.textOf members "mode"
      kind := Json.textOf members "type"
      url := Json.textOf members "url"
      document := Json.objectOf? members "structure"
      rawContent := Json.textOf? members "raw_content"
      demoted := false }

/-- The members of a record's written form, in the order of its fields. -/
def members (file : FileRecord) : Json.Members :=
  [("id", .string file.id), ("project_id", .string file.projectId), ("path", .string file.path),
    ("name", .string file.name), ("extension", .string file.extension), ("sha", .string file.sha),
    ("mode", .string file.mode), ("type", .string file.kind), ("url", .string file.url),
    ("structure", (file.document.map Json.object).getD .null),
    ("raw_content", Json.ofString? file.rawContent)]

/-- The written form of a record. -/
def toJson (file : FileRecord) : Json :=
  Json.ofList file.members

end FileRecord

end SourceIndex
