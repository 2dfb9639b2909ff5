import SourceIndex.Index.Memory
import SourceIndex.Rehearsal.Stage
import SourceIndex.Sync.Basic

/-!
# Scenes

A scene is a stage with one project that is published under its own id, together with an index in
memory. It is what a sync of that project starts from.
-/

set_option autoImplicit false

namespace SourceIndex.Rehearsal.Scene

/-- The project of a scene. -/
def project : Project where
  id := "o/p"
  defaultBranch := "main"
  url := "https://host/o/p"
  gitUrl := "https://host/o/p.git"
  treesUrl := "https://host/o/p/trees"
  user := "o"
  name := "p"

/-- A file in a listing of the project. -/
def entry (path sha : String) : RemoteFile :=
  ⟨path, sha, "100644", "blob", ""⟩

/-- The working copies of a scene are below the directory of this setup. -/
def setup : Setup :=
  ⟨Policy.standard, "/w"⟩

/-- A working copy with the files of a listing, all empty. -/
def workingCopy (listing : List RemoteFile) : Disk :=
  let directories := ["/w", "/w/o", "/w/o/p"].foldl
    (fun disk path => disk.write "/" path .directory) Disk.empty
  listing.foldl
    (fun disk file => disk.write "/" (Path.join "/w/o/p" file.path) (.file [])) directories

/-- An index that holds the project with files, none of which has structure. -/
def indexed (files : List RemoteFile) : MemoryIndex where
  projects := Keyed.ofList [project]
  files := Keyed.ofList (files.map (FileRecord.ofRemote project.id))
  writes := 0

/-- The start of a sync: what the hosting service lists, what the parser replies, which operations
of the index fail, and the index. -/
def opening (listing : List RemoteFile) (script : Script) (rules : List Rule)
    (index : MemoryIndex) : Run Stage MemoryIndex where
  session := Session.start
    { Stage.bare "/w" with
      disk := workingCopy listing
      host := Keyed.ofList [(project.id, .project ⟨project, listing⟩)]
      script := script
      rules := rules }
  index := index

/-- The scripted parties, but no operation of the index is refused. -/
def permitting : Collaborators Stage :=
  { Stage.team with refuse := fun _ stage => (none, stage) }

/-- Parties that give every answer as the scripted ones give their first, whatever came before. -/
def unmoved (stage : Stage) : Collaborators Unit where
  resolve address _ := ((Stage.team.resolve address stage).1, ())
  mirror call _ := ((Stage.team.mirror call stage).1, ())
  ask kind payload _ := ((Stage.team.ask kind payload stage).1, ())
  read path _ := Stage.team.read path stage
  pathExists path _ := Stage.team.pathExists path stage
  refuse operation _ := ((Stage.team.refuse operation stage).1, ())

end SourceIndex.Rehearsal.Scene
