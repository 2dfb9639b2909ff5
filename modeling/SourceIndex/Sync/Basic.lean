import SourceIndex.Extraction
import SourceIndex.Plan

/-!
# Results of a sync

What adding or deleting a project can end with: an outcome, or an error that names the party that
failed.
-/

set_option autoImplicit false

namespace SourceIndex

/-- What adding or deleting a project did. -/
inductive Outcome where
  /-- The project was imported, with so many files, so many of them with structure. -/
  | imported (files structured : Nat)
  | reconciled (report : Report)
  | deleted (files : Nat)
  /-- The project to delete was not indexed. -/
  | notIndexed
deriving DecidableEq, Repr

/-- An outcome in words. -/
def Outcome.message : Outcome → String
  | .imported files structured =>
    "imported " ++ toString files ++ " files (" ++ toString structured ++ " with structure)"
  | .reconciled report =>
    toString report.created ++ " created, " ++ toString report.updated ++ " updated, " ++
      toString report.deleted ++ " deleted, " ++ toString report.unchanged ++ " unchanged"
  | .deleted files => "deleted with " ++ toString files ++ " files"
  | .notIndexed => "not indexed"

/-- Why adding or deleting a project failed. -/
inductive SyncError where
  /-- The address names no project, or there is no such project. -/
  | notFound (name : String)
  | host (chain : Chain)
  | mirror (chain : Chain)
  | store (error : StoreError)
  /-- Nothing in the project could be extracted. -/
  | nothingToIndex (project : String)
  | extract (error : ExtractError)
  | parser (error : ParserError)
  /-- The task that worked with the parser died. -/
  | task
deriving DecidableEq, Repr

namespace SyncError

/-- The error of extraction work that ended early. -/
def ofHalt : Halt → SyncError
  | .crashed => .task
  | .failed (.parser error) => .parser error
  | .failed error => .extract error

/-- The wording of an error. -/
def message : SyncError → String
  | .notFound name => "project " ++ name ++ " not found"
  | .host chain => "host request failed: " ++ chain.message
  | .mirror chain => "mirroring failed: " ++ chain.message
  | .store error => "index operation failed: " ++ error.message
  | .nothingToIndex project => "nothing to index in " ++ project
  | .extract error => "extraction failed: " ++ error.message
  | .parser error => error.message
  | .task => "extraction task failed"

/-- The class of an error, for status lines. -/
def className : SyncError → String
  | .notFound _ => "not found"
  | .host _ => "host error"
  | .mirror _ => "mirror error"
  | .store _ => "index error"
  | .nothingToIndex _ => "nothing to index"
  | .extract _ => "extraction error"
  | .parser _ => "parser error"
  | .task => "internal error"

/-- After a fatal error no further project is tried. -/
def isFatal : SyncError → Bool
  | .parser error => error.isFatal
  | _ => false

end SyncError

/-- The state of a run: the session with the outside parties, and the index. -/
structure Run (ε ι : Type) where
  session : Session ε
  index : ι

/-- A step of a sync. -/
abbrev Sync (ε ι α : Type) := ExceptT SyncError (StateM (Run ε ι)) α

/-- What a sync needs to know: which files to extract, and the absolute directory of the working
copies. -/
structure Setup where
  policy : Policy
  sourceDir : String
deriving DecidableEq, Repr

/-- The setup for a directory of working copies, which may be relative to the current directory. The
empty path has no absolute form and stays as it is. -/
def Setup.make (policy : Policy) (current sourceDir : String) : Setup :=
  ⟨policy, (Path.absolute? current sourceDir).getD sourceDir⟩

/-- The working copy of a project, `owner/name` below the directory of the working copies. -/
def Setup.localPath (setup : Setup) (projectId : String) : String :=
  ((projectId.toList.splitOn '/').map String.ofList).foldl Path.join setup.sourceDir

end SourceIndex
