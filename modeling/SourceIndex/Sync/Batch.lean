import SourceIndex.Sync.Project

/-!
# Batches

Several projects are added or deleted one after another. A project that fails does not keep the
others from being tried, unless its failure makes the parser unusable.
-/

set_option autoImplicit false

namespace SourceIndex

/-- The results of a batch, one for each address that was tried, in order. -/
structure Batch where
  results : List (String × Except SyncError Outcome)

namespace Batch

/-- The addresses that succeeded, with what was done. -/
def succeeded (batch : Batch) : List (String × Outcome) :=
  batch.results.filterMap fun entry =>
    match entry.2 with
    | .ok outcome => some (entry.1, outcome)
    | .error _ => none

/-- The addresses that failed, with the wording of their errors; a failure that ended the batch is
not among them. -/
def failed (batch : Batch) : List (String × String) :=
  batch.results.filterMap fun entry =>
    match entry.2 with
    | .ok _ => none
    | .error error => if error.isFatal then none else some (entry.1, error.message)

/-- The failure that ended the batch before its end, with its address. -/
def aborted (batch : Batch) : Option String :=
  batch.results.findSome? fun entry =>
    match entry.2 with
    | .ok _ => none
    | .error error => if error.isFatal then some (entry.1 ++ ": " ++ error.message) else none

/-- Nothing failed. -/
def isSuccess (batch : Batch) : Bool :=
  batch.failed.isEmpty && batch.aborted.isNone

end Batch

namespace Sync

variable {ε ι : Type}

/-- A result ends a batch. -/
def endsBatch : Except SyncError Outcome → Bool
  | .ok _ => false
  | .error error => error.isFatal

/-- Runs a step for each address until one result ends the batch. -/
def runAll (step : String → Sync ε ι Outcome) :
    List String → StateM (Run ε ι) (List (String × Except SyncError Outcome))
  | [] => pure []
  | address :: rest => do
    let result ← (step address).run
    if endsBatch result then pure [(address, result)]
    else
      let results ← runAll step rest
      pure ((address, result) :: results)

/-- Adds projects in order. -/
def addProjects (team : Collaborators ε) (backend : Backend ι) (setup : Setup)
    (addresses : List String) : StateM (Run ε ι) Batch := do
  let results ← runAll (syncProject team backend setup) addresses
  pure ⟨results⟩

/-- Deletes projects in order. -/
def deleteProjects (team : Collaborators ε) (backend : Backend ι) (addresses : List String) :
    StateM (Run ε ι) Batch := do
  let results ← runAll (deleteProject team backend) addresses
  pure ⟨results⟩

end Sync

end SourceIndex
