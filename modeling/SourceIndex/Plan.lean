import SourceIndex.Index.Basic

/-!
# Plans

The writes that bring the indexed files of a project in line with a fresh listing. A listed file
whose id is not indexed is created, one whose hash differs is updated, and an indexed file that the
listing lacks is deleted. Creates and updates keep the order of the listing; deletes come last, in
the order of their ids.

Main statement: every listed file is counted once, as a create, as an update or as unchanged
(`size_make`).
-/

set_option autoImplicit false

namespace SourceIndex

/-- The writes that bring a project in line with its listing. -/
structure Plan where
  /-- Listed files that are not indexed, in the order of the listing. -/
  toCreate : List FileRecord
  /-- Listed files whose hash differs from the indexed one, in the order of the listing. -/
  toUpdate : List FileRecord
  /-- The ids of indexed files that are not listed, in order. -/
  toDelete : List String
  /-- The number of listed files whose hash is the indexed one. -/
  unchanged : Nat
deriving Inhabited

namespace Plan

/-- The plan for the entries of a listing, given the indexed hashes. Each indexed file that an entry
matches is struck off; those left over at the end are deleted. -/
def make (projectId : String) : List RemoteFile → Hashes → Plan
  | [], left => ⟨[], [], Text.sorted (left.entries.map Prod.fst), 0⟩
  | remote :: rest, left =>
    let file := FileRecord.ofRemote projectId remote
    match left.find? file.id with
    | none =>
      let plan := make projectId rest left
      { plan with toCreate := file :: plan.toCreate }
    | some indexed =>
      let plan := make projectId rest (left.erase file.id)
      if indexed.2 = file.sha then { plan with unchanged := plan.unchanged + 1 }
      else { plan with toUpdate := file :: plan.toUpdate }

/-- The plan asks for no write. -/
def isEmpty (plan : Plan) : Bool :=
  plan.toCreate.isEmpty && plan.toUpdate.isEmpty && plan.toDelete.isEmpty

/-- The number of writes. -/
def writeCount (plan : Plan) : Nat :=
  plan.toCreate.length + plan.toUpdate.length + plan.toDelete.length

/-- The plan has records to write. -/
def hasRecords (plan : Plan) : Bool :=
  !plan.toCreate.isEmpty || !plan.toUpdate.isEmpty

/-- Every entry of a listing is planned exactly once. -/
theorem size_make (projectId : String) (listing : List RemoteFile) (indexed : Hashes) :
    (make projectId listing indexed).toCreate.length +
        (make projectId listing indexed).toUpdate.length +
      (make projectId listing indexed).unchanged = listing.length := by
  induction listing generalizing indexed with
  | nil => rfl
  | cons remote rest ih =>
    rw [make]
    dsimp only
    split
    · have counted := ih indexed
      simp only [List.length_cons]
      omega
    · have counted := ih (indexed.erase (FileRecord.ofRemote projectId remote).id)
      split
      · simp only [List.length_cons]
        omega
      · simp only [List.length_cons]
        omega

/-! ## Preparing the records -/

/-- Prepares records one after another until one fails: the records, those from the failing one on
as they were, and the failure. -/
def prepareFiles {σ α : Type} (step : FileRecord → ExceptT α (StateM σ) FileRecord) :
    List FileRecord → StateM σ (List FileRecord × Option α)
  | [] => pure ([], none)
  | file :: rest => do
    match ← (step file).run with
    | .error failure => pure (file :: rest, some failure)
    | .ok prepared =>
      let others ← prepareFiles step rest
      pure (prepared :: others.1, others.2)

/-- Prepares every record to be written, those to be created first, and stops at the first
failure. -/
def prepare {σ α : Type} (step : FileRecord → ExceptT α (StateM σ) FileRecord) (plan : Plan) :
    StateM σ (Plan × Option α) := do
  let created ← prepareFiles step plan.toCreate
  match created.2 with
  | some failure => pure ({ plan with toCreate := created.1 }, some failure)
  | none =>
    let updated ← prepareFiles step plan.toUpdate
    pure ({ plan with toCreate := created.1, toUpdate := updated.1 }, updated.2)

end Plan

/-- What applying a plan did. -/
structure Report where
  created : Nat
  updated : Nat
  deleted : Nat
  unchanged : Nat
deriving DecidableEq, Repr, Inhabited

/-- The report of a plan that was applied in full. -/
def Plan.report (plan : Plan) : Report :=
  ⟨plan.toCreate.length, plan.toUpdate.length, plan.toDelete.length, plan.unchanged⟩

end SourceIndex
