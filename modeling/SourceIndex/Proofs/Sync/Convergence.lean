import SourceIndex.Proofs.Plan.Reconciliation
import SourceIndex.Proofs.Sync.Steps
import SourceIndex.Rehearsal.Scene

/-!
# A sync that succeeds

A sync that succeeds leaves a project with the hashes of the listing, whatever was indexed before:
no listed file is missing, none is left that the listing lacks, and each hash is the listed one. A
listing that names a path twice cannot succeed, since the file of its second occurrence is created
although it is there.

The outcome says what was done in numbers that can be told from the listing and from the rows before
and after (`Accounts`).

Main statement: both together, for every index whose rows are filed under projects that are there
(`syncProject_converges`).
-/

set_option autoImplicit false

namespace SourceIndex

open Fallible Rehearsal

variable {ε ι ρ : Type} [Row ρ]

/-! ## Imported projects -/

namespace Holdings

variable {before after : Holdings ρ} {project : Project} {projectId : String}
variable {listing : List RemoteFile} {files : List FileRecord}

/-- The rows of an imported project are those of the added records. -/
theorem rowsOf_additions (anchored : before.Anchored)
    (absent : before.projects.contains projectId = false)
    (dressed : List.Forall₂ Dressed (listing.map (FileRecord.ofRemote projectId)) files)
    (written : replay (additions project files) before = some after) :
    after.rowsOf projectId = files.map Row.ofRecord := by
  have own : ∀ row ∈ files.map (Row.ofRecord : FileRecord → ρ),
      (Row.projectId row == projectId) = true := by
    intro row member
    obtain ⟨file, asked, rfl⟩ := List.mem_map.1 member
    obtain ⟨source, listed, single⟩ := Plan.exists_source dressed asked
    obtain ⟨remote, -, rfl⟩ := List.mem_map.1 listed
    rw [Row.projectId_ofRecord, single.projectId]
    exact beq_self_eq_true projectId
  rw [rowsOf, (replay_additions written).2, List.filter_append, List.filter_eq_self.2 own]
  exact congrArg (· ++ _) (anchored.rowsOf_of_absent absent)

/-- The hashes of an imported project are those of the listing, in its order. -/
theorem hashesOf_additions (anchored : before.Anchored)
    (absent : before.projects.contains projectId = false)
    (dressed : List.Forall₂ Dressed (listing.map (FileRecord.ofRemote projectId)) files)
    (written : replay (additions project files) before = some after) :
    (after.hashesOf projectId).entries = listedHashes projectId listing := by
  change (after.rowsOf projectId).map (fun row => (Row.id row, Row.sha row)) = _
  rw [rowsOf_additions anchored absent dressed written, List.map_map]
  have kept : files.map (fun file => (file.id, file.sha)) =
      (listing.map (FileRecord.ofRemote projectId)).map fun file => (file.id, file.sha) :=
    Plan.map_eq dressed fun single => by rw [single.id, single.sha]
  rw [List.map_map] at kept
  refine Eq.trans (List.map_congr_left fun file _ => ?_) kept
  change (Row.id (Row.ofRecord file : ρ), Row.sha (Row.ofRecord file : ρ)) = _
  rw [Row.id_ofRecord, Row.sha_ofRecord]

theorem countP_rowsOf_additions (anchored : before.Anchored)
    (absent : before.projects.contains projectId = false)
    (dressed : List.Forall₂ Dressed (listing.map (FileRecord.ofRemote projectId)) files)
    (written : replay (additions project files) before = some after) :
    (after.rowsOf projectId).countP Row.hasStructure = files.countP FileRecord.hasStructure := by
  rw [rowsOf_additions anchored absent dressed written, List.countP_map]
  exact List.countP_congr fun file _ => by
    rw [Function.comp_apply, Row.hasStructure_ofRecord]

end Holdings

/-! ## What an outcome says -/

/-- The numbers of an outcome are those of the listing and of the rows before and after. -/
def Accounts (before after : Holdings ρ) (projectId : String) (listing : List RemoteFile) :
    Outcome → Prop
  | .imported files structured =>
    files = listing.length ∧ structured = (after.rowsOf projectId).countP Row.hasStructure
  | .reconciled report =>
    report.created + report.updated + report.unchanged = listing.length ∧
      report.created = (listing.countP fun remote =>
        ((before.hashesOf projectId).find?
          (FileRecord.idOf projectId remote.path)).isNone) ∧
      report.updated = (listing.countP fun remote =>
        ((before.hashesOf projectId).find? (FileRecord.idOf projectId remote.path)).any
          fun entry => entry.2 != remote.sha) ∧
      report.deleted = ((before.hashesOf projectId).entries.countP fun entry =>
        !(Plan.listedIds projectId listing).contains entry.1)
  | .deleted _ | .notIndexed => False

namespace Sync

variable {team : Collaborators ε} {backend : Backend ι} {storage : Storage backend ρ}
variable {setup : Setup} {projectId : String} {run after : Run ε ι}

/-- Where a sync of a project ends when it succeeds. -/
structure Converged (storage : Storage backend ρ) (projectId : String)
    (listing : List RemoteFile) (before after : ι) (outcome : Outcome) : Prop where
  hashes : ((storage.holdings after).hashesOf projectId).entries.Perm
    (Holdings.listedHashes projectId listing)
  accounts : Accounts (storage.holdings before) (storage.holdings after) projectId listing outcome
  isOpen : storage.IsOpen before → storage.IsOpen after

/-- A reconciliation that succeeds has done the writes of an extracted plan. -/
theorem reconcile_eq_ok (storage : Storage backend ρ) {listing : List RemoteFile} {report : Report}
    (reconciled : reconcile team backend setup projectId listing run = (.ok report, after)) :
    ∃ planned : Plan,
      (Plan.make projectId listing ((storage.holdings run.index).hashesOf projectId)).Extracted
        planned ∧
      Holdings.replay planned.writes (storage.holdings run.index) =
        some (storage.holdings after.index) ∧
      (storage.IsOpen run.index → storage.IsOpen after.index) ∧ report = planned.report := by
  obtain ⟨planned, between, prepared, applied⟩ := bind_eq_ok_iff.1 reconciled
  obtain ⟨hashes, answered, extracted⟩ := preparedPlan_eq_ok prepared
  obtain ⟨-, rfl⟩ := storage.fileHashes_eq_ok_iff.1 answered
  obtain ⟨counted, performed⟩ := apply_eq_ok applied
  have written := performed.index
  rw [map_write_writesOf, ((untouched_preparedPlan setup projectId listing).ok prepared).index]
    at written
  obtain ⟨replayed, opened⟩ := storage.replay_of_writeAll written
  exact ⟨planned, extracted, replayed, opened, counted⟩

/-- An import that succeeds has added the project with a record for each listed file. -/
theorem firstImport_eq_ok (storage : Storage backend ρ) {remote : RemoteProject} {outcome : Outcome}
    (imported : firstImport team backend setup projectId remote run = (.ok outcome, after)) :
    ∃ files : List FileRecord,
      List.Forall₂ Dressed (remote.files.map (FileRecord.ofRemote projectId)) files ∧
      Holdings.replay (additions remote.project files) (storage.holdings run.index) =
        some (storage.holdings after.index) ∧
      (storage.IsOpen run.index → storage.IsOpen after.index) ∧
      outcome = .imported files.length (files.countP FileRecord.hasStructure) := by
  obtain ⟨files, between, extracted, imported⟩ := bind_eq_ok_iff.1 imported
  obtain ⟨_, last, added, ended⟩ := bind_eq_ok_iff.1 imported
  obtain ⟨rfl, rfl⟩ := pure_eq_ok_iff.1 ended
  have written := addProject_eq_ok added
  rw [((untouched_importedRecords setup projectId remote.files).ok extracted).index] at written
  obtain ⟨replayed, opened⟩ := storage.replay_of_writeAll written
  exact ⟨files, importedRecords_eq_ok extracted, replayed, opened, rfl⟩

theorem converged_of_reconcile {listing : List RemoteFile} {report : Report}
    (reconciled : reconcile team backend setup projectId listing run = (.ok report, after)) :
    Converged storage projectId listing run.index after.index (.reconciled report) := by
  obtain ⟨planned, extracted, replayed, opened, rfl⟩ := reconcile_eq_ok storage reconciled
  have distinct := Holdings.listedIds_distinct_of_replay extracted replayed
  obtain ⟨creates, updates, deletes⟩ := Holdings.lengths_of_extracted distinct extracted
  have total := Plan.size_make projectId listing
    ((storage.holdings run.index).hashesOf projectId)
  rw [extracted.creates.length_eq, extracted.updates.length_eq, ← extracted.unchanged] at total
  exact ⟨Holdings.hashesOf_replay_perm extracted replayed, ⟨total, creates, updates, deletes⟩,
    opened⟩

theorem converged_of_firstImport {remote : RemoteProject} {outcome : Outcome}
    (anchored : (storage.holdings run.index).Anchored)
    (absent : (storage.holdings run.index).projects.contains projectId = false)
    (imported : firstImport team backend setup projectId remote run = (.ok outcome, after)) :
    Converged storage projectId remote.files run.index after.index outcome := by
  obtain ⟨files, dressed, replayed, opened, rfl⟩ := firstImport_eq_ok storage imported
  have counted := dressed.length_eq
  rw [List.length_map] at counted
  refine ⟨?_, ⟨counted.symm, ?_⟩, opened⟩
  · rw [Holdings.hashesOf_additions anchored absent dressed replayed]
  · exact (Holdings.countP_rowsOf_additions anchored absent dressed replayed).symm

theorem converged_of_settle {remote : RemoteProject} {indexed : Bool} {outcome : Outcome}
    (anchored : (storage.holdings run.index).Anchored)
    (answer : indexed = (storage.holdings run.index).projects.contains projectId)
    (settled : settle team backend setup projectId remote indexed run = (.ok outcome, after)) :
    Converged storage projectId remote.files run.index after.index outcome := by
  cases indexed with
  | true =>
    obtain ⟨report, between, reconciled, ended⟩ := bind_eq_ok_iff.1 settled
    obtain ⟨rfl, rfl⟩ := pure_eq_ok_iff.1 ended
    exact converged_of_reconcile reconciled
  | false => exact converged_of_firstImport anchored answer.symm settled

/-- **A sync that succeeds leaves exactly the listed hashes.** The project is that of the address,
the listing is the one that the hosting service answered with, and the outcome accounts for the rows
before and after. -/
theorem syncProject_converges (storage : Storage backend ρ) (team : Collaborators ε)
    (setup : Setup) (address : String) (run after : Run ε ι) (outcome : Outcome)
    (anchored : (storage.holdings run.index).Anchored)
    (synced : syncProject team backend setup address run = (.ok outcome, after)) :
    ∃ projectId remote world hashes,
      Address.projectId? address = some projectId ∧
        team.resolve address run.session.world = (.ok (some remote), world) ∧
        backend.fileHashes after.index projectId = .ok hashes ∧
        hashes.entries.Perm (Holdings.listedHashes projectId remote.files) ∧
        Accounts (storage.holdings run.index) (storage.holdings after.index) projectId
          remote.files outcome := by
  obtain ⟨⟨projectId, remote, indexed⟩, between, settled, surveyed, ended, last⟩ :=
    syncProject_eq_ok synced
  obtain ⟨spelled, ⟨world, found⟩, answered, same⟩ := survey_eq_ok surveyed
  obtain ⟨opened, answer⟩ := storage.hasProject_eq_ok_iff.1 answered
  rw [← same] at anchored answer opened ⊢
  have converged := converged_of_settle anchored answer ended
  rw [← last] at converged
  exact ⟨projectId, remote, world, _, spelled, found,
    storage.fileHashes_eq_ok_iff.2 ⟨converged.isOpen opened, rfl⟩, converged.hashes,
    converged.accounts⟩

/-- An indexed project of whose files one is new, one has changed, one has not, and one is gone. -/
def growing : Run Stage MemoryIndex :=
  Scene.opening
    [Scene.entry "B.txt" "1", Scene.entry "A.txt" "2",
      Scene.entry "D.txt" "1"] [] []
    (Scene.indexed [Scene.entry "A.txt" "1", Scene.entry "D.txt" "1",
      Scene.entry "X.txt" "1"])

/-- A reconciliation with a create, an update and a delete converges. -/
theorem syncProject_converges_growing :
    let synced := syncProject Stage.team MemoryIndex.backend Scene.setup "o/p"
      growing
    synced.1 = .ok (.reconciled ⟨1, 1, 1, 1⟩) ∧
      ∃ projectId remote world hashes,
        Address.projectId? "o/p" = some projectId ∧
          Stage.team.resolve "o/p" growing.session.world = (.ok (some remote), world) ∧
          MemoryIndex.backend.fileHashes synced.2.index projectId = .ok hashes ∧
          hashes.entries.Perm (Holdings.listedHashes projectId remote.files) ∧
          Accounts growing.index.holdings synced.2.index.holdings projectId remote.files
            (.reconciled ⟨1, 1, 1, 1⟩) := by
  intro synced
  have ended : synced.1 = .ok (.reconciled ⟨1, 1, 1, 1⟩) := by decide +kernel
  have anchored : (MemoryIndex.storage.holdings growing.index).Anchored := by
    unfold Holdings.Anchored
    decide +kernel
  exact ⟨ended, syncProject_converges MemoryIndex.storage Stage.team
    Scene.setup "o/p" growing synced.2 (.reconciled ⟨1, 1, 1, 1⟩) anchored
    (Prod.ext ended rfl)⟩

end Sync

end SourceIndex
