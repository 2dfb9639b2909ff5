import SourceIndex.Proofs.Index.Storage

/-!
# Rows made from records

A row that was made from a record and then updated is again the row of a record, namely of what the
update stores over the first one. This holds of both kinds of rows (`Row.Faithful`), so holdings
that were written from nothing are the image of holdings of records: every write does to the image
what it does to the records (`replay_ofRecords`), and every question has the same answer
(`hashesOf_ofRecords`, `rowsOf_ofRecords`, `stats_ofRecords`).

What is so of all rows stays so after writes that create and update such rows only
(`forall_of_replay`).
-/

set_option autoImplicit false

namespace SourceIndex

/-! ## Images of collections -/

namespace Keyed

variable {α β : Type} {key : α → String} {key' : β → String} {change : α → β}

/-- The entries of a collection, each changed into one with the same key. -/
def map (change : α → β) (keeps : ∀ entry, key' (change entry) = key entry)
    (collection : Keyed α key) : Keyed β key' :=
  ⟨collection.entries.map change, by
    rw [List.map_map, show key' ∘ change = key from funext keeps]
    exact collection.distinct⟩

variable (keeps : ∀ entry, key' (change entry) = key entry) (collection : Keyed α key)

theorem find?_map (wanted : String) :
    (collection.map change keeps).find? wanted = (collection.find? wanted).map change := by
  refine List.find?_map.trans (congrArg (Option.map change) ?_)
  exact congrArg (List.find? · _) (funext fun entry => by rw [Function.comp_apply, keeps])

theorem contains_map (wanted : String) :
    (collection.map change keeps).contains wanted = collection.contains wanted := by
  rw [contains, find?_map, Option.isSome_map, contains]

theorem map_put (entry : α) :
    (collection.put entry).map change keeps =
      (collection.map change keeps).put (change entry) := by
  refine ext_entries ?_
  change (collection.put entry).entries.map change = _
  cases found : collection.find? (key entry) with
  | none =>
    have absent : (collection.map change keeps).find? (key' (change entry)) = none := by
      rw [keeps, find?_map, found]
      rfl
    rw [entries_put_of_absent found, entries_put_of_absent absent, List.map_append]
    rfl
  | some old =>
    have there : (collection.map change keeps).find? (key' (change entry)) = some (change old) := by
      rw [keeps, find?_map, found]
      rfl
    rw [entries_put_of_found found, entries_put_of_found there, replaceIn, replaceIn, List.map_map]
    refine Eq.trans (List.map_congr_left fun other _ => ?_) List.map_map.symm
    rw [Function.comp_apply, Function.comp_apply, keeps, keeps, apply_ite change]

theorem map_filter {test : α → Bool} {test' : β → Bool}
    (same : ∀ entry, test' (change entry) = test entry) :
    (collection.filter test).map change keeps = (collection.map change keeps).filter test' := by
  refine ext_entries (Eq.symm ?_)
  refine List.filter_map.trans (congrArg (List.map change) (List.filter_congr fun entry _ => ?_))
  exact same entry

theorem map_erase (unwanted : String) :
    (collection.erase unwanted).map change keeps = (collection.map change keeps).erase unwanted :=
  map_filter keeps collection fun entry => by rw [keeps]

end Keyed

/-! ## Rows of records -/

/-- Updating the row of a record gives the row of what the update stores over the record. -/
class Row.Faithful (ρ : Type) [Row ρ] : Prop where
  updatedBy_ofRecord : ∀ stored file : FileRecord,
    Row.updatedBy (Row.ofRecord stored : ρ) file = Row.ofRecord (file.storedOver stored)

instance : Row.Faithful FileRecord where
  updatedBy_ofRecord _ _ := rfl

instance : Row.Faithful FileRow where
  updatedBy_ofRecord stored file := by
    change (FileRow.ofRecord stored).updatedBy file = FileRow.ofRecord (file.storedOver stored)
    rw [FileRow.updatedBy, FileRecord.storedOver]
    split <;> rfl

namespace Holdings

variable {ρ : Type} [Row ρ]

/-- The index in numbers, told from its projects and rows. -/
def stats (holdings : Holdings ρ) : IndexStats :=
  { projects := holdings.projects.size
    files := holdings.files.size
    structuredFiles := holdings.files.entries.countP Row.hasStructure
    perProject := IndexStats.tally (holdings.files.entries.map Row.projectId) }

/-- The rows of the records that other holdings have. -/
def ofRecords (records : Holdings FileRecord) : Holdings ρ :=
  ⟨records.projects, records.files.map Row.ofRecord Row.id_ofRecord⟩

variable (records : Holdings FileRecord)

theorem ofRecords_empty : (ofRecords empty : Holdings ρ) = empty := rfl

theorem rowsOf_ofRecords (projectId : String) :
    (ofRecords records : Holdings ρ).rowsOf projectId =
      (records.rowsOf projectId).map Row.ofRecord := by
  refine List.filter_map.trans (congrArg (List.map _) (List.filter_congr fun file _ => ?_))
  exact congrArg (· == projectId) (Row.projectId_ofRecord file)

theorem hashesOf_ofRecords (projectId : String) :
    (ofRecords records : Holdings ρ).hashesOf projectId = records.hashesOf projectId := by
  refine Keyed.ext_entries ?_
  have rows : (ofRecords records : Holdings ρ).rowsOf projectId =
      (records.rowsOf projectId).map Row.ofRecord := rowsOf_ofRecords records projectId
  change ((ofRecords records : Holdings ρ).rowsOf projectId).map _ =
    (records.rowsOf projectId).map _
  rw [rows, List.map_map]
  refine List.map_congr_left fun file _ => ?_
  exact Prod.ext (Row.id_ofRecord file) (Row.sha_ofRecord file)

theorem stats_ofRecords : (ofRecords records : Holdings ρ).stats = records.stats := by
  have sizes : (ofRecords records : Holdings ρ).files.size = records.files.size :=
    List.length_map _
  have structured : (ofRecords records : Holdings ρ).files.entries.countP Row.hasStructure =
      records.files.entries.countP Row.hasStructure :=
    List.countP_map.trans (List.countP_congr fun file _ => by
      rw [Function.comp_apply, Row.hasStructure_ofRecord]
      rfl)
  have filed : (ofRecords records : Holdings ρ).files.entries.map Row.projectId =
      records.files.entries.map Row.projectId :=
    List.map_map.trans (List.map_congr_left fun file _ => Row.projectId_ofRecord file)
  rw [stats, stats, sizes, structured, filed]
  rfl

/-- **A write does to the rows of records what it does to the records.** -/
theorem write?_ofRecords [Row.Faithful ρ] (write : Write) :
    (ofRecords records : Holdings ρ).write? write = (records.write? write).map ofRecords := by
  cases write with
  | createProject project =>
    rw [write?, write?]
    change (if records.projects.contains project.id then none else some _) = _
    split <;> rfl
  | deleteProject id =>
    refine congrArg (fun files => some (Holdings.mk _ files)) (Eq.symm ?_)
    exact Keyed.map_filter _ _ fun file => congrArg (· != id) (Row.projectId_ofRecord file)
  | createFile file =>
    have same : (ofRecords records : Holdings ρ).files.contains file.id =
        records.files.contains file.id := Keyed.contains_map Row.id_ofRecord _ _
    rw [write?, write?, same]
    split
    · rfl
    · exact congrArg (fun files => some (Holdings.mk _ files))
        (Keyed.map_put Row.id_ofRecord records.files file).symm
  | updateFile file =>
    have found : (ofRecords records : Holdings ρ).files.find? file.id =
        (records.files.find? file.id).map Row.ofRecord := Keyed.find?_map Row.id_ofRecord _ _
    rw [write?, write?, found, Option.map_map, Option.map_map]
    refine congrArg (Option.map · _) (funext fun stored => ?_)
    refine congrArg (Holdings.mk _) (Eq.trans ?_ (Keyed.map_put Row.id_ofRecord _ _).symm)
    exact congrArg _ (Row.Faithful.updatedBy_ofRecord stored file)
  | deleteFile id =>
    exact congrArg (fun files => some (Holdings.mk _ files))
      (Keyed.map_erase Row.id_ofRecord _ id).symm

/-- Writes in order do to the rows of records what they do to the records. -/
theorem replay_ofRecords [Row.Faithful ρ] (writes : List Write) :
    replay writes (ofRecords records : Holdings ρ) = (replay writes records).map ofRecords := by
  induction writes generalizing records with
  | nil => rfl
  | cons write rest ih =>
    rw [replay, write?_ofRecords, replay, Option.map_bind, Option.bind_map]
    exact congrArg (records.write? write).bind (funext ih)

/-! ## What is so of all rows -/

/-- What is so of all rows is so after a write that creates and updates such rows only. -/
theorem forall_of_write? {good : ρ → Prop} {write : Write} {before after : Holdings ρ}
    (all : ∀ row ∈ before.files.entries, good row)
    (created : ∀ file, write = .createFile file → good (Row.ofRecord file))
    (updated : ∀ file, write = .updateFile file → ∀ row ∈ before.files.entries,
      Row.id row = file.id → good (Row.updatedBy row file))
    (written : before.write? write = some after) : ∀ row ∈ after.files.entries, good row := by
  intro row member
  have found := find?_of_write? written (Row.id row)
  rw [(after.files.find?_eq_some_iff _ _).2 ⟨member, rfl⟩] at found
  have kept : before.files.find? (Row.id row) = some row → good row := fun same =>
    all row ((before.files.find?_eq_some_iff _ _).1 same).1
  cases write with
  | createProject project => exact kept found.symm
  | deleteProject id => exact kept (Option.filter_eq_some_iff.1 found.symm).1
  | createFile file =>
    rw [rowAfter] at found
    split at found
    · cases found
      exact created file rfl
    · exact kept found.symm
  | updateFile file =>
    rw [rowAfter] at found
    split at found
    · next same =>
      obtain ⟨old, there, rfl⟩ := Option.map_eq_some_iff.1 found.symm
      obtain ⟨within, named⟩ := (before.files.find?_eq_some_iff _ _).1 there
      exact updated file rfl old within (named.trans same)
    · exact kept found.symm
  | deleteFile unwanted =>
    rw [rowAfter] at found
    split at found
    · cases found
    · exact kept found.symm

/-- What is so of all rows is so after writes that create and update such rows only. -/
theorem forall_of_replay {good : ρ → Prop} {writes : List Write} {before after : Holdings ρ}
    (all : ∀ row ∈ before.files.entries, good row)
    (created : ∀ file, .createFile file ∈ writes → good (Row.ofRecord file))
    (updated : ∀ file, .updateFile file ∈ writes → ∀ row, good row → Row.id row = file.id →
      good (Row.updatedBy row file))
    (written : replay writes before = some after) : ∀ row ∈ after.files.entries, good row := by
  induction writes generalizing before with
  | nil =>
    cases written
    exact all
  | cons write rest ih =>
    obtain ⟨between, first, others⟩ := replay_cons_eq_some_iff.1 written
    refine ih ?_ (fun file later => created file (List.mem_cons_of_mem write later))
      (fun file later => updated file (List.mem_cons_of_mem write later)) others
    refine forall_of_write? all (fun file here => ?_) (fun file here row member named => ?_) first
    · exact created file (here ▸ List.mem_cons_self)
    · exact updated file (here ▸ List.mem_cons_self) row (all row member) named

end Holdings

end SourceIndex
