import SourceIndex.Index.Connection
import SourceIndex.Index.Memory
import SourceIndex.Proofs.Fallible
import SourceIndex.Proofs.Index.Holdings

/-!
# Kinds of indexes as storages

A `Storage` says of a kind of index how its states stand for holdings, that its questions are
answered from the holdings, and that a write that succeeds does to the holdings what that write
means. Whatever is proved of a storage holds for the index in memory (`MemoryIndex.storage`), for
the index in a database (`DatabaseIndex.storage`) and for that index behind a connection
(`Connection.storage`).
-/

set_option autoImplicit false

namespace SourceIndex

open Fallible

/-- Does a write, whichever operation it takes. -/
def Backend.write {ι : Type} (backend : Backend ι) (index : ι) : Write → Except StoreError ι
  | .createProject project => backend.createProject index project
  | .deleteProject id => (backend.deleteProject index id).map Prod.snd
  | .createFile file => backend.createFile index file
  | .updateFile file => backend.updateFile index file
  | .deleteFile id => backend.deleteFile index id

theorem Write.isWrite_operation (write : Write) : write.operation.method.isWrite = true := by
  cases write <;> rfl

/-- Does writes in order, up to the first that fails. -/
def Backend.writeAll {ι : Type} (backend : Backend ι) : List Write → ι → Except StoreError ι
  | [], index => .ok index
  | write :: rest, index =>
    match backend.write index write with
    | .error error => .error error
    | .ok between => writeAll backend rest between

theorem Backend.writeAll_cons_of_ok {ι : Type} {backend : Backend ι} {write : Write}
    {index between : ι} (written : backend.write index write = .ok between) (rest : List Write) :
    backend.writeAll (write :: rest) index = backend.writeAll rest between := by
  rw [writeAll, written]

theorem Backend.writeAll_append_of_ok {ι : Type} {backend : Backend ι} {earlier : List Write}
    {index between : ι} (written : backend.writeAll earlier index = .ok between)
    (later : List Write) :
    backend.writeAll (earlier ++ later) index = backend.writeAll later between := by
  induction earlier generalizing index with
  | nil =>
    cases written
    rfl
  | cons write rest ih =>
    rw [writeAll] at written
    split at written
    · cases written
    · next first done =>
      rw [List.cons_append, writeAll_cons_of_ok done]
      exact ih written

/-- A kind of index whose states stand for holdings. -/
structure Storage {ι : Type} (backend : Backend ι) (ρ : Type) [Row ρ] where
  holdings : ι → Holdings ρ
  /-- The index answers questions. -/
  IsOpen : ι → Prop
  hasProject_eq_ok_iff : ∀ {index : ι} {id : String} {answer : Bool},
    backend.hasProject index id = .ok answer ↔
      IsOpen index ∧ answer = (holdings index).projects.contains id
  fileHashes_eq_ok_iff : ∀ {index : ι} {id : String} {hashes : Hashes},
    backend.fileHashes index id = .ok hashes ↔
      IsOpen index ∧ hashes = (holdings index).hashesOf id
  write?_of_write : ∀ {index after : ι} {write : Write},
    backend.write index write = .ok after → (holdings index).write? write = some (holdings after)
  isOpen_of_write : ∀ {index after : ι} {write : Write},
    backend.write index write = .ok after → IsOpen after

/-- Writes done in order do to the holdings what they mean, and an open index stays open. -/
theorem Storage.replay_of_writeAll {ι ρ : Type} [Row ρ] {backend : Backend ι}
    (storage : Storage backend ρ) {writes : List Write} {index after : ι}
    (written : backend.writeAll writes index = .ok after) :
    Holdings.replay writes (storage.holdings index) = some (storage.holdings after) ∧
      (storage.IsOpen index → storage.IsOpen after) := by
  induction writes generalizing index with
  | nil =>
    cases written
    exact ⟨rfl, fun opened => opened⟩
  | cons write rest ih =>
    rw [Backend.writeAll] at written
    split at written
    · cases written
    · next between first =>
      obtain ⟨replayed, opened⟩ := ih written
      exact ⟨Holdings.replay_cons_eq_some_iff.2 ⟨_, storage.write?_of_write first, replayed⟩,
        fun _ => opened (storage.isOpen_of_write first)⟩

/-! ## The index in memory -/

instance : Row FileRecord where
  id := FileRecord.id
  projectId := FileRecord.projectId
  sha := FileRecord.sha
  hasStructure := FileRecord.hasStructure
  ofRecord file := file
  updatedBy row file := file.storedOver row
  id_ofRecord _ := rfl
  projectId_ofRecord _ := rfl
  sha_ofRecord _ := rfl
  hasStructure_ofRecord _ := rfl
  id_updatedBy row file := by
    rw [FileRecord.storedOver]
    split <;> rfl
  projectId_updatedBy row file := by
    rw [FileRecord.storedOver]
    split <;> rfl
  sha_updatedBy row file := by
    rw [FileRecord.storedOver]
    split <;> rfl

namespace MemoryIndex

/-- The projects and records of an index in memory. -/
def holdings (index : MemoryIndex) : Holdings FileRecord :=
  ⟨index.projects, index.files⟩

theorem write?_of_write {index after : MemoryIndex} {write : Write}
    (written : backend.write index write = .ok after) :
    index.holdings.write? write = some after.holdings := by
  cases write with
  | createProject project =>
    change createProject index project = .ok after at written
    rw [createProject] at written
    split at written
    · cases written
    · next absent =>
      cases written
      exact if_neg absent
  | deleteProject id =>
    cases written
    rfl
  | createFile file =>
    change createFile index file = .ok after at written
    rw [createFile] at written
    split at written
    · cases written
    · next absent =>
      cases written
      exact if_neg absent
  | updateFile file =>
    change updateFile index file = .ok after at written
    rw [updateFile] at written
    split at written
    · cases written
    · next stored found =>
      cases written
      exact Option.map_eq_some_iff.2 ⟨stored, found, rfl⟩
  | deleteFile id =>
    cases written
    rfl

/-- The index in memory, which is always open. -/
def storage : Storage backend FileRecord where
  holdings := holdings
  IsOpen _ := True
  hasProject_eq_ok_iff := by
    intro index id answer
    constructor
    · intro answered
      cases answered
      exact ⟨trivial, rfl⟩
    · rintro ⟨-, rfl⟩
      rfl
  fileHashes_eq_ok_iff := by
    intro index id hashes
    constructor
    · intro answered
      cases answered
      exact ⟨trivial, rfl⟩
    · rintro ⟨-, rfl⟩
      rfl
  write?_of_write := write?_of_write
  isOpen_of_write _ := trivial

end MemoryIndex

/-! ## The index in a database -/

instance : Row FileRow where
  id := FileRow.id
  projectId := FileRow.projectId
  sha := FileRow.sha
  hasStructure row := row.structureText.isSome
  ofRecord := FileRow.ofRecord
  updatedBy := FileRow.updatedBy
  id_ofRecord _ := rfl
  projectId_ofRecord _ := rfl
  sha_ofRecord _ := rfl
  hasStructure_ofRecord file := Option.isSome_map
  id_updatedBy row file := by
    rw [FileRow.updatedBy]
    split <;> rfl
  projectId_updatedBy row file := by
    rw [FileRow.updatedBy]
    split <;> rfl
  sha_updatedBy row file := by
    rw [FileRow.updatedBy]
    split <;> rfl

namespace DatabaseIndex

/-- The projects and rows of a database; none as long as there are no tables. -/
def holdings (index : DatabaseIndex) : Holdings FileRow :=
  match index.tables with
  | none => Holdings.empty
  | some tables => ⟨tables.projects, tables.files⟩

/-- What succeeds on the tables of a database succeeds because they are there. -/
theorem withTables_eq_ok_iff {α : Type} {index : DatabaseIndex} {table : Table}
    {task : Option String} {use : Tables → Except StoreError α} {value : α} :
    index.withTables table task use = .ok value ↔
      ∃ tables, index.tables = some tables ∧ use tables = .ok value := by
  unfold withTables
  cases index.tables with
  | none => simp
  | some tables => simp

theorem write?_of_write {index after : DatabaseIndex} {write : Write}
    (written : backend.write index write = .ok after) :
    index.holdings.write? write = some after.holdings ∧ after.isCreated = true := by
  cases write with
  | createProject project =>
    obtain ⟨tables, there, used⟩ := withTables_eq_ok_iff.1 written
    rw [holdings, there]
    split at used
    · cases used
    · next absent =>
      cases used
      exact ⟨if_neg absent, rfl⟩
  | deleteProject id =>
    obtain ⟨counted, deleted, rfl⟩ := map_eq_ok_iff.1 written
    obtain ⟨tables, there, used⟩ := withTables_eq_ok_iff.1 deleted
    rw [holdings, there]
    cases used
    exact ⟨rfl, rfl⟩
  | createFile file =>
    obtain ⟨tables, there, used⟩ := withTables_eq_ok_iff.1 written
    rw [holdings, there]
    split at used
    · cases used
    · next absent =>
      cases used
      exact ⟨if_neg absent, rfl⟩
  | updateFile file =>
    obtain ⟨tables, there, used⟩ := withTables_eq_ok_iff.1 written
    rw [holdings, there]
    split at used
    · cases used
    · next row found =>
      cases used
      exact ⟨Option.map_eq_some_iff.2 ⟨row, found, rfl⟩, rfl⟩
  | deleteFile id =>
    obtain ⟨tables, there, used⟩ := withTables_eq_ok_iff.1 written
    rw [holdings, there]
    cases used
    exact ⟨rfl, rfl⟩

/-- The index in a database, which is open once the tables are there. -/
def storage : Storage backend FileRow where
  holdings := holdings
  IsOpen index := index.isCreated = true
  hasProject_eq_ok_iff := by
    intro index id answer
    refine withTables_eq_ok_iff.trans ?_
    unfold holdings isCreated
    cases index.tables with
    | none => simp
    | some tables =>
      constructor
      · rintro ⟨_, same, answered⟩
        cases same
        cases answered
        exact ⟨rfl, rfl⟩
      · rintro ⟨-, rfl⟩
        exact ⟨tables, rfl, rfl⟩
  fileHashes_eq_ok_iff := by
    intro index id hashes
    refine withTables_eq_ok_iff.trans ?_
    unfold holdings isCreated
    cases index.tables with
    | none => simp
    | some tables =>
      constructor
      · rintro ⟨_, same, answered⟩
        cases same
        cases answered
        exact ⟨rfl, rfl⟩
      · rintro ⟨-, rfl⟩
        exact ⟨tables, rfl, rfl⟩
  write?_of_write written := (write?_of_write written).1
  isOpen_of_write written := (write?_of_write written).2

end DatabaseIndex

/-! ## The index in a database behind a connection -/

namespace Connection

/-- A step that succeeds through a connection succeeds on its database. -/
theorem step_of_write {α : Type} {connection after : Connection} {table : Table}
    {task : Option String} {step : DatabaseIndex → Except StoreError (α × DatabaseIndex)}
    {value : α} (written : connection.write table task step = .ok (value, after)) :
    step connection.database = .ok (value, after.database) := by
  unfold write at written
  split at written
  · obtain ⟨done, stepped, same⟩ := map_eq_ok_iff.1 written
    cases same
    exact stepped
  · obtain ⟨tables, -, used⟩ := DatabaseIndex.withTables_eq_ok_iff.1 written
    cases used

theorem step_of_change {connection after : Connection} {table : Table} {task : Option String}
    {step : DatabaseIndex → Except StoreError DatabaseIndex}
    (changed : connection.change table task step = .ok after) :
    step connection.database = .ok after.database := by
  obtain ⟨done, written, rfl⟩ := map_eq_ok_iff.1 changed
  obtain ⟨database, stepped, same⟩ := map_eq_ok_iff.1 (step_of_write written)
  cases same
  exact stepped

/-- A write that succeeds through a connection succeeds on its database. -/
theorem write_database {connection after : Connection} {write : Write}
    (written : backend.write connection write = .ok after) :
    DatabaseIndex.backend.write connection.database write = .ok after.database := by
  cases write with
  | createProject project => exact step_of_change written
  | deleteProject id =>
    obtain ⟨⟨count, found⟩, deleted, rfl⟩ := map_eq_ok_iff.1 written
    change connection.write .files none (fun database => database.deleteProject id) =
      .ok (count, found) at deleted
    exact map_eq_ok_iff.2 ⟨_, step_of_write deleted, rfl⟩
  | createFile file => exact step_of_change written
  | updateFile file => exact step_of_change written
  | deleteFile id => exact step_of_change written

/-- The index in the database of a connection. -/
def storage : Storage backend FileRow where
  holdings connection := connection.database.holdings
  IsOpen connection := connection.database.isCreated = true
  hasProject_eq_ok_iff := DatabaseIndex.storage.hasProject_eq_ok_iff
  fileHashes_eq_ok_iff := DatabaseIndex.storage.fileHashes_eq_ok_iff
  write?_of_write written := DatabaseIndex.storage.write?_of_write (write_database written)
  isOpen_of_write written := DatabaseIndex.storage.isOpen_of_write (write_database written)

end Connection

end SourceIndex
