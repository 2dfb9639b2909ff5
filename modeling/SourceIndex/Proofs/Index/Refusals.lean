import SourceIndex.Proofs.Index.Parts
import SourceIndex.Proofs.Index.Storage

/-!
# Why an index refuses

An operation of an index fails for one of two reasons. Something is in its way whatever the index
holds: the tables are missing, or the connection only reads. Or it is a write that the holdings do
not admit, and then its error is told from the write alone. `Storage.Refusals` says this of a kind
of index, and it holds of the index in memory (`MemoryIndex.refusals`), of the index in a database
(`DatabaseIndex.refusals`) and of that index behind a connection (`Connection.refusals`).

So what an operation of a project ends with, and what it leaves within the project, depends on
nothing but the obstacles and what is within the project (`Refusals.hasProject_congr`,
`Refusals.fileHashes_congr`, `Refusals.write_cases`, `Refusals.deleteProject_cases`).
-/

set_option autoImplicit false

namespace SourceIndex

open Fallible

/-- Why the operations of a kind of index fail. -/
structure Storage.Refusals {ι ρ : Type} [Row ρ] {backend : Backend ι}
    (storage : Storage backend ρ) where
  /-- What is in the way of an operation whatever the index holds. -/
  obstacle : ι → Operation → Option StoreError
  /-- The error of a write that the holdings do not admit. -/
  clash : Write → StoreError
  hasProject_eq_error_iff : ∀ {index : ι} {id : String} {error : StoreError},
    backend.hasProject index id = .error error ↔ obstacle index ⟨.hasProject, id⟩ = some error
  fileHashes_eq_error_iff : ∀ {index : ι} {id : String} {error : StoreError},
    backend.fileHashes index id = .error error ↔ obstacle index ⟨.fileHashes, id⟩ = some error
  write_eq_error_iff : ∀ {index : ι} {write : Write} {error : StoreError},
    backend.write index write = .error error ↔
      obstacle index write.operation = some error ∨
        obstacle index write.operation = none ∧ (storage.holdings index).write? write = none ∧
          error = clash write
  /-- A write leaves the obstacles as they are. -/
  obstacle_of_write : ∀ {index after : ι} {write : Write},
    backend.write index write = .ok after → obstacle after = obstacle index
  /-- Removing a project counts the rows that were filed under it. -/
  count_of_deleteProject : ∀ {index after : ι} {id : String} {count : Nat},
    backend.deleteProject index id = .ok (count, after) →
      count = ((storage.holdings index).rowsOf id).length

/-! ## Writes in order -/

namespace Storage.Refusals

variable {ι ρ : Type} [Row ρ] {backend : Backend ι} {storage : Storage backend ρ}
variable (refusals : storage.Refusals) {left right : ι} {projectId : String}

theorem obstacle_of_writeAll {writes : List Write} {index after : ι}
    (written : backend.writeAll writes index = .ok after) :
    refusals.obstacle after = refusals.obstacle index := by
  induction writes generalizing index with
  | nil =>
    cases written
    rfl
  | cons write rest ih =>
    rw [Backend.writeAll] at written
    split at written
    · cases written
    · next between first => exact (ih written).trans (refusals.obstacle_of_write first)

/-- With nothing in its way a write fails exactly when the holdings do not admit it. -/
theorem write_of_clear {index : ι} {write : Write}
    (clear : refusals.obstacle index write.operation = none) :
    (storage.holdings index).write? write = none ∧
        backend.write index write = .error (refusals.clash write) ∨
      ∃ next, (storage.holdings index).write? write = some (storage.holdings next) ∧
        backend.write index write = .ok next := by
  cases ended : backend.write index write with
  | error error =>
    rcases refusals.write_eq_error_iff.1 ended with blocked | ⟨-, unadmitted, rfl⟩
    · rw [clear] at blocked
      cases blocked
    · exact .inl ⟨unadmitted, rfl⟩
  | ok next => exact .inr ⟨next, storage.write?_of_write ended, rfl⟩

/-- With nothing in their way, writes are done that the holdings admit. -/
theorem writeAll_of_replay {writes : List Write} {index : ι} {after : Holdings ρ}
    (clear : ∀ operation, refusals.obstacle index operation = none)
    (replayed : Holdings.replay writes (storage.holdings index) = some after) :
    ∃ last, backend.writeAll writes index = .ok last ∧ storage.holdings last = after := by
  induction writes generalizing index with
  | nil =>
    cases replayed
    exact ⟨index, rfl, rfl⟩
  | cons write rest ih =>
    obtain ⟨between, admitted, others⟩ := Holdings.replay_cons_eq_some_iff.1 replayed
    rcases refusals.write_of_clear (clear write.operation) with
      ⟨unadmitted, -⟩ | ⟨next, same, written⟩
    · rw [unadmitted] at admitted
      cases admitted
    · rw [same] at admitted
      cases admitted
      rw [Backend.writeAll_cons_of_ok written]
      exact ih (fun operation => by rw [refusals.obstacle_of_write written, clear]) others

/-- With nothing in their way, writes fail as the first one that the holdings do not admit. -/
theorem writeAll_of_unadmitted {done rest : List Write} {culprit : Write} {index : ι}
    {between : Holdings ρ} (clear : ∀ operation, refusals.obstacle index operation = none)
    (replayed : Holdings.replay done (storage.holdings index) = some between)
    (unadmitted : between.write? culprit = none) :
    backend.writeAll (done ++ culprit :: rest) index = .error (refusals.clash culprit) := by
  obtain ⟨next, written, rfl⟩ := refusals.writeAll_of_replay clear replayed
  have still : refusals.obstacle next culprit.operation = none := by
    rw [refusals.obstacle_of_writeAll written, clear]
  rw [Backend.writeAll_append_of_ok written, Backend.writeAll]
  rcases refusals.write_of_clear still with ⟨-, failed⟩ | ⟨_, admitted, -⟩
  · rw [failed]
  · rw [unadmitted] at admitted
    cases admitted

/-! ## Operations of a project -/

variable (obstacles : refusals.obstacle left = refusals.obstacle right)
variable (same : (storage.holdings left).within projectId =
  (storage.holdings right).within projectId)
include obstacles same

theorem hasProject_congr :
    backend.hasProject left projectId = backend.hasProject right projectId := by
  cases here : backend.hasProject left projectId with
  | error error =>
    rw [refusals.hasProject_eq_error_iff, obstacles] at here
    exact (refusals.hasProject_eq_error_iff.2 here).symm
  | ok answer =>
    cases there : backend.hasProject right projectId with
    | error error =>
      rw [refusals.hasProject_eq_error_iff, ← obstacles] at there
      rw [refusals.hasProject_eq_error_iff.2 there] at here
      cases here
    | ok other =>
      rw [(storage.hasProject_eq_ok_iff.1 here).2, (storage.hasProject_eq_ok_iff.1 there).2,
        ← Holdings.contains_within, same, Holdings.contains_within]

theorem fileHashes_congr :
    backend.fileHashes left projectId = backend.fileHashes right projectId := by
  cases here : backend.fileHashes left projectId with
  | error error =>
    rw [refusals.fileHashes_eq_error_iff, obstacles] at here
    exact (refusals.fileHashes_eq_error_iff.2 here).symm
  | ok hashes =>
    cases there : backend.fileHashes right projectId with
    | error error =>
      rw [refusals.fileHashes_eq_error_iff, ← obstacles] at there
      rw [refusals.fileHashes_eq_error_iff.2 there] at here
      cases here
    | ok others =>
      rw [(storage.fileHashes_eq_ok_iff.1 here).2, (storage.fileHashes_eq_ok_iff.1 there).2,
        ← Holdings.hashesOf_within, same, Holdings.hashesOf_within]

/-- A write of a project fails with the same error from both indexes, or it succeeds from both and
leaves the same obstacles and the same within the project. -/
theorem write_cases {write : Write} (own : write.IsOf projectId) :
    (∃ error, backend.write left write = .error error ∧ backend.write right write = .error error) ∨
      ∃ after after', backend.write left write = .ok after ∧
        backend.write right write = .ok after' ∧
          refusals.obstacle after = refusals.obstacle after' ∧
            (storage.holdings after).within projectId =
              (storage.holdings after').within projectId := by
  have within := Holdings.write?_within (storage.holdings left) own
  rw [same, Holdings.write?_within (storage.holdings right) own] at within
  have failing : ∀ error, backend.write left write = .error error ↔
      backend.write right write = .error error := by
    intro error
    rw [refusals.write_eq_error_iff, refusals.write_eq_error_iff, obstacles,
      ← Option.map_eq_none_iff (f := (Holdings.within · projectId)), ← within,
      Option.map_eq_none_iff]
  cases here : backend.write left write with
  | error error => exact .inl ⟨error, rfl, (failing error).1 here⟩
  | ok after =>
    cases there : backend.write right write with
    | error error =>
      rw [(failing error).2 there] at here
      cases here
    | ok after' =>
      refine .inr ⟨after, after', rfl, rfl, ?_, ?_⟩
      · rw [refusals.obstacle_of_write here, refusals.obstacle_of_write there, obstacles]
      · rw [storage.write?_of_write here, storage.write?_of_write there] at within
        exact (Option.some.inj within).symm

/-- Removing the project fails with the same error from both indexes, or it counts the same files
and leaves the same obstacles and the same within the project. -/
theorem deleteProject_cases :
    (∃ error, backend.deleteProject left projectId = .error error ∧
        backend.deleteProject right projectId = .error error) ∨
      ∃ count after after', backend.deleteProject left projectId = .ok (count, after) ∧
        backend.deleteProject right projectId = .ok (count, after') ∧
          refusals.obstacle after = refusals.obstacle after' ∧
            (storage.holdings after).within projectId =
              (storage.holdings after').within projectId := by
  have own : (Write.deleteProject projectId).IsOf projectId := rfl
  rcases refusals.write_cases obstacles same own with
    ⟨error, here, there⟩ | ⟨after, after', here, there, kept⟩
  · refine .inl ⟨error, ?_, ?_⟩
    · exact map_eq_error_iff.1 here
    · exact map_eq_error_iff.1 there
  · obtain ⟨⟨count, found⟩, deleted, rfl⟩ := map_eq_ok_iff.1 here
    obtain ⟨⟨count', found'⟩, deleted', rfl⟩ := map_eq_ok_iff.1 there
    have counts : count = count' := by
      rw [refusals.count_of_deleteProject deleted, refusals.count_of_deleteProject deleted',
        ← Holdings.rowsOf_within, same, Holdings.rowsOf_within]
    cases counts
    exact .inr ⟨count, found, found', deleted, deleted', kept⟩

end Storage.Refusals

/-- The rows of a project are those that are not outside it. -/
theorem Holdings.size_sub_outside {ρ : Type} [Row ρ] (holdings : Holdings ρ) (projectId : String) :
    holdings.files.size - (holdings.outside projectId).files.size =
      (holdings.rowsOf projectId).length := by
  have split : holdings.files.size =
      (holdings.rowsOf projectId).length + (holdings.outside projectId).files.size :=
    List.length_eq_length_filter_add fun row => Row.projectId row == projectId
  omega

/-! ## The index in memory -/

namespace MemoryIndex

/-- The error of a write that the records do not admit; deletes are always admitted. -/
def clash : Write → StoreError
  | .createProject project => .projectExists project.id
  | .createFile file => .fileExists file.id
  | .updateFile file => .fileMissing file.id
  | .deleteProject id | .deleteFile id => .fileMissing id

theorem write_eq_error_iff {index : MemoryIndex} {write : Write} {error : StoreError} :
    backend.write index write = .error error ↔
      (storage.holdings index).write? write = none ∧ error = clash write := by
  cases write with
  | createProject project =>
    change createProject index project = _ ↔
      (if index.projects.contains project.id then none else some _) = none ∧ _
    rw [createProject]
    split <;> simp [clash, eq_comm]
  | deleteProject id =>
    constructor
    · intro failed
      cases failed
    · rintro ⟨unadmitted, -⟩
      cases unadmitted
  | createFile file =>
    change createFile index file = _ ↔
      (if index.files.contains file.id then none else some _) = none ∧ _
    rw [createFile]
    split <;> simp [clash, eq_comm]
  | updateFile file =>
    change updateFile index file = _ ↔ (index.files.find? file.id).map _ = none ∧ _
    rw [updateFile]
    cases index.files.find? file.id with
    | none => simp [clash, eq_comm]
    | some row => simp
  | deleteFile id =>
    constructor
    · intro failed
      cases failed
    · rintro ⟨unadmitted, -⟩
      cases unadmitted

/-- Nothing is in the way of an operation of an index in memory. -/
def refusals : storage.Refusals where
  obstacle _ _ := none
  clash := clash
  hasProject_eq_error_iff := by
    intro index id error
    constructor <;> (intro impossible; cases impossible)
  fileHashes_eq_error_iff := by
    intro index id error
    constructor <;> (intro impossible; cases impossible)
  write_eq_error_iff := by
    intro index write error
    simp [write_eq_error_iff]
  obstacle_of_write _ := rfl
  count_of_deleteProject := by
    intro index after id count deleted
    cases deleted
    exact (storage.holdings index).size_sub_outside id

end MemoryIndex

/-! ## The index in a database -/

namespace DatabaseIndex

/-- The table that an operation misses first, and what it was about to do. -/
def subject : Operation → Table × Option String
  | ⟨.hasProject, _⟩ => (.projects, none)
  | ⟨.createProject, id⟩ => (.projects, task "create project" id)
  | ⟨.deleteProject, _⟩ | ⟨.fileHashes, _⟩ => (.files, none)
  | ⟨.createFile, id⟩ => (.files, task "create file" id)
  | ⟨.updateFile, id⟩ => (.files, task "update file" id)
  | ⟨.deleteFile, id⟩ => (.files, task "delete file" id)

/-- Without its tables a database can do nothing. -/
def obstacle (index : DatabaseIndex) (operation : Operation) : Option StoreError :=
  if index.isCreated then none
  else some (.database (subject operation).2 (.noTable (subject operation).1))

/-- The error of a write that the rows do not admit; deletes are always admitted. -/
def clash : Write → StoreError
  | .createProject project => .database (task "create project" project.id) (.duplicate .projects)
  | .createFile file => .database (task "create file" file.id) (.duplicate .files)
  | .updateFile file => .fileMissing file.id
  | .deleteProject id | .deleteFile id => .fileMissing id

theorem obstacle_of_tables {index : DatabaseIndex} {tables : Tables}
    (there : index.tables = some tables) (operation : Operation) :
    index.obstacle operation = none := by
  rw [obstacle, isCreated, there]
  rfl

theorem obstacle_of_blank {index : DatabaseIndex} (missing : index.tables = none)
    (operation : Operation) : index.obstacle operation =
      some (.database (subject operation).2 (.noTable (subject operation).1)) := by
  rw [obstacle, isCreated, missing]
  rfl

/-- What uses the tables fails because they are missing, or as their use fails. -/
theorem withTables_eq_error_iff {α : Type} {index : DatabaseIndex} (operation : Operation)
    {use : Tables → Except StoreError α} {error : StoreError} :
    index.withTables (subject operation).1 (subject operation).2 use = .error error ↔
      index.obstacle operation = some error ∨
        index.obstacle operation = none ∧ ∃ tables, index.tables = some tables ∧
          use tables = .error error := by
  unfold withTables
  cases there : index.tables with
  | none => simp [obstacle_of_blank there]
  | some tables => simp [obstacle_of_tables there]

/-- What never fails on the tables fails only because they are missing. -/
theorem obstacle_of_total {α : Type} {index : DatabaseIndex} (operation : Operation)
    {use : Tables → Except StoreError α} (total : ∀ tables error, use tables ≠ .error error)
    {error : StoreError} :
    index.withTables (subject operation).1 (subject operation).2 use = .error error ↔
      index.obstacle operation = some error := by
  rw [withTables_eq_error_iff]
  simp [total]

/-- A use of the tables that fails where the rows do not admit a write fails as the write does. -/
theorem clash_of_use {α : Type} (index : DatabaseIndex) (write : Write)
    {use : Tables → Except StoreError α} {error : StoreError}
    (used : ∀ tables, use tables = .error error ↔
      (Holdings.mk tables.projects tables.files).write? write = none ∧ error = clash write) :
    index.withTables (subject write.operation).1 (subject write.operation).2 use = .error error ↔
      index.obstacle write.operation = some error ∨ index.obstacle write.operation = none ∧
        index.holdings.write? write = none ∧ error = clash write := by
  rw [withTables_eq_error_iff]
  cases there : index.tables with
  | none => simp [obstacle_of_blank there]
  | some tables => simp [obstacle_of_tables there, used, holdings, there]

theorem write_eq_error_iff {index : DatabaseIndex} {write : Write} {error : StoreError} :
    backend.write index write = .error error ↔
      index.obstacle write.operation = some error ∨ index.obstacle write.operation = none ∧
        index.holdings.write? write = none ∧ error = clash write := by
  cases write with
  | createProject project =>
    refine clash_of_use index (.createProject project) fun tables => ?_
    rw [Holdings.write?]
    split <;> simp [clash, eq_comm]
  | deleteProject id =>
    refine map_eq_error_iff.trans (clash_of_use index (.deleteProject id) fun tables => ?_)
    simp [Holdings.write?]
  | createFile file =>
    refine clash_of_use index (.createFile file) fun tables => ?_
    change (if tables.files.contains file.id then _ else _) = _ ↔
      (if tables.files.contains file.id then none else some _) = none ∧ _
    split <;> simp [clash, eq_comm]
  | updateFile file =>
    refine clash_of_use index (.updateFile file) fun tables => ?_
    change _ ↔ (tables.files.find? file.id).map _ = none ∧ _
    cases tables.files.find? file.id with
    | none => simp [clash, eq_comm]
    | some row => simp
  | deleteFile id =>
    refine clash_of_use index (.deleteFile id) fun tables => ?_
    simp [Holdings.write?]

/-- Operations of a database fail without its tables, and otherwise as the rows tell. -/
def refusals : storage.Refusals where
  obstacle := obstacle
  clash := clash
  hasProject_eq_error_iff := by
    intro index id error
    refine obstacle_of_total ⟨.hasProject, id⟩ fun tables error failed => ?_
    cases failed
  fileHashes_eq_error_iff := by
    intro index id error
    refine obstacle_of_total ⟨.fileHashes, id⟩ fun tables error failed => ?_
    cases failed
  write_eq_error_iff := write_eq_error_iff
  obstacle_of_write := by
    intro index after write written
    have created : index.isCreated = true := by
      cases there : index.tables with
      | none =>
        have failed := write_eq_error_iff.2 (.inl (obstacle_of_blank there write.operation))
        rw [written] at failed
        cases failed
      | some tables => rw [isCreated, there, Option.isSome_some]
    funext operation
    rw [obstacle, obstacle, created, (write?_of_write written).2]
  count_of_deleteProject := by
    intro index after id count deleted
    obtain ⟨tables, there, used⟩ := withTables_eq_ok_iff.1 deleted
    cases used
    change _ = (index.holdings.rowsOf id).length
    rw [← Holdings.size_sub_outside, holdings, there]
    rfl

end DatabaseIndex

/-! ## The index in a database behind a connection -/

namespace Connection

open DatabaseIndex (subject)

/-- The database is in the way, or the connection that only reads. -/
def obstacle (connection : Connection) (operation : Operation) : Option StoreError :=
  match connection.database.obstacle operation with
  | some error => some error
  | none =>
    if connection.isWritable || !operation.method.isWrite then none
    else some (.database (subject operation).2 .readOnly)

theorem write_of_writable {connection : Connection} (writable : connection.isWritable = true)
    (write : Write) : backend.write connection write =
      (DatabaseIndex.backend.write connection.database write).map
        fun database => { connection with database := database } := by
  have stepping : ∀ {α : Type} (table : Table) (task : Option String)
      (step : DatabaseIndex → Except StoreError (α × DatabaseIndex)),
      (connection.write table task step).map Prod.snd =
        ((step connection.database).map Prod.snd).map
          fun database => { connection with database := database } := by
    intro α table task step
    rw [Connection.write, if_pos writable]
    cases step connection.database <;> rfl
  have changing : ∀ (table : Table) (task : Option String)
      (step : DatabaseIndex → Except StoreError DatabaseIndex),
      connection.change table task step =
        (step connection.database).map fun database =>
          { connection with database := database } := by
    intro table task step
    rw [Connection.change, stepping]
    cases step connection.database <;> rfl
  cases write with
  | createProject project => exact changing _ _ _
  | deleteProject id => exact stepping .files none fun database => database.deleteProject id
  | createFile file => exact changing _ _ _
  | updateFile file => exact changing _ _ _
  | deleteFile id => exact changing _ _ _

theorem write_of_readOnly {connection : Connection} (only : connection.isWritable = false)
    (write : Write) {error : StoreError} : backend.write connection write = .error error ↔
      connection.obstacle write.operation = some error := by
  have refused : ∀ {α : Type} (step : DatabaseIndex → Except StoreError (α × DatabaseIndex)),
      connection.write (subject write.operation).1 (subject write.operation).2 step =
          .error error ↔ connection.obstacle write.operation = some error := by
    intro α step
    rw [Connection.write, if_neg (by simp [only]), DatabaseIndex.withTables_eq_error_iff, obstacle]
    cases there : connection.database.tables with
    | none => simp [DatabaseIndex.obstacle_of_blank there]
    | some tables =>
      simp [DatabaseIndex.obstacle_of_tables there, only, write.isWrite_operation]
  cases write with
  | createProject project => exact map_eq_error_iff.trans (refused _)
  | deleteProject id =>
    exact map_eq_error_iff.trans (refused fun database => database.deleteProject id)
  | createFile file => exact map_eq_error_iff.trans (refused _)
  | updateFile file => exact map_eq_error_iff.trans (refused _)
  | deleteFile id => exact map_eq_error_iff.trans (refused _)

/-- A question is in the way of nothing but the database's obstacle. -/
theorem obstacle_of_reading (connection : Connection) {operation : Operation}
    (reading : operation.method.isWrite = false) :
    connection.obstacle operation = connection.database.obstacle operation := by
  rw [obstacle, reading, Bool.not_false, Bool.or_true, if_pos rfl]
  cases connection.database.obstacle operation <;> rfl

theorem obstacle_of_writable {connection : Connection} (writable : connection.isWritable = true)
    (operation : Operation) :
    connection.obstacle operation = connection.database.obstacle operation := by
  rw [obstacle, writable, Bool.true_or, if_pos rfl]
  cases connection.database.obstacle operation <;> rfl

/-- Through a connection that only reads every write meets an obstacle. -/
theorem obstacle_of_readOnly {connection : Connection} (only : connection.isWritable = false)
    (write : Write) : connection.obstacle write.operation ≠ none := by
  rw [obstacle, only, write.isWrite_operation]
  cases connection.database.obstacle write.operation <;> simp

/-- Operations through a connection fail as on its database, and writes also if it only reads. -/
def refusals : storage.Refusals where
  obstacle := obstacle
  clash := DatabaseIndex.clash
  hasProject_eq_error_iff := by
    intro connection id error
    rw [connection.obstacle_of_reading rfl]
    exact DatabaseIndex.refusals.hasProject_eq_error_iff
  fileHashes_eq_error_iff := by
    intro connection id error
    rw [connection.obstacle_of_reading rfl]
    exact DatabaseIndex.refusals.fileHashes_eq_error_iff
  write_eq_error_iff := by
    intro connection write error
    cases writable : connection.isWritable with
    | true =>
      rw [write_of_writable writable, obstacle_of_writable writable]
      exact map_eq_error_iff.trans DatabaseIndex.write_eq_error_iff
    | false =>
      rw [write_of_readOnly writable]
      simp [obstacle_of_readOnly writable]
  obstacle_of_write := by
    intro connection after write written
    have kept := DatabaseIndex.refusals.obstacle_of_write (write_database written)
    have writable : connection.isWritable = true := by
      cases here : connection.isWritable with
      | true => rfl
      | false =>
        obtain ⟨error, blocked⟩ := Option.ne_none_iff_exists'.1 (obstacle_of_readOnly here write)
        rw [(write_of_readOnly here write).2 blocked] at written
        cases written
    rw [write_of_writable writable] at written
    obtain ⟨database, done, rfl⟩ := map_eq_ok_iff.1 written
    funext operation
    rw [obstacle_of_writable writable]
    exact (@obstacle_of_writable { connection with database := database } writable operation).trans
      (congrFun kept operation)
  count_of_deleteProject := by
    intro connection after id count deleted
    change connection.write .files none (fun database => database.deleteProject id) =
      .ok (count, after) at deleted
    exact DatabaseIndex.refusals.count_of_deleteProject (step_of_write deleted)

end Connection

end SourceIndex
