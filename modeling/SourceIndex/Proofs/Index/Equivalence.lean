import SourceIndex.Proofs.Index.Records
import SourceIndex.Proofs.Index.Refusals
import SourceIndex.Proofs.Json.RoundTrip

/-!
# The two kinds of indexes agree

An index is used by asking it questions and by writing to it (`Use`), and it replies or fails. The
index in memory and a writable database with tables mirror each other when the rows of the database
are those of the records in memory (`Mirrors`). From then on every use fails on both or gets the
same reply from both, and they mirror each other again (`Mirrors.respond_cases`).

Two things are lost in the database. Whether a record was demoted is not stored, so a record that is
read back is unmarked. And a structure is stored as a text, so it is read back only if the text that
was written reads as the structure again (`FileRecord.Readable`).

Main statement: an empty index in memory and a database whose tables were just created reply alike
to any uses whose records are readable (`outcome_of_fresh`).
-/

set_option autoImplicit false

namespace SourceIndex

open Fallible

/-! ## Uses of an index -/

/-- A question to an index. -/
inductive Question where
  | hasProject (id : String)
  | fileHashes (projectId : String)
  | hasFile (id : String)
  | getFile (id : String)
  | stats

/-- A use of one operation of an index. -/
inductive Use where
  | ask (question : Question)
  | write (write : Write)

/-- What an operation returns. -/
inductive Reply where
  | done
  | flag (answer : Bool)
  | removed (files : Nat)
  | hashes (hashes : Hashes)
  | record (file : Option FileRecord)
  | numbers (stats : IndexStats)

/-- The record as one that was not demoted. -/
def FileRecord.unmarked (file : FileRecord) : FileRecord :=
  { file with demoted := false }

/-- The reply without the mark on a record in it. -/
def Reply.unmarked : Reply → Reply
  | .record file => .record (file.map FileRecord.unmarked)
  | reply => reply

namespace Backend

variable {ι : Type} (backend : Backend ι)

/-- Asks an index a question. -/
def answer (index : ι) : Question → Except StoreError Reply
  | .hasProject id => (backend.hasProject index id).map .flag
  | .fileHashes projectId => (backend.fileHashes index projectId).map .hashes
  | .hasFile id => (backend.hasFile index id).map .flag
  | .getFile id => (backend.getFile index id).map .record
  | .stats => (backend.stats index).map .numbers

/-- Uses an index; a question leaves it as it is. -/
def respond (index : ι) : Use → Except StoreError (Reply × ι)
  | .ask question => (backend.answer index question).map fun reply => (reply, index)
  | .write (.deleteProject id) =>
    (backend.deleteProject index id).map fun done => (.removed done.1, done.2)
  | .write write => (backend.write index write).map fun after => (.done, after)

/-- The reply to a use; nothing if the use fails. -/
def outcome (index : ι) (use : Use) : Option Reply :=
  (backend.respond index use).toOption.map Prod.fst

/-- The index after a use. -/
def after (index : ι) (use : Use) : ι :=
  ((backend.respond index use).toOption.map Prod.snd).getD index

/-- The index after uses in order, whether they fail or not. -/
def afterAll (uses : List Use) (index : ι) : ι :=
  uses.foldl backend.after index

variable {backend} {index next : ι} {use : Use} {reply : Reply} {error : StoreError}

theorem respond_of_write_error {write : Write}
    (failed : backend.write index write = .error error) :
    backend.respond index (.write write) = .error error := by
  cases write with
  | createProject project => exact map_eq_error_iff.2 failed
  | deleteProject id => exact map_eq_error_iff.2 (map_eq_error_iff.1 failed)
  | createFile file => exact map_eq_error_iff.2 failed
  | updateFile file => exact map_eq_error_iff.2 failed
  | deleteFile id => exact map_eq_error_iff.2 failed

theorem outcome_of_ok (responded : backend.respond index use = .ok (reply, next)) :
    backend.outcome index use = some reply := by
  rw [outcome, responded]
  rfl

theorem outcome_of_error (failed : backend.respond index use = .error error) :
    backend.outcome index use = none := by
  rw [outcome, failed]
  rfl

theorem after_of_ok (responded : backend.respond index use = .ok (reply, next)) :
    backend.after index use = next := by
  rw [after, responded]
  rfl

theorem after_of_outcome_none (failed : backend.outcome index use = none) :
    backend.after index use = index := by
  have missing := Option.map_eq_none_iff.1 failed
  rw [after, missing]
  rfl

/-- A write that fails leaves the index as it is. -/
theorem after_of_write_error {write : Write} (failed : backend.write index write = .error error) :
    backend.after index (.write write) = index :=
  after_of_outcome_none (outcome_of_error (respond_of_write_error failed))

end Backend

/-! ## Records that a database can read back -/

/-- The text that is written for the record's structure reads as the structure again. -/
def FileRecord.Readable (file : FileRecord) : Prop :=
  ∀ document, file.document = some document →
    Json.parseObject? (Json.object document).compact = some document

/-- The records in a use are readable. -/
def Use.Readable : Use → Prop
  | .write (.createFile file) | .write (.updateFile file) => file.Readable
  | _ => True

theorem FileRecord.readable_storedOver {file stored : FileRecord} (fresh : file.Readable)
    (old : stored.Readable) : (file.storedOver stored).Readable := by
  rw [storedOver]
  split
  · exact old
  · exact fresh

/-- The record of a readable record's row is the record itself, unmarked. -/
theorem FileRow.toRecord?_ofRecord {file : FileRecord} (readable : file.Readable) :
    (FileRow.ofRecord file).toRecord? = .ok file.unmarked := by
  obtain ⟨id, projectId, path, name, extension, sha, mode, kind, url, known, text, demoted⟩ := file
  cases known with
  | none => rfl
  | some document =>
    have read : Json.parseObject? (Json.object document).compact = some document :=
      readable document rfl
    simp only [toRecord?, ofRecord, Option.map_some, read]
    rfl

/-! ## How a write ends -/

/-- The reply to a write that succeeds: the number of files removed with a project. -/
def Holdings.replyTo {ρ : Type} [Row ρ] (holdings : Holdings ρ) : Write → Reply
  | .deleteProject id => .removed (holdings.rowsOf id).length
  | _ => .done

theorem Holdings.replyTo_ofRecords {ρ : Type} [Row ρ] (records : Holdings FileRecord)
    (write : Write) : (ofRecords records : Holdings ρ).replyTo write = records.replyTo write := by
  cases write with
  | deleteProject id => rw [replyTo, replyTo, rowsOf_ofRecords, List.length_map]
  | _ => rfl

theorem Storage.Refusals.respond_of_write {ι ρ : Type} [Row ρ] {backend : Backend ι}
    {storage : Storage backend ρ} (refusals : storage.Refusals) {index next : ι} {write : Write}
    (written : backend.write index write = .ok next) :
    backend.respond index (.write write) =
      .ok ((storage.holdings index).replyTo write, next) := by
  cases write with
  | deleteProject id =>
    obtain ⟨⟨count, found⟩, deleted, rfl⟩ := map_eq_ok_iff.1 written
    rw [Backend.respond, deleted, Holdings.replyTo, ← refusals.count_of_deleteProject deleted]
    rfl
  | createProject project => exact map_eq_ok_iff.2 ⟨next, written, rfl⟩
  | createFile file => exact map_eq_ok_iff.2 ⟨next, written, rfl⟩
  | updateFile file => exact map_eq_ok_iff.2 ⟨next, written, rfl⟩
  | deleteFile id => exact map_eq_ok_iff.2 ⟨next, written, rfl⟩

theorem Holdings.unmarked_replyTo {ρ : Type} [Row ρ] (holdings : Holdings ρ) (write : Write) :
    (holdings.replyTo write).unmarked = holdings.replyTo write := by
  cases write <;> rfl

/-! ## Indexes that mirror each other -/

/-- With its tables a database uses what it holds. -/
theorem DatabaseIndex.withTables_of_created {α : Type} {index : DatabaseIndex}
    (created : index.isCreated = true) (table : Table) (task : Option String)
    (use : Tables → Except StoreError α) :
    index.withTables table task use = use ⟨index.holdings.projects, index.holdings.files⟩ := by
  obtain ⟨tables, there⟩ := Option.isSome_iff_exists.1 created
  rw [withTables, holdings, there]

theorem Connection.isWritable_of_write {connection next : Connection} {write : Write}
    (writable : connection.isWritable = true)
    (written : backend.write connection write = .ok next) : next.isWritable = true := by
  rw [write_of_writable writable] at written
  obtain ⟨database, -, rfl⟩ := map_eq_ok_iff.1 written
  exact writable

/-- The rows of a writable database with tables are those of the records in memory. -/
structure SameContents (memory : MemoryIndex) (connection : Connection) : Prop where
  holdings : Connection.storage.holdings connection =
    .ofRecords (MemoryIndex.storage.holdings memory)
  isCreated : connection.database.isCreated = true
  isWritable : connection.isWritable = true

namespace SameContents

variable {memory : MemoryIndex} {connection : Connection}
  (same : SameContents memory connection)
include same

theorem find?_eq (id : String) :
    connection.database.holdings.files.find? id =
      (memory.files.find? id).map FileRow.ofRecord := by
  have held : connection.database.holdings = _ := same.holdings
  rw [held]
  exact Keyed.find?_map Row.id_ofRecord _ _

/-- Nothing is in the way of a use of the database. -/
theorem obstacle_eq_none (operation : Operation) :
    Connection.refusals.obstacle connection operation = none := by
  refine (Connection.obstacle_of_writable same.isWritable operation).trans ?_
  rw [DatabaseIndex.obstacle, same.isCreated, if_pos rfl]

/-- A write fails on both, or it succeeds on both and leaves the same contents. -/
theorem write_cases (write : Write) :
    (∃ error error', MemoryIndex.backend.write memory write = .error error ∧
        Connection.backend.write connection write = .error error') ∨
      ∃ next next', MemoryIndex.backend.write memory write = .ok next ∧
        Connection.backend.write connection write = .ok next' ∧ SameContents next next' := by
  have rows := Holdings.write?_ofRecords (ρ := FileRow) (MemoryIndex.storage.holdings memory) write
  rw [← same.holdings] at rows
  have clear : MemoryIndex.refusals.obstacle memory write.operation = none := rfl
  rcases MemoryIndex.refusals.write_of_clear clear with
      ⟨unadmitted, failed⟩ | ⟨next, admitted, done⟩ <;>
    rcases Connection.refusals.write_of_clear (same.obstacle_eq_none write.operation) with
      ⟨unadmitted', failed'⟩ | ⟨next', admitted', done'⟩
  · exact .inl ⟨_, _, failed, failed'⟩
  · rw [admitted', unadmitted] at rows
    cases rows
  · rw [unadmitted', admitted] at rows
    cases rows
  · rw [admitted', admitted] at rows
    exact .inr ⟨next, next', done, done', Option.some.inj rows,
      Connection.storage.isOpen_of_write done',
      Connection.isWritable_of_write same.isWritable done'⟩

end SameContents

/-- The rows of a writable database with tables are those of the readable records in memory. -/
structure Mirrors (memory : MemoryIndex) (connection : Connection) : Prop where
  holdings : Connection.storage.holdings connection =
    .ofRecords (MemoryIndex.storage.holdings memory)
  isCreated : connection.database.isCreated = true
  isWritable : connection.isWritable = true
  readable : ∀ file ∈ memory.files.entries, file.Readable

namespace Mirrors

variable {memory : MemoryIndex} {connection : Connection}

section

variable (mirrors : Mirrors memory connection)
include mirrors

theorem hasProject_eq (id : String) :
    Connection.backend.hasProject connection id = .ok (memory.projects.contains id) := by
  refine Connection.storage.hasProject_eq_ok_iff.2 ⟨mirrors.isCreated, ?_⟩
  rw [mirrors.holdings]
  rfl

theorem fileHashes_eq (projectId : String) :
    Connection.backend.fileHashes connection projectId = .ok (memory.fileHashes projectId) := by
  refine Connection.storage.fileHashes_eq_ok_iff.2 ⟨mirrors.isCreated, ?_⟩
  rw [mirrors.holdings, Holdings.hashesOf_ofRecords]
  rfl

theorem sameContents : SameContents memory connection :=
  ⟨mirrors.holdings, mirrors.isCreated, mirrors.isWritable⟩

theorem hasFile_eq (id : String) :
    Connection.backend.hasFile connection id = .ok (memory.files.contains id) := by
  refine (DatabaseIndex.withTables_of_created mirrors.isCreated _ _ _).trans ?_
  rw [Keyed.contains, mirrors.sameContents.find?_eq, Option.isSome_map, Keyed.contains]

theorem getFile_eq (id : String) :
    Connection.backend.getFile connection id =
      .ok ((memory.files.find? id).map FileRecord.unmarked) := by
  refine (DatabaseIndex.withTables_of_created mirrors.isCreated _ _ _).trans ?_
  rw [mirrors.sameContents.find?_eq]
  cases there : memory.files.find? id with
  | none => rfl
  | some file =>
    have within := ((memory.files.find?_eq_some_iff _ _).1 there).1
    exact congrArg (Except.map some) (FileRow.toRecord?_ofRecord (mirrors.readable file within))

theorem stats_eq : Connection.backend.stats connection = .ok memory.stats := by
  refine (DatabaseIndex.withTables_of_created mirrors.isCreated _ _ _).trans ?_
  have held : connection.database.holdings = _ := mirrors.holdings
  rw [held]
  exact congrArg Except.ok (Holdings.stats_ofRecords _)

/-- Every question is answered by both, and alike up to the mark on a record. -/
theorem answer_eq (question : Question) :
    ∃ reply, MemoryIndex.backend.answer memory question = .ok reply ∧
      Connection.backend.answer connection question = .ok reply.unmarked := by
  cases question with
  | hasProject id => exact ⟨_, rfl, congrArg (Except.map _) (mirrors.hasProject_eq id)⟩
  | fileHashes projectId =>
    exact ⟨_, rfl, congrArg (Except.map _) (mirrors.fileHashes_eq projectId)⟩
  | hasFile id => exact ⟨_, rfl, congrArg (Except.map _) (mirrors.hasFile_eq id)⟩
  | getFile id => exact ⟨_, rfl, congrArg (Except.map _) (mirrors.getFile_eq id)⟩
  | stats => exact ⟨_, rfl, congrArg (Except.map _) mirrors.stats_eq⟩

/-- A write fails on both, or it succeeds on both and they mirror each other afterwards. -/
theorem write_cases {write : Write} (readable : (Use.write write).Readable) :
    (∃ error error', MemoryIndex.backend.write memory write = .error error ∧
        Connection.backend.write connection write = .error error') ∨
      ∃ next next', MemoryIndex.backend.write memory write = .ok next ∧
        Connection.backend.write connection write = .ok next' ∧ Mirrors next next' := by
  rcases mirrors.sameContents.write_cases write with failed | ⟨next, next', done, done', same⟩
  · exact .inl failed
  · refine .inr ⟨next, next', done, done', same.holdings, same.isCreated, same.isWritable, ?_⟩
    refine Holdings.forall_of_write? (ρ := FileRecord) mirrors.readable ?_ ?_
      (MemoryIndex.storage.write?_of_write done)
    · rintro file rfl
      exact readable
    · rintro file rfl stored within -
      exact FileRecord.readable_storedOver readable (mirrors.readable stored within)

/-- **A use fails on both, or it gets the same reply from both, up to the mark on a record, and they
mirror each other afterwards.** -/
theorem respond_cases {use : Use} (readable : use.Readable) :
    (∃ error error', MemoryIndex.backend.respond memory use = .error error ∧
        Connection.backend.respond connection use = .error error') ∨
      ∃ reply next next', MemoryIndex.backend.respond memory use = .ok (reply, next) ∧
        Connection.backend.respond connection use = .ok (reply.unmarked, next') ∧
          Mirrors next next' := by
  cases use with
  | ask question =>
    obtain ⟨reply, here, there⟩ := mirrors.answer_eq question
    refine .inr ⟨reply, memory, connection, ?_, ?_, mirrors⟩
    · rw [Backend.respond, here]
      rfl
    · rw [Backend.respond, there]
      rfl
  | write write =>
    rcases mirrors.write_cases readable with
      ⟨error, error', here, there⟩ | ⟨next, next', here, there, mirrored⟩
    · exact .inl ⟨error, error', Backend.respond_of_write_error here,
        Backend.respond_of_write_error there⟩
    · refine .inr ⟨_, next, next', MemoryIndex.refusals.respond_of_write here, ?_, mirrored⟩
      rw [Connection.refusals.respond_of_write there, mirrors.holdings, Holdings.replyTo_ofRecords,
        Holdings.unmarked_replyTo]

/-- The reply of the database is that of the memory, unmarked; without one nothing changes. -/
theorem outcome_eq {use : Use} (readable : use.Readable) :
    Connection.backend.outcome connection use =
        (MemoryIndex.backend.outcome memory use).map Reply.unmarked ∧
      Mirrors (MemoryIndex.backend.after memory use) (Connection.backend.after connection use) := by
  rcases mirrors.respond_cases readable with
    ⟨error, error', here, there⟩ | ⟨reply, next, next', here, there, mirrored⟩
  · have failed := Backend.outcome_of_error here
    have failed' := Backend.outcome_of_error there
    rw [failed, failed', Backend.after_of_outcome_none failed,
      Backend.after_of_outcome_none failed']
    exact ⟨rfl, mirrors⟩
  · rw [Backend.outcome_of_ok here, Backend.outcome_of_ok there, Backend.after_of_ok here,
      Backend.after_of_ok there]
    exact ⟨rfl, mirrored⟩

end

/-- Indexes that mirror each other do so after any uses. -/
theorem afterAll {uses : List Use} (readable : ∀ use ∈ uses, use.Readable)
    (mirrors : Mirrors memory connection) :
    Mirrors (MemoryIndex.backend.afterAll uses memory)
      (Connection.backend.afterAll uses connection) := by
  induction uses generalizing memory connection with
  | nil => exact mirrors
  | cons use rest ih =>
    refine ih (fun other member => readable other (List.mem_cons_of_mem use member)) ?_
    exact (mirrors.outcome_eq (readable use List.mem_cons_self)).2

/-- Empty indexes mirror each other once the database has its tables. -/
theorem of_fresh {opened fresh : Connection} (blank : opened.database = .blank)
    (created : opened.create = .ok fresh) : Mirrors .empty fresh := by
  rw [Connection.create, blank] at created
  split at created
  · next allowed =>
    cases created
    refine ⟨rfl, rfl, ?_, fun file member => by cases member⟩
    simpa [DatabaseIndex.blank, DatabaseIndex.isCreated] using allowed
  · cases created

end Mirrors

/-- **The two kinds of indexes agree.** After any uses of an empty index in memory and of a database
whose tables were just created, a use fails on both or gets the same reply from both, except that a
record from the database is never marked as demoted; and a use that fails leaves both as they
are. -/
theorem outcome_of_fresh {opened fresh : Connection} (blank : opened.database = .blank)
    (created : opened.create = .ok fresh) (earlier : List Use) (use : Use)
    (readable : ∀ other ∈ earlier ++ [use], other.Readable) :
    let memory := MemoryIndex.backend.afterAll earlier .empty
    let connection := Connection.backend.afterAll earlier fresh
    Connection.backend.outcome connection use =
        (MemoryIndex.backend.outcome memory use).map Reply.unmarked ∧
      (MemoryIndex.backend.outcome memory use = none →
        MemoryIndex.backend.after memory use = memory ∧
          Connection.backend.after connection use = connection) := by
  intro memory connection
  have mirrors : Mirrors memory connection :=
    (Mirrors.of_fresh blank created).afterAll fun other member =>
      readable other (List.mem_append_left _ member)
  have same := (mirrors.outcome_eq (readable use (by simp))).1
  refine ⟨same, fun failed => ⟨Backend.after_of_outcome_none failed, ?_⟩⟩
  exact Backend.after_of_outcome_none (by rw [same, failed]; rfl)

/-- A record with structure that is marked as demoted all the same. -/
def markedFile : FileRecord where
  id := "o/p/A.java"
  projectId := "o/p"
  path := "A.java"
  name := "A.java"
  extension := "java"
  sha := "1"
  mode := "100644"
  kind := "blob"
  url := ""
  document := some [("class", .object [("name", .string "A")])]
  rawContent := none
  demoted := true

theorem readable_markedFile : markedFile.Readable := by
  rintro document ⟨⟩
  have inner : ∀ depth, Json.Canonical (depth + 1) (.object [("name", .string "A")]) :=
    fun depth => .object (List.pairwise_singleton _ _) (List.forall_mem_singleton.2 .string)
  have canonical : Json.Canonical Json.depthLimit
      (.object [("class", .object [("name", .string "A")])]) :=
    .object (List.pairwise_singleton _ _) (List.forall_mem_singleton.2 (inner _))
  rw [Json.parseObject?, Json.parse?_compact canonical (by decide)]

/-- Read back from memory the record is still marked, and from the database it is not. -/
theorem outcome_of_markedFile :
    let earlier := [Use.write (.createFile markedFile)]
    let reading := Use.ask (.getFile markedFile.id)
    let memory := MemoryIndex.backend.afterAll earlier .empty
    let connection := Connection.backend.afterAll earlier ⟨none, DatabaseIndex.blank.create, true⟩
    MemoryIndex.backend.outcome memory reading = some (.record (some markedFile)) ∧
      Connection.backend.outcome connection reading =
        some (.record (some markedFile.unmarked)) := by
  intro earlier reading memory connection
  have inMemory : MemoryIndex.backend.outcome memory reading =
      some (.record (some markedFile)) := rfl
  refine ⟨inMemory, ?_⟩
  have created : (⟨none, .blank, true⟩ : Connection).create =
      .ok ⟨none, DatabaseIndex.blank.create, true⟩ := rfl
  have same := (outcome_of_fresh rfl created earlier reading
    (by simpa [earlier, reading, Use.Readable] using readable_markedFile)).1
  exact same.trans (congrArg (Option.map Reply.unmarked) inMemory)

end SourceIndex
