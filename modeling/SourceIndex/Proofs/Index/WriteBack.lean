import SourceIndex.Proofs.Index.Equivalence

/-!
# Records written back

A client of an index reads records and keeps those without structure. In between it writes to the
index, and later it writes a kept record back with another description: another hash, say. The
record says nothing of the structure that the index may hold by then, so the update should leave
that structure and its text in place.

In a database it does (`Connection.content_update`). In memory it does not: the mark of a demoted
record is stored and read back with it, and an update with a marked record clears the structure.
The update keeps everything exactly if the record is not marked or there is nothing to lose
(`MemoryIndex.content_update_iff`), and exactly then the two kinds of indexes hold the same contents
afterwards (`SameContents.update_iff`).

Main statement: all of this along every sequence of reads, writes and writings back
(`Backend.writeBack_outcome`).
-/

set_option autoImplicit false

namespace SourceIndex

open Fallible

/-! ## Clients -/

/-- What a record says of a file besides its id and its structure. -/
structure Description where
  projectId : String
  path : String
  name : String
  extension : String
  sha : String
  mode : String
  kind : String
  url : String

/-- The record with another description. -/
def FileRecord.redescribed (file : FileRecord) (description : Description) : FileRecord :=
  { file with
    projectId := description.projectId
    path := description.path
    name := description.name
    extension := description.extension
    sha := description.sha
    mode := description.mode
    kind := description.kind
    url := description.url }

/-- A step of a client. -/
inductive Edit where
  /-- Reads a record and keeps it if it carries no structure. -/
  | get (id : String)
  | write (write : Write)
  /-- Writes a kept record back with another description. -/
  | writeBack (place : Nat) (description : Description)

/-- An index and the records that its client has read, in order; none for a reading that gave no
record without structure. -/
structure Editing (ι : Type) where
  index : ι
  kept : List (Option FileRecord)

/-- The record that the client keeps at a place. -/
def Editing.record? {ι : Type} (editing : Editing ι) (place : Nat) : Option FileRecord :=
  editing.kept[place]?.join

namespace Backend

variable {ι : Type} (backend : Backend ι)

/-- The record of a file if it can be read and carries no structure. -/
def bareRecord? (index : ι) (id : String) : Option FileRecord :=
  (backend.getFile index id).toOption.join.filter fun file => !file.hasStructure

/-- Takes a step of a client; a write that fails leaves the index as it is. -/
def edit (editing : Editing ι) : Edit → Editing ι
  | .get id => { editing with kept := editing.kept ++ [backend.bareRecord? editing.index id] }
  | .write write => { editing with index := backend.after editing.index (.write write) }
  | .writeBack place description =>
    match editing.record? place with
    | none => editing
    | some record =>
      let update := Write.updateFile (record.redescribed description)
      { editing with index := backend.after editing.index (.write update) }

/-- Takes steps of a client in order. -/
def editAll (edits : List Edit) (editing : Editing ι) : Editing ι :=
  edits.foldl backend.edit editing

/-- What a client keeps has whatever every record has that can be read without structure. -/
theorem editAll_keeps {good : FileRecord → Prop}
    (reading : ∀ index id record, backend.bareRecord? index id = some record → good record)
    (edits : List Edit) {editing : Editing ι}
    (before : ∀ record, some record ∈ editing.kept → good record) :
    ∀ record, some record ∈ (backend.editAll edits editing).kept → good record := by
  induction edits generalizing editing with
  | nil => exact before
  | cons edit rest ih =>
    apply ih
    intro record within
    cases edit with
    | get id =>
      rcases List.mem_append.1 within with earlier | last
      · exact before record earlier
      · exact reading editing.index id record (List.mem_singleton.1 last).symm
    | write write => exact before record within
    | writeBack place description =>
      rw [Backend.edit] at within
      split at within
      · exact before record within
      · exact before record within

end Backend

theorem Editing.mem_of_record? {ι : Type} {editing : Editing ι} {place : Nat} {record : FileRecord}
    (kept : editing.record? place = some record) : some record ∈ editing.kept :=
  List.mem_of_getElem? (Option.join_eq_some_iff.1 kept)

/-! ## Updates with records without structure -/

namespace FileRecord

/-- An update with the record takes nothing from the stored one: the record is not marked, or the
stored one has no structure and the same text. -/
def Spares (file stored : FileRecord) : Prop :=
  file.demoted = true → stored.document = none ∧ stored.rawContent = file.rawContent

variable {file stored : FileRecord}

theorem storedOver_of_unmarked (bare : file.hasStructure = false) (plain : file.demoted = false) :
    file.storedOver stored =
      { file with document := stored.document, rawContent := stored.rawContent } := by
  rw [storedOver, keepsStoredStructure, bare, plain]
  rfl

theorem storedOver_of_marked (marked : file.demoted = true) : file.storedOver stored = file := by
  rw [storedOver, keepsStoredStructure, marked, Bool.not_true, Bool.and_false]
  rfl

theorem document_of_bare (bare : file.hasStructure = false) : file.document = none := by
  simpa [hasStructure] using bare

/-- The structure and text are left in place exactly if the record spares the stored one. -/
theorem storedOver_content_iff (bare : file.hasStructure = false) :
    ((file.storedOver stored).document = stored.document ∧
      (file.storedOver stored).rawContent = stored.rawContent) ↔ file.Spares stored := by
  cases marked : file.demoted with
  | false =>
    rw [storedOver_of_unmarked bare marked]
    simp [Spares, marked]
  | true =>
    rw [storedOver_of_marked marked, document_of_bare bare]
    simp [Spares, marked, eq_comm]

/-- The mark of the record makes no difference to the row exactly if the record spares the stored
one. -/
theorem ofRecord_storedOver_iff (bare : file.hasStructure = false) :
    FileRow.ofRecord (file.storedOver stored) = FileRow.ofRecord (file.unmarked.storedOver stored) ↔
      file.Spares stored := by
  have plain : file.unmarked.storedOver stored = _ := storedOver_of_unmarked bare rfl
  rw [plain]
  cases marked : file.demoted with
  | false =>
    rw [storedOver_of_unmarked bare marked]
    simp [Spares, marked, FileRow.ofRecord, unmarked]
  | true =>
    rw [storedOver_of_marked marked]
    simp [Spares, marked, FileRow.ofRecord, unmarked, document_of_bare bare, @eq_comm _ none,
      @eq_comm _ file.rawContent]

end FileRecord

/-! ### In memory -/

namespace MemoryIndex

/-- The structure and text that the index holds for a file. -/
def content (index : MemoryIndex) (id : String) : Option (Option Document × Option String) :=
  (index.files.find? id).map fun file => (file.document, file.rawContent)

/-- An update with the record takes nothing from what the index holds for its file. -/
def Spares (index : MemoryIndex) (file : FileRecord) : Prop :=
  ∀ stored, index.files.find? file.id = some stored → file.Spares stored

variable {index : MemoryIndex} {file stored : FileRecord}

theorem after_update_of_absent (absent : index.files.find? file.id = none) :
    backend.after index (.write (.updateFile file)) = index := by
  have failed : backend.write index (.updateFile file) = .error (.fileMissing file.id) := by
    change updateFile index file = _
    rw [updateFile, absent]
  exact Backend.after_of_write_error failed

theorem after_update_of_found (found : index.files.find? file.id = some stored) :
    backend.after index (.write (.updateFile file)) =
      { index with files := index.files.put (file.storedOver stored), writes := index.writes + 1 }
      := by
  have written : backend.write index (.updateFile file) = .ok { index with
      files := index.files.put (file.storedOver stored), writes := index.writes + 1 } := by
    change updateFile index file = _
    rw [updateFile, found]
  exact Backend.after_of_ok (refusals.respond_of_write written)

theorem find?_after_update (index : MemoryIndex) (file : FileRecord) :
    (backend.after index (.write (.updateFile file))).files.find? file.id =
      (index.files.find? file.id).map file.storedOver := by
  cases found : index.files.find? file.id with
  | none =>
    rw [after_update_of_absent found, found]
    rfl
  | some stored =>
    have named : (file.storedOver stored).id = file.id := Row.id_updatedBy stored file
    rw [after_update_of_found found, Keyed.find?_put, if_pos named.symm]
    rfl

/-- **An update in memory leaves the structure and text in place exactly if the record spares
them.** -/
theorem content_update_iff (bare : file.hasStructure = false) :
    (backend.after index (.write (.updateFile file))).content file.id = index.content file.id ↔
      index.Spares file := by
  rw [content, find?_after_update, content, Spares]
  cases index.files.find? file.id with
  | none => simp
  | some stored => simp [← FileRecord.storedOver_content_iff bare]

end MemoryIndex

/-! ### In a database -/

namespace Connection

/-- The text of the structure and the text that the database holds for a file. -/
def content (connection : Connection) (id : String) : Option (Option String × Option String) :=
  (connection.database.holdings.files.find? id).map fun row => (row.structureText, row.rawContent)

/-- An update with a record that was read from a database and has no structure leaves the structure
and text in place, whatever the database allows. -/
theorem content_update {file : FileRecord} (bare : file.hasStructure = false)
    (plain : file.demoted = false) (connection : Connection) :
    (backend.after connection (.write (.updateFile file))).content file.id =
      connection.content file.id := by
  have keeps : file.keepsStoredStructure = true := by
    rw [FileRecord.keepsStoredStructure, bare, plain]
    rfl
  cases written : backend.write connection (.updateFile file) with
  | error error =>
    rw [Backend.after_of_write_error written]
  | ok next =>
    have found := Holdings.find?_of_write? (storage.write?_of_write written) file.id
    rw [Backend.after_of_ok (refusals.respond_of_write written)]
    change next.database.holdings.files.find? file.id = _ at found
    rw [content, found, Holdings.rowAfter, if_pos rfl, Option.map_map, content]
    apply congrArg (Option.map · _)
    funext row
    change ((row.updatedBy file).structureText, (row.updatedBy file).rawContent) = _
    rw [FileRow.updatedBy, if_pos keeps]

end Connection

/-! ### In both -/

namespace SameContents

variable {memory : MemoryIndex} {connection : Connection}

theorem after (same : SameContents memory connection) (write : Write) :
    SameContents (MemoryIndex.backend.after memory (.write write))
      (Connection.backend.after connection (.write write)) := by
  rcases same.write_cases write with
    ⟨error, error', failed, failed'⟩ | ⟨next, next', written, written', following⟩
  · rw [Backend.after_of_write_error failed, Backend.after_of_write_error failed']
    exact same
  · rw [Backend.after_of_ok (MemoryIndex.refusals.respond_of_write written),
      Backend.after_of_ok (Connection.refusals.respond_of_write written')]
    exact following

/-- **Of a record that was demoted, memory knows it and the database does not: an update leaves the
same contents in both exactly if the record spares what the index holds.** -/
theorem update_iff (same : SameContents memory connection) {file : FileRecord}
    (bare : file.hasStructure = false) :
    SameContents (MemoryIndex.backend.after memory (.write (.updateFile file)))
        (Connection.backend.after connection (.write (.updateFile file.unmarked))) ↔
      memory.Spares file := by
  -- The same update with a record that is unmarked in memory, too.
  have plain := same.after (.updateFile file.unmarked)
  cases found : memory.files.find? file.id with
  | none =>
    have idle : MemoryIndex.backend.after memory (.write (.updateFile file.unmarked)) = memory :=
      MemoryIndex.after_update_of_absent found
    rw [idle] at plain
    rw [MemoryIndex.after_update_of_absent found]
    refine ⟨fun _ stored there => ?_, fun _ => plain⟩
    rw [found] at there
    cases there
  | some stored =>
    have spares : memory.Spares file ↔ file.Spares stored := by
      simp [MemoryIndex.Spares, found]
    rw [spares, ← FileRecord.ofRecord_storedOver_iff bare]
    constructor
    · intro marked
      have rows := (marked.find?_eq file.id).symm.trans (plain.find?_eq file.unmarked.id)
      rw [MemoryIndex.find?_after_update, MemoryIndex.find?_after_update,
        show file.unmarked.id = file.id from rfl, found] at rows
      exact Option.some.inj rows
    · intro rows
      refine ⟨plain.holdings.trans ?_, plain.isCreated, plain.isWritable⟩
      have done : MemoryIndex.backend.after memory (.write (.updateFile file.unmarked)) = _ :=
        MemoryIndex.after_update_of_found found
      rw [MemoryIndex.after_update_of_found found, done]
      refine congrArg (Holdings.mk memory.projects) ?_
      refine (Keyed.map_put Row.id_ofRecord memory.files _).trans ?_
      refine Eq.trans ?_ (Keyed.map_put Row.id_ofRecord memory.files _).symm
      exact congrArg _ rows.symm

end SameContents

/-! ## Records that a client keeps -/

namespace Backend

variable {ι : Type} {backend : Backend ι} {index : ι} {id : String} {record : FileRecord}

theorem hasStructure_of_bareRecord? (read : backend.bareRecord? index id = some record) :
    record.hasStructure = false := by
  simpa using (Option.filter_eq_some_iff.1 read).2

theorem hasStructure_of_kept {edits : List Edit} {start : ι} {place : Nat}
    (kept : (backend.editAll edits ⟨start, []⟩).record? place = some record) :
    record.hasStructure = false :=
  backend.editAll_keeps (fun _ _ _ => hasStructure_of_bareRecord?) edits (by simp) record
    (Editing.mem_of_record? kept)

theorem edit_writeBack {editing : Editing ι} {place : Nat}
    (kept : editing.record? place = some record) (description : Description) :
    backend.edit editing (.writeBack place description) =
      ⟨backend.after editing.index (.write (.updateFile (record.redescribed description))),
        editing.kept⟩ := by
  rw [edit, kept]

end Backend

/-- A record that is read from a row is never marked, and it has structure if the row has a text of
it. -/
theorem FileRow.of_toRecord? {row : FileRow} {record : FileRecord}
    (read : row.toRecord? = .ok record) :
    record.demoted = false ∧ record.hasStructure = row.structureText.isSome := by
  rw [toRecord?] at read
  split at read
  · next without =>
    cases read
    exact ⟨rfl, by rw [without]; rfl⟩
  · next text written =>
    split at read
    · cases read
      exact ⟨rfl, by rw [written]; rfl⟩
    · cases read

theorem Connection.demoted_of_bareRecord? {connection : Connection} {id : String}
    {record : FileRecord} (read : backend.bareRecord? connection id = some record) :
    record.demoted = false := by
  obtain ⟨got, -⟩ := Option.filter_eq_some_iff.1 read
  change (connection.database.getFile id).toOption.join = some record at got
  cases answer : connection.database.getFile id with
  | error error =>
    rw [answer] at got
    cases got
  | ok found =>
    rw [answer] at got
    obtain ⟨tables, -, used⟩ := DatabaseIndex.withTables_eq_ok_iff.1 answer
    have given : found = some record := got
    split at used
    · cases used
      cases given
    · obtain ⟨other, converted, same⟩ := map_eq_ok_iff.1 used
      cases same.trans given
      exact (FileRow.of_toRecord? converted).1

/-- What can be read from a database without structure is what can be read from memory so. -/
theorem SameContents.bareRecord?_eq {memory : MemoryIndex} {connection : Connection}
    (same : SameContents memory connection) (id : String) :
    Connection.backend.bareRecord? connection id =
      (MemoryIndex.backend.bareRecord? memory id).map FileRecord.unmarked := by
  change (connection.database.getFile id).toOption.join.filter _ =
    ((memory.files.find? id).filter _).map _
  rw [DatabaseIndex.getFile, DatabaseIndex.withTables_of_created same.isCreated, same.find?_eq]
  cases memory.files.find? id with
  | none => rfl
  | some file =>
    change ((FileRow.ofRecord file).toRecord?.map some).toOption.join.filter _ = _
    cases there : file.document with
    | none =>
      have readable : file.Readable := fun document known => by
        rw [there] at known
        cases known
      rw [FileRow.toRecord?_ofRecord readable]
      simp [Except.map, Except.toOption, Option.filter, FileRecord.unmarked,
        FileRecord.hasStructure, there]
    | some document =>
      have structured : file.hasStructure = true := by rw [FileRecord.hasStructure, there]; rfl
      cases converted : (FileRow.ofRecord file).toRecord? with
      | error error => simp [Except.map, Except.toOption, Option.filter, structured]
      | ok record =>
        have written : record.hasStructure = true := by
          rw [(FileRow.of_toRecord? converted).2, FileRow.ofRecord, there]
          rfl
        simp [Except.map, Except.toOption, Option.filter, structured, written]

/-! ## Clients of both kinds of indexes -/

/-- The same contents, and the same records kept up to the mark, which a database does not have. -/
structure SameEditing (inMemory : Editing MemoryIndex) (inDatabase : Editing Connection) :
    Prop where
  contents : SameContents inMemory.index inDatabase.index
  kept : inDatabase.kept = inMemory.kept.map (Option.map FileRecord.unmarked)

/-- The records that are written back spare what the index in memory holds at that moment. -/
def Sparing : List Edit → Editing MemoryIndex → Prop
  | [], _ => True
  | edit :: rest, editing =>
    (∀ place description record, edit = .writeBack place description →
      editing.record? place = some record → editing.index.Spares record) ∧
      Sparing rest (MemoryIndex.backend.edit editing edit)

namespace SameEditing

variable {inMemory : Editing MemoryIndex} {inDatabase : Editing Connection}

theorem record?_eq (same : SameEditing inMemory inDatabase) (place : Nat) :
    inDatabase.record? place = (inMemory.record? place).map FileRecord.unmarked := by
  rw [Editing.record?, same.kept, List.getElem?_map, Editing.record?]
  cases inMemory.kept[place]? with
  | none => rfl
  | some kept => rfl

/-- Writing a record back leaves the same contents exactly if the record spares what memory
holds. -/
theorem writeBack_iff (same : SameEditing inMemory inDatabase) {place : Nat} {record : FileRecord}
    (bare : record.hasStructure = false) (kept : inMemory.record? place = some record)
    (description : Description) :
    SameContents (MemoryIndex.backend.edit inMemory (.writeBack place description)).index
        (Connection.backend.edit inDatabase (.writeBack place description)).index ↔
      inMemory.index.Spares record := by
  have kept' : inDatabase.record? place = some record.unmarked := by
    rw [same.record?_eq, kept]
    rfl
  have bare' : (record.redescribed description).hasStructure = false := bare
  rw [Backend.edit_writeBack kept, Backend.edit_writeBack kept']
  exact same.contents.update_iff bare'

/-- A step that spares what memory holds keeps the two clients alike. -/
theorem edit (same : SameEditing inMemory inDatabase)
    (bare : ∀ record, some record ∈ inMemory.kept → record.hasStructure = false) {edit : Edit}
    (spares : ∀ place description record, edit = .writeBack place description →
      inMemory.record? place = some record → inMemory.index.Spares record) :
    SameEditing (MemoryIndex.backend.edit inMemory edit)
      (Connection.backend.edit inDatabase edit) := by
  cases edit with
  | get id =>
    refine ⟨same.contents, ?_⟩
    change inDatabase.kept ++ [_] = (inMemory.kept ++ [_]).map _
    rw [same.kept, same.contents.bareRecord?_eq, List.map_append]
    rfl
  | write write => exact ⟨same.contents.after write, same.kept⟩
  | writeBack place description =>
    cases kept : inMemory.record? place with
    | none =>
      have kept' : inDatabase.record? place = none := by
        rw [same.record?_eq, kept]
        rfl
      rw [Backend.edit, kept, Backend.edit, kept']
      exact same
    | some record =>
      refine ⟨?_, ?_⟩
      · refine (same.writeBack_iff (bare record (Editing.mem_of_record? kept)) kept _).2 ?_
        exact spares place description record rfl kept
      · have kept' : inDatabase.record? place = some record.unmarked := by
          rw [same.record?_eq, kept]
          rfl
        rw [Backend.edit_writeBack kept, Backend.edit_writeBack kept']
        exact same.kept

/-- Clients that are alike stay so as long as what is written back spares what memory holds. -/
theorem editAll (same : SameEditing inMemory inDatabase)
    (bare : ∀ record, some record ∈ inMemory.kept → record.hasStructure = false)
    {edits : List Edit} (sparing : Sparing edits inMemory) :
    SameEditing (MemoryIndex.backend.editAll edits inMemory)
      (Connection.backend.editAll edits inDatabase) := by
  induction edits generalizing inMemory inDatabase with
  | nil => exact same
  | cons edit rest ih =>
    apply ih (same.edit bare sparing.1)
    · exact MemoryIndex.backend.editAll_keeps
        (fun _ _ _ => Backend.hasStructure_of_bareRecord?) [edit] bare
    · exact sparing.2

end SameEditing

/-- **Records written back.** A client reads, writes and writes back, in any order, and then writes
back one of the records without structure that it has kept. In a database the structure and text
that are held for the file stay in place. In memory they stay exactly if the record spares them. And
if what was written back before spared them, too, then memory and database hold the same contents,
and still do afterwards exactly if the record spares what memory holds. -/
theorem Backend.writeBack_outcome (memory : MemoryIndex) (connection : Connection)
    (edits : List Edit) (place : Nat) (description : Description) :
    let inMemory := MemoryIndex.backend.editAll edits ⟨memory, []⟩
    let inDatabase := Connection.backend.editAll edits ⟨connection, []⟩
    let later := MemoryIndex.backend.edit inMemory (.writeBack place description)
    let later' := Connection.backend.edit inDatabase (.writeBack place description)
    (∀ record, inDatabase.record? place = some record →
      later'.index.content record.id = inDatabase.index.content record.id) ∧
    (∀ record, inMemory.record? place = some record →
      (later.index.content record.id = inMemory.index.content record.id ↔
        inMemory.index.Spares record)) ∧
    (SameContents memory connection → Sparing edits ⟨memory, []⟩ →
      SameContents inMemory.index inDatabase.index ∧
      ∀ record, inMemory.record? place = some record →
        (SameContents later.index later'.index ↔ inMemory.index.Spares record)) := by
  intro inMemory inDatabase later later'
  refine ⟨?_, ?_, ?_⟩
  · intro record kept
    have unstructured : record.hasStructure = false := hasStructure_of_kept kept
    have bare : (record.redescribed description).hasStructure = false := unstructured
    have plain : record.demoted = false := Connection.backend.editAll_keeps
      (fun _ _ _ => Connection.demoted_of_bareRecord?) edits (by simp) record
      (Editing.mem_of_record? kept)
    rw [show later' = _ from edit_writeBack kept description]
    exact Connection.content_update bare plain inDatabase.index
  · intro record kept
    have unstructured : record.hasStructure = false := hasStructure_of_kept kept
    have bare : (record.redescribed description).hasStructure = false := unstructured
    rw [show later = _ from edit_writeBack kept description]
    exact MemoryIndex.content_update_iff bare
  · intro contents sparing
    have same : SameEditing inMemory inDatabase :=
      SameEditing.editAll ⟨contents, rfl⟩ (by simp) sparing
    exact ⟨same.contents, fun record kept =>
      same.writeBack_iff (hasStructure_of_kept kept) kept description⟩

/-! ### A file that is extracted while its record is kept -/

/-- The record of a file with the given hash, before any extraction. -/
def revision (sha : String) : FileRecord where
  id := "o/p/A.java"
  projectId := "o/p"
  path := "A.java"
  name := "A.java"
  extension := "java"
  sha := sha
  mode := "100644"
  kind := "blob"
  url := ""
  document := none
  rawContent := none
  demoted := false

/-- The description of a record. -/
def FileRecord.description (file : FileRecord) : Description :=
  ⟨file.projectId, file.path, file.name, file.extension, file.sha, file.mode, file.kind, file.url⟩

/-- A record is filed and read, and then the file is extracted. -/
def extractedLater (first : FileRecord) : List Edit :=
  [.write (.createFile first), .get first.id,
    .write (.updateFile
      ((revision "2").attach [("class", .object [("name", .string "A")])] "class A {}"))]

/-- If the record was not demoted, memory and database keep the structure when it is written back
with another hash. -/
theorem Backend.writeBack_outcome_plain :
    let inMemory := MemoryIndex.backend.editAll (extractedLater (revision "1")) ⟨.empty, []⟩
    let inDatabase := Connection.backend.editAll (extractedLater (revision "1"))
      ⟨⟨none, DatabaseIndex.blank.create, true⟩, []⟩
    let later := MemoryIndex.backend.edit inMemory (.writeBack 0 (revision "3").description)
    let later' := Connection.backend.edit inDatabase (.writeBack 0 (revision "3").description)
    inMemory.record? 0 = some (revision "1") ∧
    later.index.content "o/p/A.java" =
      some (some [("class", .object [("name", .string "A")])], some "class A {}") ∧
    SameContents later.index later'.index := by
  intro inMemory inDatabase later later'
  have kept : inMemory.record? 0 = some (revision "1") := rfl
  have spares : inMemory.index.Spares (revision "1") := by
    intro stored there marked
    cases marked
  obtain ⟨-, held, alike⟩ := Backend.writeBack_outcome .empty
    ⟨none, DatabaseIndex.blank.create, true⟩ (extractedLater (revision "1")) 0
    (revision "3").description
  have sparing : Sparing (extractedLater (revision "1")) ⟨.empty, []⟩ := by
    simp [Sparing, extractedLater]
  exact ⟨kept, ((held _ kept).2 spares).trans rfl,
    ((alike ⟨rfl, rfl, rfl⟩ sparing).2 _ kept).2 spares⟩

/-- If it was demoted, memory loses the structure that the database keeps. -/
theorem Backend.writeBack_demoted :
    let inMemory := MemoryIndex.backend.editAll (extractedLater (revision "1").demote) ⟨.empty, []⟩
    let inDatabase := Connection.backend.editAll (extractedLater (revision "1").demote)
      ⟨⟨none, DatabaseIndex.blank.create, true⟩, []⟩
    let stale := (revision "3").demote.description
    inMemory.record? 0 = some (revision "1").demote ∧
    (MemoryIndex.backend.edit inMemory (.writeBack 0 stale)).index.content "o/p/A.java" =
      some (none, none) ∧
    inMemory.index.content "o/p/A.java" =
      some (some [("class", .object [("name", .string "A")])], some "class A {}") ∧
    (Connection.backend.edit inDatabase (.writeBack 0 stale)).index.content "o/p/A.java" =
      inDatabase.index.content "o/p/A.java" ∧
    inDatabase.index.content "o/p/A.java" =
      some (some (Json.object [("class", .object [("name", .string "A")])]).compact,
        some "class A {}") :=
  ⟨rfl, rfl, rfl, rfl, rfl⟩

end SourceIndex
