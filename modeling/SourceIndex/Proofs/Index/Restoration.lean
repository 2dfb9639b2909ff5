import SourceIndex.Proofs.Extraction
import SourceIndex.Proofs.Index.Equivalence

/-!
# Reading structures back from a database

A document that extraction takes from an answer is in canonical form, because the answer was read
and normalizing changes neither the order of keys nor the depth (`Json.Restorable.normalize`). So
the text that a database stores for it reads as the document again, as long as the numbers in the
answer are whole and fit 64 bits (`FileRecord.readable_attach`).

Main statement: a record with such a document is read back as it was written, up to the mark of a
demoted record, whether it was created or written over another one (`Connection.getFile_attached`).
-/

set_option autoImplicit false

namespace SourceIndex

/-! ## Documents in canonical form -/

namespace Json

/-- The value is in canonical form and its numbers are whole. -/
structure Restorable (depth : Nat) (value : Json) : Prop where
  canonical : Canonical depth value
  whole : value.IsWhole

theorem ascending_of_keys {before after : Members} (same : after.map Prod.fst = before.map Prod.fst)
    (ascending : Ascending before) : Ascending after := by
  have keys : (before.map Prod.fst).Pairwise Precedes := List.pairwise_map.2 ascending
  rw [← same] at keys
  exact List.pairwise_map.1 keys

namespace Restorable

variable {depth : Nat} {members : Members} {value : Json}

theorem succ (restorable : Restorable depth value) : Restorable (depth + 1) value :=
  ⟨restorable.canonical.succ, restorable.whole⟩

theorem array_iff {items : List Json} :
    Restorable (depth + 1) (.array items) ↔ ∀ item ∈ items, Restorable depth item := by
  constructor
  · rintro ⟨canonical, whole⟩ item within
    cases canonical with
    | array each => exact ⟨each item within, IsWhole.array_iff.1 whole item within⟩
  · intro each
    exact ⟨.array fun item within => (each item within).canonical,
      IsWhole.array_iff.2 fun item within => (each item within).whole⟩

theorem object_iff :
    Restorable (depth + 1) (.object members) ↔
      Ascending members ∧ ∀ member ∈ members, Restorable depth member.2 := by
  constructor
  · rintro ⟨canonical, whole⟩
    cases canonical with
    | object ascending each =>
      refine ⟨ascending, fun member within => ?_⟩
      exact ⟨each member within, IsWhole.object_iff.1 whole member within⟩
  · rintro ⟨ascending, each⟩
    exact ⟨.object ascending fun member within => (each member within).canonical,
      IsWhole.object_iff.2 fun member within => (each member within).whole⟩

/-- A change of values that keeps them restorable at every depth. -/
def Kept (change : Json → Json) : Prop :=
  ∀ {depth : Nat} {value : Json}, Restorable depth value → Restorable depth (change value)

theorem kept_changeItems {change : Json → Json} (kept : Kept change) :
    Kept (Document.changeItems change) := by
  intro depth value restorable
  cases value with
  | array items =>
    cases depth with
    | zero => exact nomatch restorable.canonical
    | succ inner =>
      refine array_iff.2 fun changed within => ?_
      obtain ⟨item, there, rfl⟩ := List.mem_map.1 within
      exact kept (array_iff.1 restorable item there)
  | _ => exact restorable

theorem changeMember {change : Json → Json} (kept : Kept change) (key : String)
    (restorable : Restorable depth (.object members)) :
    Restorable depth (.object (Document.changeMember key change members)) := by
  cases depth with
  | zero => exact nomatch restorable.canonical
  | succ inner =>
    obtain ⟨ascending, each⟩ := object_iff.1 restorable
    refine object_iff.2 ⟨ascending_of_keys ?_ ascending, fun changed within => ?_⟩
    · rw [Document.changeMember, List.map_map]
      refine List.map_congr_left fun member _ => ?_
      rw [Function.comp_apply]
      split <;> rfl
    · obtain ⟨member, there, rfl⟩ := List.mem_map.1 within
      split
      · exact kept (each member there)
      · exact each member there

theorem kept_dropNested : Kept Document.dropNested := by
  intro depth value restorable
  cases value with
  | object members =>
    cases depth with
    | zero => exact nomatch restorable.canonical
    | succ inner =>
      obtain ⟨ascending, each⟩ := object_iff.1 restorable
      refine object_iff.2 ⟨List.Pairwise.filter _ ascending, fun member within => ?_⟩
      exact each member (List.mem_filter.1 within).1
  | _ => exact restorable

theorem kept_flattenType : Kept Document.flattenType := by
  intro depth value restorable
  cases value with
  | object members => exact changeMember (kept_changeItems kept_dropNested) _ restorable
  | _ => exact restorable

/-- Normalizing a document keeps it restorable. -/
theorem normalize (restorable : Restorable depth (.object members)) :
    Restorable depth (.object (Document.normalize members)) :=
  changeMember (kept_changeItems kept_flattenType) _
    (changeMember kept_flattenType _ restorable)

end Restorable

/-- All numbers in the value that a text spells are whole and fit 64 bits. -/
def SpellsWhole (text : String) : Prop :=
  ∀ value ∈ parse? text, value.IsWhole

instance (text : String) : Decidable (SpellsWhole text) :=
  inferInstanceAs (Decidable (∀ value ∈ parse? text, value.IsWhole))

theorem restorable_of_parse? {text : String} {value : Json} (whole : SpellsWhole text)
    (parsed : parse? text = some value) : Restorable depthLimit value :=
  ⟨canonical_of_parse? parsed, whole value parsed⟩

end Json

/-! ## Documents from answers -/

namespace Extraction

/-- Extraction takes the document from the answer: from one for a file, or from one for the
directory of the file. -/
inductive Accepted (answer : String) : Document → Prop where
  | file {path : String} {document : Document} (read : readAnswer path answer = .ok document) :
    Accepted answer document
  | directory {path : String} {structures : Structures} (entry : String × Document)
      (read : readDirectoryAnswer path answer = .ok structures)
      (within : entry ∈ structures.entries) : Accepted answer entry.2

variable {ε : Type} {team : Collaborators ε} {path : String} {session after : Session ε}

/-- What a file's extraction returns was taken from an answer of the parser. -/
theorem accepted_of_extractFile {document : Document}
    (extracted : extractFile team path session = (.ok document, after)) :
    ∃ answer world, (team.ask .file (Path.key path) world).1 = .text answer ∧
      Accepted answer document := by
  obtain ⟨answer, world, answered, read⟩ := extractFile_eq_ok extracted
  exact ⟨answer, world, answered, .file read⟩

/-- What a directory's extraction returns was taken from an answer of the parser. -/
theorem accepted_of_extractDirectory {structures : Structures}
    (extracted : extractDirectory team path session = (.ok structures, after)) :
    ∃ answer world, (team.ask .directory (Path.key path) world).1 = .text answer ∧
      ∀ entry ∈ structures.entries, Accepted answer entry.2 := by
  obtain ⟨answer, world, answered, read⟩ := extractDirectory_eq_ok extracted
  exact ⟨answer, world, answered, fun entry within => .directory entry read within⟩

theorem restorable_of_documentOf {depth : Nat} {value : Json} {document : Document}
    (restorable : Json.Restorable depth value) (taken : documentOf path value = .ok document) :
    Json.Restorable depth (.object document) := by
  cases value with
  | object members =>
    cases taken
    exact restorable.normalize
  | _ => cases taken

theorem restorable_of_accepted {answer : String} {document : Document}
    (accepted : Accepted answer document) (whole : Json.SpellsWhole answer) :
    Json.Restorable Json.depthLimit (.object document) := by
  cases accepted with
  | file read =>
    unfold readAnswer at read
    split at read
    · cases read
    · next parsed => exact restorable_of_documentOf (Json.restorable_of_parse? whole parsed) read
  | directory entry read within =>
    refine forall_of_readDirectoryAnswer (fun taken => Json.Restorable _ (.object taken))
      (fun members parsed member there path document taken => ?_) read entry within
    unfold Json.parseObject? at parsed
    split at parsed
    · next spelled =>
      cases parsed
      -- The document stands one level below the object that the answer spells.
      have object := Json.restorable_of_parse? whole spelled
      have inner := (Json.Restorable.object_iff.1 object).2 member there
      exact (restorable_of_documentOf inner taken).succ
    · cases parsed

end Extraction

/-! ## Records that are read back -/

theorem FileRecord.readable_attach {answer : String} {document : Document}
    (accepted : Extraction.Accepted answer document) (whole : Json.SpellsWhole answer)
    (file : FileRecord) (text : String) : (file.attach document text).Readable := by
  rintro _ ⟨⟩
  obtain ⟨canonical, whole⟩ := Extraction.restorable_of_accepted accepted whole
  rw [Json.parseObject?, Json.parse?_compact canonical whole]

namespace Connection

variable {connection next : Connection}

/-- A record that carries structure replaces the row that is there, if there is one. -/
theorem find?_of_write {record : FileRecord} (carries : record.keepsStoredStructure = false)
    {write : Write} (one : write ∈ [Write.createFile record, .updateFile record])
    (written : backend.write connection write = .ok next) :
    (storage.holdings next).files.find? record.id = some (FileRow.ofRecord record) := by
  have admitted := storage.write?_of_write written
  rw [Holdings.find?_of_write? admitted record.id]
  simp only [List.mem_cons, List.not_mem_nil, or_false] at one
  rcases one with rfl | rfl
  · rw [Holdings.rowAfter, if_pos rfl]
    rfl
  · obtain ⟨row, found, -⟩ := Option.map_eq_some_iff.1 admitted
    rw [Holdings.rowAfter, if_pos rfl, found, Option.map_some]
    exact congrArg some (show row.updatedBy record = _ by rw [FileRow.updatedBy, carries]; rfl)

theorem getFile_of_write {record : FileRecord} (carries : record.keepsStoredStructure = false)
    (readable : record.Readable) {write : Write}
    (one : write ∈ [Write.createFile record, .updateFile record])
    (written : backend.write connection write = .ok next) :
    backend.getFile next record.id = .ok (some record.unmarked) := by
  have created : next.database.isCreated = true := storage.isOpen_of_write written
  refine (DatabaseIndex.withTables_of_created created _ _ _).trans ?_
  have found : next.database.holdings.files.find? record.id = _ :=
    find?_of_write carries one written
  rw [found]
  exact congrArg (Except.map some) (FileRow.toRecord?_ofRecord readable)

/-- A writable database admits a record: as a new file, or over the file that it knows. -/
theorem exists_write {record : FileRecord} {stored : Bool} (writable : connection.isWritable = true)
    (known : backend.hasFile connection record.id = .ok stored) :
    ∃ next, backend.write connection
      (if stored then .updateFile record else .createFile record) = .ok next := by
  obtain ⟨tables, there, has⟩ := DatabaseIndex.withTables_eq_ok_iff.1 known
  cases has
  have held : storage.holdings connection = ⟨tables.projects, tables.files⟩ := by
    change connection.database.holdings = _
    rw [DatabaseIndex.holdings, there]
  have admitted : ∀ write, (storage.holdings connection).write? write ≠ none →
      ∃ next, backend.write connection write = .ok next := by
    intro write some
    have clear : refusals.obstacle connection write.operation = none :=
      (obstacle_of_writable writable _).trans (DatabaseIndex.obstacle_of_tables there _)
    rcases refusals.write_of_clear clear with ⟨none, -⟩ | ⟨next, -, written⟩
    · exact absurd none some
    · exact ⟨next, written⟩
  refine admitted _ ?_
  rw [held]
  cases has : tables.files.contains record.id with
  | true =>
    rw [if_pos rfl, Holdings.write?, Ne, Option.map_eq_none_iff, ← Ne]
    exact Option.isSome_iff_ne_none.1 has
  | false =>
    rw [if_neg (by decide), Holdings.write?, has]
    exact Option.some_ne_none _

/-- An answer with escapes, characters beyond ASCII, the least and the greatest whole number, a
repeated key and a nested type that lists nested types. -/
def mixedAnswer : String :=
  "\x7b\"class\": \x7b\"name\": \"Gr\\u00f6\u00dfe \\\"\\ud83d\\ude00\\\"\\n\", " ++
  "\"n\": [-9223372036854775808, 18446744073709551615], " ++
  "\"innerclasses\": [\x7b\"innerclasses\": [\x7b\x7d], \"name\": \"\\u0001\"\x7d]\x7d, " ++
  "\"b\": 1, \"a\": [], \"b\": \x7b\x7d\x7d"

/-- The text of its document. -/
def mixedText : String :=
  "\x7b\"a\":[],\"b\":\x7b\x7d,\"class\":\x7b\"innerclasses\":[\x7b\"name\":\"\\u0001\"\x7d]," ++
  "\"n\":[-9223372036854775808,18446744073709551615],\"name\":\"Größe \\\"😀\\\"\\n\"\x7d\x7d"

end Connection

end SourceIndex
