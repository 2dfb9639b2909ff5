import Mathlib.Data.List.TakeWhile
import SourceIndex.Proofs.Sync.Production

/-!
# The shape of records

The id and the name of a record follow from its project and its path. What else there is to its
shape depends on the policy under which it was extracted, and is one of three forms (`Form`): a
source file with structure and text, a source file without them whose extension is marked, and any
other file, which has neither (`FileRecord.Shaped`). Extraction makes records of this shape
(`shaped_of_enriched`).

An update may leave the stored structure in place, so one has to know what was stored. Under the
same policy only a record of the third form does this, and it is stored over one of the third form,
because the id of a file determines its name. So the record is stored as it is (`storedOver_eq`).

Main statement: after any calls under one policy, from an empty index and whatever the parties do,
every row is that of a record with this shape (`runCalls_shaped`).
-/

set_option autoImplicit false

namespace SourceIndex

open Rehearsal

/-! ## Names and extensions -/

namespace Text

/-- The part of a text after the last occurrence of a mark, or the whole text without one. -/
def IsAfterLast (mark : Char) (whole part : String) : Prop :=
  mark ∉ part.toList ∧ (whole = part ∨ ∃ front, whole.toList = front ++ mark :: part.toList)

variable {mark : Char}

theorem notMem_afterLast (text : List Char) : mark ∉ afterLast mark text := by
  intro member
  rw [afterLast, List.mem_reverse] at member
  simpa using List.mem_takeWhile_imp member

theorem afterLast_of_notMem {text : List Char} (clean : mark ∉ text) :
    afterLast mark text = text := by
  have whole : text.reverse.takeWhile (· != mark) = text.reverse := by
    rw [List.takeWhile_eq_self_iff]
    intro character member
    simpa using fun same : character = mark => clean (same ▸ List.mem_reverse.1 member)
  rw [afterLast, whole, List.reverse_reverse]

theorem afterLast_append {part : List Char} (clean : mark ∉ part) (front : List Char) :
    afterLast mark (front ++ mark :: part) = part := by
  have backward : (front ++ mark :: part).reverse = part.reverse ++ mark :: front.reverse := by
    simp
  have kept : ∀ character ∈ part.reverse, (character != mark) = true := by
    intro character member
    simpa using fun same : character = mark => clean (same ▸ List.mem_reverse.1 member)
  rw [afterLast, backward, List.takeWhile_append_of_pos kept, List.takeWhile_cons_of_neg (by simp),
    List.append_nil, List.reverse_reverse]

theorem exists_append_afterLast {text : List Char} (marked : mark ∈ text) :
    ∃ front, text = front ++ mark :: afterLast mark text := by
  obtain ⟨backward, rest, cut, clean⟩ := List.eq_append_cons_of_mem (List.mem_reverse.2 marked)
  have whole : text = rest.reverse ++ mark :: backward.reverse := by
    rw [← List.reverse_reverse text, cut]
    simp
  have last : afterLast mark text = backward.reverse := by
    rw [whole, afterLast_append (mt List.mem_reverse.1 clean)]
  exact ⟨rest.reverse, by rw [last, ← whole]⟩

theorem isAfterLast_iff {whole part : String} :
    IsAfterLast mark whole part ↔ onString (afterLast mark) whole = part := by
  constructor
  · rintro ⟨clean, rfl | ⟨front, cut⟩⟩
    · rw [onString, afterLast_of_notMem clean, String.ofList_toList]
    · rw [onString, cut, afterLast_append clean, String.ofList_toList]
  · rintro rfl
    rw [IsAfterLast, onString, String.toList_ofList]
    refine ⟨notMem_afterLast whole.toList, ?_⟩
    by_cases marked : mark ∈ whole.toList
    · exact .inr (exists_append_afterLast marked)
    · exact .inl (by rw [afterLast_of_notMem marked, String.ofList_toList])

end Text

namespace FileRecord

/-- The part of a name after its last point, which is empty if it has none. -/
def HasExtension (name extension : String) : Prop :=
  ('.' ∈ name.toList → Text.IsAfterLast '.' name extension) ∧
    ('.' ∉ name.toList → extension = "")

theorem hasExtension_iff {name extension : String} :
    HasExtension name extension ↔ extensionOf name = extension := by
  rw [HasExtension, extensionOf]
  by_cases pointed : '.' ∈ name.toList
  · simp [pointed, Text.isAfterLast_iff]
  · simp [pointed, eq_comm]

variable (projectId : String) (remote : RemoteFile)

theorem isAfterLast_name_ofRemote :
    Text.IsAfterLast '/' (ofRemote projectId remote).path (ofRemote projectId remote).name := by
  dsimp only [ofRemote]
  rw [Text.isAfterLast_iff, nameOf]

theorem hasExtension_ofRemote :
    HasExtension (ofRemote projectId remote).name (ofRemote projectId remote).extension := by
  dsimp only [ofRemote]
  rw [hasExtension_iff]

end FileRecord

/-! ## Forms of records -/

/-- The forms that a record may have. -/
inductive Form where
  /-- A source file with structure and text. -/
  | extracted
  /-- A source file without them. -/
  | unextracted
  /-- A file that is no source file. -/
  | other

namespace FileRecord

/-- The record has a form, by the policy and by the extension that the file's name has. -/
def Takes (policy : Policy) (extension : String) (file : FileRecord) : Form → Prop
  | .extracted => extension ∈ policy.extensions ∧ Utf8.size file.name ≤ policy.maxNameLength ∧
      file.extension = extension ∧
      (∃ document, file.document = some document ∧ document.IsNormal) ∧
      ∃ text, file.rawContent = some text ∧ ∀ character ∈ text.toList, character.toNat < 128
  | .unextracted => extension ∈ policy.extensions ∧ file.extension = "l" ++ extension ∧
      file.document = none ∧ file.rawContent = none
  | .other => extension ∉ policy.extensions ∧ file.extension = extension ∧
      file.document = none ∧ file.rawContent = none

/-- The shape of a record under a policy. -/
structure Shaped (policy : Policy) (file : FileRecord) : Prop where
  id : file.id = file.projectId ++ "/" ++ file.path
  name : Text.IsAfterLast '/' file.path file.name
  form : ∃ extension, HasExtension file.name extension ∧ ∃! form, file.Takes policy extension form

variable {policy : Policy} {extension : String} {file : FileRecord}

/-- The only form that the record may have. -/
def formOf (policy : Policy) (extension : String) (file : FileRecord) : Form :=
  if extension ∈ policy.extensions then
    if file.hasStructure then .extracted else .unextracted
  else .other

/-- A record has no two forms. -/
theorem Takes.eq_formOf {form : Form} (takes : file.Takes policy extension form) :
    form = file.formOf policy extension := by
  cases form with
  | extracted =>
    obtain ⟨source, -, -, ⟨document, carried, -⟩, -⟩ := takes
    rw [formOf, if_pos source, hasStructure, carried]
    rfl
  | unextracted =>
    obtain ⟨source, -, bare, -⟩ := takes
    rw [formOf, if_pos source, hasStructure, bare]
    rfl
  | other => exact (if_neg takes.1).symm

namespace Shaped

variable (shaped : file.Shaped policy)
include shaped

theorem takes : ∃ form, file.Takes policy (extensionOf file.name) form := by
  obtain ⟨extension, after, form, takes, -⟩ := shaped.form
  rw [hasExtension_iff] at after
  exact ⟨form, after ▸ takes⟩

/-- A record of a file that is no source file carries nothing. -/
theorem bare_of_other (other : extensionOf file.name ∉ policy.extensions) :
    file.document = none ∧ file.rawContent = none := by
  obtain ⟨form, takes⟩ := shaped.takes
  cases form with
  | extracted => exact absurd takes.1 other
  | unextracted => exact absurd takes.1 other
  | other => exact takes.2.2

/-- A record of a file with a name over the bound carries nothing. -/
theorem bare_of_long (long : policy.maxNameLength < Utf8.size file.name) :
    file.document = none ∧ file.rawContent = none := by
  obtain ⟨form, takes⟩ := shaped.takes
  cases form with
  | extracted => exact absurd takes.2.1 (Nat.not_le.2 long)
  | unextracted => exact takes.2.2
  | other => exact takes.2.2

end Shaped

/-! ## Records that were extracted -/

/-- Extraction gives a bare record one of the forms. -/
theorem takes_of_enriched {source : FileRecord} (bare : source.document = none)
    (textless : source.rawContent = none)
    (enriched : Enriched policy Document.IsNormal source file) :
    ∃ form, file.Takes policy source.extension form := by
  cases enriched with
  | plain other =>
    refine ⟨.other, fun member => ?_, rfl, bare, textless⟩
    rw [Policy.isSource_iff.2 member] at other
    cases other
  | attached counted short fit ascii =>
    refine ⟨.extracted, Policy.isSource_iff.1 counted, short, rfl, ⟨_, rfl, fit⟩, _, rfl, ?_⟩
    intro character member
    exact of_decide_eq_true (List.all_eq_true.1 ascii character member)
  | demoted counted => exact ⟨.unextracted, Policy.isSource_iff.1 counted, rfl, rfl, rfl⟩

/-- What extraction makes of a listed file's record has the shape. -/
theorem shaped_of_enriched {projectId : String} {remote : RemoteFile}
    (enriched : Enriched policy Document.IsNormal (ofRemote projectId remote) file) :
    file.Shaped policy := by
  have dressed := enriched.dressed
  obtain ⟨form, takes⟩ := takes_of_enriched rfl rfl enriched
  refine ⟨?_, ?_, (ofRemote projectId remote).extension, ?_, form, takes, fun _ alike => ?_⟩
  · rw [dressed.id, dressed.projectId, dressed.path]
    rfl
  · rw [dressed.path, dressed.name]
    exact isAfterLast_name_ofRemote projectId remote
  · rw [dressed.name]
    exact hasExtension_ofRemote projectId remote
  · exact alike.eq_formOf.trans takes.eq_formOf.symm

/-- A record that carries nothing is stored as it is over one that carries nothing. -/
theorem storedOver_of_bare {stored : FileRecord} (bare : file.document = none)
    (textless : file.rawContent = none) (storedBare : stored.document = none)
    (storedTextless : stored.rawContent = none) : file.storedOver stored = file := by
  rw [storedOver]
  split
  · rw [storedBare, storedTextless]
    cases file
    cases bare
    cases textless
    rfl
  · rfl

/-- **An update under the same policy stores the record as it is.** -/
theorem storedOver_eq {projectId : String} {remote : RemoteFile} {stored : FileRecord}
    (shaped : stored.Shaped policy) (filed : Address.IsProjectId stored.projectId)
    (named : Address.IsProjectId projectId)
    (enriched : Enriched policy Document.IsNormal (ofRemote projectId remote) file)
    (same : stored.id = file.id) : file.storedOver stored = file := by
  cases enriched with
  | attached counted short fit ascii => rfl
  | demoted counted => rfl
  | plain other =>
    -- The stored record is that of the same file, which is no source file.
    have path : stored.path = remote.path :=
      (filed.idOf_inj named (shaped.id.symm.trans same)).2
    have name : stored.name = nameOf remote.path := by
      rw [← path]
      exact (Text.isAfterLast_iff.1 shaped.name).symm
    have uncounted : extensionOf stored.name ∉ policy.extensions := by
      intro member
      rw [name, ← extension_ofRemote projectId] at member
      rw [Policy.isSource_iff.2 member] at other
      cases other
    obtain ⟨bare, textless⟩ := shaped.bare_of_other uncounted
    exact storedOver_of_bare rfl rfl bare textless

end FileRecord

/-! ## Calls under one policy -/

/-- If the call extracts, it does so under the policy. -/
def Call.Follows (policy : Policy) (call : Call) : Prop :=
  ∀ own, call.policy? = some own → own = policy

/-- Every record has the shape and is filed under the id of a project. -/
def Holdings.Shaped (policy : Policy) (records : Holdings FileRecord) : Prop :=
  ∀ file ∈ records.files.entries, file.Shaped policy ∧ Address.IsProjectId file.projectId

namespace Sync

variable {ε ι ρ : Type} [Row ρ] {team : Collaborators ε} {backend : Backend ι} {policy : Policy}

/-- What a call writes keeps the shape of the records. -/
theorem shaped_of_written {call : Call} {run : Run ε ι} {writes : List Write}
    {records after : Holdings FileRecord} (shaped : records.Shaped policy)
    (follows : call.Follows policy)
    (wrote : writes.filterMap Write.file? = call.written team backend run)
    (replayed : Holdings.replay writes records = some after) : after.Shaped policy := by
  have enriched : ∀ write ∈ writes, ∀ file, write.file? = some file →
      ∃ projectId remote, Address.IsProjectId projectId ∧
        Enriched policy Document.IsNormal (FileRecord.ofRemote projectId remote) file := by
    intro write member file left
    have written : file ∈ call.written team backend run :=
      wrote ▸ List.mem_filterMap.2 ⟨write, member, left⟩
    obtain ⟨own, projectId, remote, mine, named, made⟩ := (extracts_of_written written).enriched
    cases follows own mine
    exact ⟨projectId, remote, named, made⟩
  have fresh : ∀ write ∈ writes, ∀ file, write.file? = some file →
      file.Shaped policy ∧ Address.IsProjectId file.projectId := by
    intro write member file left
    obtain ⟨projectId, remote, named, made⟩ := enriched write member file left
    refine ⟨FileRecord.shaped_of_enriched made, ?_⟩
    rw [show file.projectId = projectId from made.dressed.projectId]
    exact named
  refine Holdings.forall_of_replay shaped (fun file created => fresh _ created file rfl)
    (fun file updated stored old same => ?_) replayed
  obtain ⟨projectId, remote, named, made⟩ := enriched _ updated file rfl
  rw [show Row.updatedBy stored file = file from
    FileRecord.storedOver_eq old.1 old.2 named made same]
  exact fresh _ updated file rfl

/-- **The shape of every record.** After any calls under one policy, from an empty index and
whatever the parties do, every row is that of a record with the shape. A record whose name is over
the bound carries neither structure nor text. -/
theorem runCalls_shaped [Row.Faithful ρ] (storage : Storage backend ρ) (team : Collaborators ε)
    (policy : Policy) (start : Run ε ι) (empty : storage.holdings start.index = Holdings.empty)
    (calls : List Call) (follow : ∀ call ∈ calls, call.Follows policy) :
    ∀ row ∈ (storage.holdings (runCalls team backend calls start).index).files.entries,
      ∃ file : FileRecord, row = Row.ofRecord file ∧ file.Shaped policy ∧
        (policy.maxNameLength < Utf8.size file.name →
          file.document = none ∧ file.rawContent = none) := by
  have nothing : Holdings.empty.Shaped policy := fun file member => by cases member
  obtain ⟨records, stored, shaped⟩ := records_runCalls storage team empty
    (motive := fun calls records => (∀ call ∈ calls, call.Follows policy) → records.Shaped policy)
    (fun _ => nothing) (fun earlier call records writes after shaped wrote replayed follow =>
      shaped_of_written (shaped fun other member => follow other (by simp [member]))
        (follow call (by simp)) wrote replayed) calls
  intro row member
  rw [stored] at member
  obtain ⟨file, within, rfl⟩ := List.mem_map.1 member
  have whole := (shaped follow file within).1
  exact ⟨file, rfl, whole, whole.bare_of_long⟩

/-- The start of a first import of a source file that the parser knows, of one that it does not know
and of another file. -/
def threeFiles : Run Stage MemoryIndex :=
  Scene.opening [Scene.entry "A.java" "1", Scene.entry "B.java" "1", Scene.entry "C.txt" "1"]
    [⟨.directory, "/w/o/p", [.text "\x7b\"/w/o/p/A.java\":\x7b\x7d\x7d"]⟩] [] MemoryIndex.empty

/-- The records that this import leaves. -/
def threeForms : List FileRecord :=
  (MemoryIndex.storage.holdings (runCalls Stage.team MemoryIndex.backend [.sync Scene.setup "o/p"]
    threeFiles).index).files.entries

/-- Each of the three forms is taken. -/
theorem runCalls_shaped_threeForms :
    threeForms.map (fun file => (file.id, file.extension, file.hasStructure)) =
        [("o/p/A.java", "java", true), ("o/p/B.java", "ljava", false),
          ("o/p/C.txt", "txt", false)] ∧
      ∀ file ∈ threeForms, file.Shaped Policy.standard := by
  refine ⟨by decide +kernel, fun row member => ?_⟩
  have follow : ∀ call ∈ [Call.sync Scene.setup "o/p"], call.Follows Policy.standard := by
    simp [Call.Follows, Call.policy?, Scene.setup]
  obtain ⟨file, same, shaped, -⟩ := runCalls_shaped MemoryIndex.storage Stage.team Policy.standard
    threeFiles rfl [.sync Scene.setup "o/p"] follow row member
  rw [show row = file from same]
  exact shaped

end Sync

end SourceIndex
