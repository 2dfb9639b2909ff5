import Mathlib.Data.List.Induction
import SourceIndex.Record

/-!
# Variants of a record

A record fresh from a listing is plain. Attaching makes it extracted, and demoting makes it
unextracted, with a mark in front of its extension (`FileRecord.Variant`). Neither looks at what was
done before. So a record that was demoted takes a second mark from a second demotion, and takes
structure and text from an attachment, under which it is neither extracted nor unextracted.

Main statement: of all that is done to a record its extension counts the demotions, its structure
and text tell the last treatment, and it is one of the variants exactly if nothing follows a
demotion (`FileRecord.treatAll_variants`). Whatever was done, a record is marked as demoted exactly
if its extension is not the one that its name has.
-/

set_option autoImplicit false

namespace SourceIndex

/-! ## Treatments -/

/-- What extraction does to a record. -/
inductive Treatment where
  | attach (document : Document) (text : String)
  | demote

namespace Treatment

/-- The treatment is a demotion. -/
def isDemotion : Treatment → Bool
  | .attach _ _ => false
  | .demote => true

theorem isDemotion_iff {treatment : Treatment} :
    treatment.isDemotion = true ↔ treatment = .demote := by
  cases treatment <;> simp [isDemotion]

/-- The structure and text that a record carries after the treatment. -/
def content? : Treatment → Option (Document × String)
  | .attach document text => some (document, text)
  | .demote => none

end Treatment

namespace FileRecord

/-- Treats a record. -/
def treat (file : FileRecord) : Treatment → FileRecord
  | .attach document text => file.attach document text
  | .demote => file.demote

/-- Treats a record several times. -/
def treatAll (file : FileRecord) (treatments : List Treatment) : FileRecord :=
  treatments.foldl treat file

/-! ## Variants -/

/-- The variants that records come in. -/
inductive Variant where
  /-- Neither extracted nor demoted. -/
  | plain
  /-- With structure and text. -/
  | extracted
  /-- Demoted, with neither. -/
  | unextracted

/-- The record is of a variant. -/
def IsVariant (file : FileRecord) : Variant → Prop
  | .plain => file.extension = extensionOf file.name ∧ file.document = none ∧
      file.rawContent = none ∧ file.demoted = false
  | .extracted => file.extension = extensionOf file.name ∧ file.document.isSome = true ∧
      file.rawContent.isSome = true ∧ file.demoted = false
  | .unextracted => file.extension = "l" ++ extensionOf file.name ∧ file.document = none ∧
      file.rawContent = none ∧ file.demoted = true

/-- The variant that the last treatment is meant to leave; without one a record is plain. -/
def Variant.after : Option Treatment → Variant
  | none => .plain
  | some (.attach _ _) => .extracted
  | some .demote => .unextracted

/-- With structure and text attached a record is extracted, if it was not demoted and its extension
is the one that its name has; else it is of no variant. -/
theorem isVariant_attach_iff {file : FileRecord} {document : Document} {text : String}
    {variant : Variant} :
    (file.attach document text).IsVariant variant ↔
      (file.extension = extensionOf file.name ∧ file.demoted = false) ∧ variant = .extracted := by
  cases variant <;> simp [attach, IsVariant]

/-- A record that is demoted is unextracted, if its extension was the one that its name has; else it
is of no variant. -/
theorem isVariant_demote_iff {file : FileRecord} {variant : Variant} :
    file.demote.IsVariant variant ↔
      file.extension = extensionOf file.name ∧ variant = .unextracted := by
  cases variant <;> simp [demote, IsVariant, unextractedMark, String.ext_iff]

/-! ## Runs of treatments -/

section Runs

variable (file : FileRecord) (treatments : List Treatment)

theorem treatAll_concat (last : Treatment) :
    file.treatAll (treatments ++ [last]) = (file.treatAll treatments).treat last :=
  List.foldl_append

theorem name_treatAll : (file.treatAll treatments).name = file.name := by
  induction treatments using List.reverseRecOn with
  | nil => rfl
  | append_singleton earlier last ih =>
    rw [treatAll_concat, ← ih]
    cases last <;> rfl

/-- A record is demoted if it was before or has been since. -/
theorem demoted_treatAll_iff :
    (file.treatAll treatments).demoted = true ↔ file.demoted = true ∨ .demote ∈ treatments := by
  induction treatments using List.reverseRecOn with
  | nil => simp [treatAll]
  | append_singleton earlier last ih =>
    rw [treatAll_concat, List.mem_append, ← or_assoc, ← ih]
    cases last <;> simp [treat, attach, demote]

/-- Every demotion puts a mark in front of the extension. -/
theorem extension_treatAll :
    (file.treatAll treatments).extension.toList =
      List.replicate (treatments.countP Treatment.isDemotion) 'l' ++ file.extension.toList := by
  induction treatments using List.reverseRecOn with
  | nil => rfl
  | append_singleton earlier last ih =>
    rw [treatAll_concat, List.countP_append, List.countP_singleton]
    cases last with
    | attach document text => exact ih
    | demote =>
      have marked : ((file.treatAll earlier).treat .demote).extension.toList =
          'l' :: (file.treatAll earlier).extension.toList := String.toList_append
      rw [marked, ih]
      rfl

/-- The extension stays exactly if nothing is a demotion. -/
theorem extension_treatAll_eq_iff :
    (file.treatAll treatments).extension = file.extension ↔ .demote ∉ treatments := by
  rw [← String.toList_inj, extension_treatAll, List.append_left_eq_self, List.replicate_eq_nil_iff,
    List.countP_eq_zero]
  simp only [Treatment.isDemotion_iff]
  exact ⟨fun none member => none _ member rfl, fun none _ member same => none (same ▸ member)⟩

end Runs

section Plain

variable {file : FileRecord} (plain : file.IsVariant .plain) (treatments : List Treatment)
include plain

/-- The last treatment of a plain record tells what it carries. -/
theorem content_treatAll :
    (file.treatAll treatments).document =
        (treatments.getLast?.bind Treatment.content?).map Prod.fst ∧
      (file.treatAll treatments).rawContent =
        (treatments.getLast?.bind Treatment.content?).map Prod.snd := by
  cases treatments using List.reverseRecOn with
  | nil => exact ⟨plain.2.1, plain.2.2.1⟩
  | append_singleton earlier last =>
    rw [treatAll_concat, List.getLast?_concat]
    cases last <;> exact ⟨rfl, rfl⟩

/-- A plain record keeps the extension of its name exactly if nothing is a demotion. -/
theorem extension_treatAll_iff :
    (file.treatAll treatments).extension = extensionOf (file.treatAll treatments).name ↔
      .demote ∉ treatments := by
  rw [name_treatAll, ← plain.1, extension_treatAll_eq_iff]

theorem marked_treatAll_iff :
    (file.treatAll treatments).demoted = true ↔ .demote ∈ treatments := by
  rw [demoted_treatAll_iff, plain.2.2.2]
  exact or_iff_right Bool.false_ne_true

/-- A plain record stays one of the variants exactly if nothing follows a demotion, and then the
last treatment tells which. -/
theorem isVariant_treatAll_iff {variant : Variant} :
    (file.treatAll treatments).IsVariant variant ↔
      .demote ∉ treatments.dropLast ∧ variant = .after treatments.getLast? := by
  cases treatments using List.reverseRecOn with
  | nil =>
    cases variant with
    | plain => exact iff_of_true plain ⟨List.not_mem_nil, rfl⟩
    | extracted => simp [treatAll, IsVariant, Variant.after, plain.2.1]
    | unextracted => simp [treatAll, IsVariant, Variant.after, plain.2.2.2]
  | append_singleton earlier last =>
    have extension := extension_treatAll_iff plain earlier
    rw [treatAll_concat, List.dropLast_concat, List.getLast?_concat]
    cases last with
    | attach document text =>
      refine isVariant_attach_iff.trans ?_
      rw [extension, ← Bool.not_eq_true, marked_treatAll_iff plain, and_self]
      rfl
    | demote =>
      refine isVariant_demote_iff.trans ?_
      rw [extension]
      rfl

end Plain

/-! ## Records fresh from a listing -/

theorem isVariant_ofRemote (projectId : String) (remote : RemoteFile) :
    (ofRemote projectId remote).IsVariant .plain :=
  ⟨by dsimp only [ofRemote], rfl, rfl, rfl⟩

/-- **What becomes of a record.** Whatever is done to a record fresh from a listing, its extension
has a mark for every demotion, the last treatment tells its structure and text, and it is marked as
demoted exactly if its extension is not the one that its name has. It is of one of the variants
exactly if nothing follows a demotion, and then the last treatment tells which. A demotion of a
record that was demoted puts another mark in front of its extension and does nothing else. -/
theorem treatAll_variants (projectId : String) (remote : RemoteFile)
    (treatments : List Treatment) :
    let file := (ofRemote projectId remote).treatAll treatments
    (∀ variant, file.IsVariant variant ↔
        .demote ∉ treatments.dropLast ∧ variant = .after treatments.getLast?) ∧
      file.name = nameOf remote.path ∧
      file.extension.toList =
        List.replicate (treatments.countP Treatment.isDemotion) 'l' ++
          (extensionOf file.name).toList ∧
      file.document = (treatments.getLast?.bind Treatment.content?).map Prod.fst ∧
      file.rawContent = (treatments.getLast?.bind Treatment.content?).map Prod.snd ∧
      (file.demoted = true ↔ .demote ∈ treatments) ∧
      (file.demoted = true ↔ file.extension ≠ extensionOf file.name) ∧
      file.demote.demote = { file.demote with extension := "l" ++ file.demote.extension } := by
  intro file
  have plain := isVariant_ofRemote projectId remote
  obtain ⟨structured, texted⟩ := content_treatAll plain treatments
  have demoted := marked_treatAll_iff plain treatments
  have extension := extension_treatAll_iff plain treatments
  refine ⟨fun _ => isVariant_treatAll_iff plain treatments, name_treatAll _ _, ?_, structured,
    texted, demoted, ?_, rfl⟩
  · rw [name_treatAll, ← plain.1]
    exact extension_treatAll _ treatments
  · rw [demoted, ne_eq, extension, not_not]

/-- A record that is demoted twice has two marks, and with structure attached it is a demoted record
of none of the variants. -/
theorem treatAll_demoted :
    let fresh := ofRemote "octo/demo" ⟨"A.java", "1", "100644", "blob", ""⟩
    let attached := fresh.treatAll [.demote, .demote, .attach [] "class A \x7b\x7d"]
    (fresh.treatAll [.demote]).extension = "ljava" ∧
      (fresh.treatAll [.demote, .demote]).extension = "lljava" ∧
      attached.demoted = true ∧ attached.hasStructure = true ∧
      ∀ variant, ¬attached.IsVariant variant := by
  intro fresh attached
  refine ⟨by decide, by decide, rfl, rfl, fun variant isVariant => ?_⟩
  have nothingLater := ((isVariant_treatAll_iff (isVariant_ofRemote _ _) _).1 isVariant).1
  exact nothingLater (by simp)

end FileRecord

end SourceIndex
