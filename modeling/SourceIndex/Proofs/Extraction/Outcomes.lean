import SourceIndex.Command.Run
import SourceIndex.Proofs.Extraction
import SourceIndex.Proofs.Parser.Lifecycle

/-!
# What becomes of a record fresh from a listing

A record fresh from a listing carries neither structure nor text and was not demoted, so that what
it carries afterwards tells what became of it.

Main statement: it is left alone, documented or demoted, and exactly one of these, or the parser
broke down and the record stays as it was (`Extraction.enrich_outcome`). A parser may refuse a file
for the characters of its path. The parser behind a channel does that only where a message cannot
carry the path (`Machine.refusesForeign_team`).
-/

set_option autoImplicit false

namespace SourceIndex

/-- The parser of a machine refuses nothing that a message can carry. -/
theorem Machine.refusesForeign_team {σ ψ : Type} (machine : Machine σ ψ) (settings : Settings) :
    (machine.team settings).RefusesForeign := by
  intro kind payload link refused
  rcases ended : Channel.request machine.workers kind payload link with ⟨error | answer, after⟩
  · simp only [Machine.team, ended] at refused
    cases refused
    exact Channel.isAscii_of_nonAscii ended
  · simp only [Machine.team, ended] at refused
    cases refused

namespace Extraction

variable {ε : Type} {team : Collaborators ε} {policy : Policy} {batch : Option Structures}
variable {path : String} {before after : Session ε}

/-! ## Records fresh from a listing -/

/-- The two records are of the same file, with the same description. -/
structure SameFile (left right : FileRecord) : Prop where
  id : left.id = right.id
  projectId : left.projectId = right.projectId
  path : left.path = right.path
  name : left.name = right.name
  sha : left.sha = right.sha
  mode : left.mode = right.mode
  kind : left.kind = right.kind
  url : left.url = right.url

/-- Exactly one of three statements holds. -/
def ExactlyOne (first second third : Prop) : Prop :=
  first ∧ ¬second ∧ ¬third ∨ ¬first ∧ second ∧ ¬third ∨ ¬first ∧ ¬second ∧ third

section Fresh

variable {file enriched : FileRecord}

/-- The record has neither structure nor text, and it was not demoted. -/
def IsFresh (file : FileRecord) : Prop :=
  file.document = none ∧ file.rawContent = none ∧ file.demoted = false

theorem isFresh_ofRemote (projectId : String) (remote : RemoteFile) :
    IsFresh (FileRecord.ofRemote projectId remote) :=
  ⟨rfl, rfl, rfl⟩

theorem LeftAlone.marks (alone : LeftAlone policy before file enriched after)
    (fresh : IsFresh file) :
    enriched.document = none ∧ enriched.rawContent = none ∧ enriched.demoted = false :=
  alone.same ▸ fresh

theorem Documented.marks
    (documented : Documented team policy batch path before file enriched after)
    (fresh : IsFresh file) :
    enriched.document.isSome = true ∧ enriched.rawContent.isSome = true ∧
      enriched.demoted = false := by
  cases documented with
  | intro eligible found content => exact ⟨rfl, rfl, fresh.2.2⟩

/-- A fresh record is left alone, documented or demoted, and what it carries tells which. -/
theorem exactlyOne (fresh : IsFresh file)
    (become : LeftAlone policy before file enriched after ∨
      Documented team policy batch path before file enriched after ∨
        Demoted team policy batch path before file enriched after) :
    ExactlyOne (LeftAlone policy before file enriched after)
      (Documented team policy batch path before file enriched after)
      (Demoted team policy batch path before file enriched after) := by
  have undocumented : LeftAlone policy before file enriched after →
      ¬Documented team policy batch path before file enriched after := by
    intro alone documented
    have carried := (documented.marks fresh).1
    rw [(alone.marks fresh).1] at carried
    cases carried
  have unmarked : enriched.demoted = false →
      ¬Demoted team policy batch path before file enriched after := by
    intro unmarked demoted
    rw [demoted.same] at unmarked
    cases unmarked
  rcases become with alone | documented | demoted
  · exact .inl ⟨alone, undocumented alone, unmarked (alone.marks fresh).2.2⟩
  · exact .inr (.inl ⟨fun alone => undocumented alone documented, documented,
      unmarked (documented.marks fresh).2.2⟩)
  · exact .inr (.inr ⟨fun alone => unmarked (alone.marks fresh).2.2 demoted,
      fun documented => unmarked (documented.marks fresh).2.2 demoted, demoted⟩)

end Fresh

/-- **What extraction makes of a record that is fresh from a listing.** It is left alone, documented
or demoted, and exactly one of these. It stays the record of the same file, and it has structure
exactly if it has text. Or the parser broke down at a request for this very file, or the task died
with it; then the record stays as it was, as the first of those not prepared. -/
theorem enrich_outcome (team : Collaborators ε) (policy : Policy) (batch : Option Structures)
    (path projectId : String) (remote : RemoteFile) (before : Session ε) :
    let file := FileRecord.ofRemote projectId remote
    (∃ enriched after, enrich team policy batch path file before = (.ok enriched, after) ∧
        ExactlyOne (LeftAlone policy before file enriched after)
          (Documented team policy batch path before file enriched after)
          (Demoted team policy batch path before file enriched after) ∧
        SameFile enriched file ∧
        (enriched.document.isSome = true ↔ enriched.rawContent.isSome = true)) ∨
      ∃ halt after, enrich team policy batch path file before = (.error halt, after) ∧
        Halted team policy batch path before file halt after ∧
        Plan.prepareFiles (enrich team policy batch path) [file] before =
          (([file], some halt), after) := by
  intro file
  have fresh : IsFresh file := isFresh_ofRemote projectId remote
  rcases enrich_cases team policy batch path file before with
    ⟨enriched, after, ended, become⟩ | ⟨halt, after, ended, halted⟩
  · refine .inl ⟨enriched, after, ended, exactlyOne fresh become, ?_, ?_⟩
    · cases enrich_dressed ended <;> exact ⟨rfl, rfl, rfl, rfl, rfl, rfl, rfl, rfl⟩
    · rcases become with alone | documented | demoted
      · rw [(alone.marks fresh).1, (alone.marks fresh).2.1]
        exact ⟨nofun, nofun⟩
      · exact ⟨fun _ => (documented.marks fresh).2.1, fun _ => (documented.marks fresh).1⟩
      · rw [demoted.same]
        exact ⟨nofun, nofun⟩
  · exact .inr ⟨halt, after, ended, halted, Plan.prepareFiles_cons_of_error ended []⟩

end Extraction

end SourceIndex
