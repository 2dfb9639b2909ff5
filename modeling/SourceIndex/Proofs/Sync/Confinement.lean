import SourceIndex.Proofs.Sync.Visits
import SourceIndex.Proofs.Sync.WorkingCopies
import SourceIndex.Rehearsal.Scene

/-!
# Syncs that stay in the working copy

A sync joins the paths in the listing to the working copy, and so asks about and reads what lies in
the working copy, as long as these paths are relative and never lead above where they start
(`Path.IsInner`). A listed file with another path is the only one that the sync can look for
elsewhere, and whatever text a record is given was read at the path of that record
(`Sync.syncProject_confined`).

Nothing keeps a listing from having other paths. The text of a file elsewhere is then stored
(`Sync.syncProject_readsOutside`).
-/

set_option autoImplicit false

namespace SourceIndex

open Fallible

variable {ε ι : Type}

/-- Whatever the act asks about or reads lies in the directory, which is asked about under its
spelling for the parser. -/
structure Act.StaysWithin (current directory : String) (act : Act) : Prop where
  asks : ∀ kind payload, act = .asked kind payload →
    Path.Within current (Path.key directory) payload
  reads : ∀ path, act = .read path → Path.Within current directory path

/-- The act asks about the file at a path in the directory, or reads it. -/
def Act.Concerns (directory path : String) (act : Act) : Prop :=
  act = .asked .file (Path.key (Path.join directory path)) ∨ act = .read (Path.join directory path)

/-- What visits listed files in a directory stays within it, unless it concerns one whose path leads
out. -/
theorem Act.Visits.staysWithin {directory : String} {listing : List RemoteFile} {act : Act}
    (visits : act.Visits directory listing) (named : directory ≠ "") (current : String) :
    act.StaysWithin current directory ∨
      ∃ remote ∈ listing, ¬Path.IsInner remote.path ∧ act.Concerns directory remote.path := by
  cases visits with
  | asksDirectory =>
    refine .inl ⟨?_, by rintro path ⟨⟩⟩
    rintro _ _ ⟨⟩
    exact Path.Within.refl current _
  | @asksFile remote listed =>
    by_cases inner : Path.IsInner remote.path
    · refine .inl ⟨?_, by rintro path ⟨⟩⟩
      rintro _ _ ⟨⟩
      exact inner.within_key_join current named
    · exact .inr ⟨remote, listed, inner, .inl rfl⟩
  | @reads remote listed =>
    by_cases inner : Path.IsInner remote.path
    · refine .inl ⟨by rintro kind payload ⟨⟩, ?_⟩
      rintro _ ⟨⟩
      exact inner.within_join current
    · exact .inr ⟨remote, listed, inner, .inr rfl⟩
  | elsewhere unasked unread =>
    refine .inl ⟨?_, ?_⟩
    · rintro kind payload rfl
      cases unasked
    · rintro path rfl
      cases unread

theorem Setup.localPath_ne_empty (setup : Setup) {address id : String}
    (spelled : Address.projectId? address = some id) : setup.localPath id ≠ "" := by
  obtain ⟨owner, name, ⟨ofOwner, -⟩, ⟨ofName, filled⟩, parts⟩ := Address.parts_of_projectId? spelled
  rw [setup.localPath_eq ofOwner ofName parts]
  refine Path.join_ne_empty fun empty => filled ?_
  rw [← String.toList_ofList (l := name), empty, String.toList_empty]

/-! ## Where texts come from -/

/-- In a world that answers of the parties lead to, the text is what is read at a path. -/
def Collaborators.Gives (team : Collaborators ε) (world : ε) (path text : String) : Prop :=
  ∃ later bytes, Relation.ReflTransGen team.Turn world later ∧
    team.read path later = .ok bytes ∧ text = Utf8.asciiPart bytes

variable {team : Collaborators ε} {before after : Session ε}

/-- A text that was read between two sessions was read in a world between theirs, and the reading is
in the trace. -/
theorem Session.Reaches.gives {path text : String}
    (read : EndedBetween (Session.Reaches team) (Extraction.readSource team path) before after
      (.ok text)) :
    team.Gives before.world path text ∧
      ∃ acts, after.trace = before.trace ++ acts ∧ Act.read path ∈ acts := by
  obtain ⟨start, finish, ⟨led, acts, extended, -⟩, done, -, others, further, -⟩ := read
  have given : (team.read path start.world).map Utf8.asciiPart = .ok text := by
    have same := congrArg Prod.fst done
    exact Except.ok.inj same
  obtain ⟨bytes, there, same⟩ := map_eq_ok_iff.1 given
  have noted : finish = start.record (.read path) := (congrArg Prod.snd done).symm
  refine ⟨⟨start.world, bytes, led, there, same.symm⟩, acts ++ [.read path] ++ others, ?_, by simp⟩
  rw [further, noted, Session.record, extended]
  simp only [List.append_assoc]

namespace Extraction

/-- A record without a text that is given one is documented. -/
theorem documented_of_text {policy : Policy} {batch : Option Structures} {path text : String}
    {file enriched : FileRecord}
    (done : enrich team policy batch path file before = (.ok enriched, after))
    (bare : file.rawContent = none) (given : enriched.rawContent = some text) :
    Documented team policy batch path before file enriched after := by
  rcases enrich_cases team policy batch path file before with
    ⟨_, _, ended, become⟩ | ⟨_, _, ended, -⟩
  · rw [done] at ended
    cases ended
    rcases become with ⟨-, rfl, -⟩ | documented | demoted
    · rw [bare] at given
      cases given
    · exact documented
    · rw [demoted.same] at given
      cases given
  · rw [done] at ended
    cases ended

/-- A text that a record without one is given was read at the path where the file was looked for. -/
theorem enrich_reads {policy : Policy} {batch : Option Structures} {path text : String}
    {file enriched : FileRecord}
    (done : enrich team policy batch path file before = (.ok enriched, after))
    (bare : file.rawContent = none) (given : enriched.rawContent = some text) :
    EndedBetween (Session.Reaches team) (readSource team path) before after (.ok text) := by
  have extracts : Pervasive team fun (α : Type) (work : Work ε α) =>
      Keeps (Session.Reaches team) work := Sync.pervasive_leads Sync.allowsRest_true
  cases documented_of_text done bare given with
  | @intro document between bytes eligible found content =>
    cases given
    have early : before.Reaches team between :=
      (extracts.documentFor batch (extracts.asking _ _)).ok found.documentFor_eq
    have read : readSource team path between =
        (.ok (.ok (Utf8.asciiPart bytes)), between.record (.read path)) := by
      rw [readSource, content]
      rfl
    exact (EndedBetween.of_eq_ok read).widen early (refl_of (Session.Reaches team) _)

end Extraction

/-- The text of an extracted record was read at the path of the record. -/
theorem ExtractedBetween.reads {setup : Setup} {projectId text : String} {file : FileRecord}
    (extracted : ExtractedBetween team setup projectId before after file)
    (given : file.rawContent = some text) :
    EndedBetween (Session.Reaches team)
      (Extraction.readSource team (Path.join (setup.localPath projectId) file.path)) before after
      (.ok text) := by
  obtain ⟨remote, batch, ⟨start, finish, earlier, done, later⟩, -⟩ := extracted
  have same : file.path = remote.path := (Extraction.enrich_dressed done).path
  rw [same]
  exact (Extraction.enrich_reads done rfl given).widen earlier later

namespace Sync

/-- **A sync looks for nothing outside the working copy, unless the listing leads out of it.** It
asks about and reads what lies in the working copy, except for listed files whose paths are absolute
or lead above where they start. The text of a written record was read at the path of that record. -/
theorem syncProject_confined (team : Collaborators ε) (backend : Backend ι) (setup : Setup)
    {address id : String} (spelled : Address.projectId? address = some id) (run : Run ε ι)
    (current : String) :
    ∃ acts,
      (syncProject team backend setup address run).2.session.trace = run.session.trace ++ acts ∧
      (∀ act ∈ acts, act.StaysWithin current (setup.localPath id) ∨
        ∃ remote ∈ team.listing address run.session.world,
          ¬Path.IsInner remote.path ∧ act.Concerns (setup.localPath id) remote.path) ∧
      ∀ act ∈ acts, ∀ file text, act.written? = some file → file.rawContent = some text →
        .read (Path.join (setup.localPath id) file.path) ∈ acts ∧
        team.Gives run.session.world (Path.join (setup.localPath id) file.path) text ∧
        (Path.IsInner file.path → Path.Within current (setup.localPath id)
          (Path.join (setup.localPath id) file.path)) := by
  have leads : Run.Leads team
      (Act.Visits (setup.localPath id) (team.listing address run.session.world)) run
      (syncProject team backend setup address run).2 := syncProject_visits spelled run
  rcases ended : syncProject team backend setup address run with ⟨result, after⟩
  rw [ended] at leads
  obtain ⟨-, acts, extended, visits⟩ := leads
  refine ⟨acts, extended, fun act member =>
    (visits act member).staysWithin (setup.localPath_ne_empty spelled) current, ?_⟩
  intro act member file text wrote given
  obtain ⟨-, others, further, makes⟩ := syncProject_extracts ended
  have alike : acts = others := List.append_cancel_left (extended.symm.trans further)
  obtain ⟨other, same, extracted⟩ := makes act (alike ▸ member) file wrote
  obtain rfl : id = other := Option.some.inj (spelled.symm.trans same)
  obtain ⟨gives, readings, reached, read⟩ := Session.Reaches.gives (extracted.reads given)
  have whole : acts = readings := List.append_cancel_left (extended.symm.trans reached)
  exact ⟨whole ▸ read, gives, fun inner => inner.within_join current⟩

open Rehearsal

/-- The start of a sync of a scene's project, which is indexed without files. The host lists one
file, the disk has its text where its path leads, and the parser knows it. -/
def lookingFor (path : String) : Run Stage MemoryIndex :=
  let place := Path.join "/w/o/p" path
  let start := Scene.opening [Scene.entry path "1"]
    [⟨.file, place, [.text "\x7b\"class\":\x7b\x7d\x7d"]⟩] [] (Scene.indexed [])
  let disk := start.session.world.disk.write "/" place (.file (Utf8.encode "class A".toList))
  { start with session := Session.start { start.session.world with disk := disk } }

/-- The run in which the listed file was looked for. -/
def lookedFor (path : String) : Run Stage MemoryIndex :=
  (syncProject Stage.team MemoryIndex.backend Scene.setup "o/p" (lookingFor path)).2

/-- The text that is stored for a file of the scene's project. -/
def storedText (path : String) : Option String :=
  ((lookedFor path).index.files.find? ("o/p/" ++ path)).bind FileRecord.rawContent

/-- The text of a listed file below the working copy is stored, and nothing else is looked at. -/
theorem syncProject_confined_below :
    storedText "main/A.java" = some "class A" ∧
      ∀ act ∈ (lookedFor "main/A.java").session.trace, act.StaysWithin "/" "/w/o/p" := by
  obtain ⟨acts, extended, stays, -⟩ := syncProject_confined Stage.team MemoryIndex.backend
    Scene.setup (by decide +kernel : Address.projectId? "o/p" = some "o/p")
    (lookingFor "main/A.java") "/"
  have inner : ∀ remote ∈ Stage.team.listing "o/p" (lookingFor "main/A.java").session.world,
      Path.IsInner remote.path := by decide +kernel
  refine ⟨by decide +kernel, fun act member => ?_⟩
  have within : act ∈ acts := by
    rw [lookedFor, extended] at member
    exact member
  have place : Scene.setup.localPath "o/p" = "/w/o/p" := by decide +kernel
  rcases stays act within with below | ⟨remote, listed, outer, -⟩
  · rwa [place] at below
  · exact absurd (inner remote listed) outer

/-- The listed file does not lie in the working copy. The parser is asked about it all the same, it
is read, and its text is stored. -/
def ReadsOutside (path : String) : Prop :=
  ¬Path.Within "/" (Scene.setup.localPath "o/p") (Path.join "/w/o/p" path) ∧
    (.file, Path.join "/w/o/p" path) ∈ (lookedFor path).session.trace.filterMap Act.request? ∧
    Path.join "/w/o/p" path ∈ (lookedFor path).session.trace.filterMap Act.readPath? ∧
    storedText path = some "class A"

instance (path : String) : Decidable (ReadsOutside path) :=
  inferInstanceAs (Decidable (_ ∧ _ ∧ _ ∧ _))

/-- **A listing can make a sync read outside the working copy**, by a path that leads up or by an
absolute one. -/
theorem syncProject_readsOutside : ReadsOutside "../q/A.java" ∧ ReadsOutside "/etc/A.java" := by
  decide +kernel

end Sync

end SourceIndex
