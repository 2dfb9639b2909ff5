import SourceIndex.Proofs.Sync.Visits
import SourceIndex.Proofs.Sync.WorkingCopies
import SourceIndex.Rehearsal.Scene
import SourceIndex.Settings

/-!
# Requests by absolute paths

The parser answers with absolute paths, so it has to be asked by absolute paths. If the directory of
the working copies is absolute, then so is every path below it that a sync sends, whatever the host
lists: joining keeps an absolute path absolute, and so does the spelling for the parser. The
directory is made absolute when a setup is made, unless it is given as the empty path
(`Sync.runCalls_asksAbsolute`).

Settings with the empty path are accepted. The parser is then asked by relative paths
(`Sync.syncProject_asksRelative`).
-/

set_option autoImplicit false

namespace SourceIndex

open Fallible

variable {ε ι : Type}

/-- If the act asks the parser, it does so by an absolute path. -/
def Act.AsksAbsolute (act : Act) : Prop :=
  ∀ kind payload, act = .asked kind payload → Path.isAbsolute payload = true

theorem Act.AsksAbsolute.of_unasked {act : Act} (unasked : act.request? = none) :
    act.AsksAbsolute := by
  rintro kind payload rfl
  cases unasked

/-- Below an absolute directory every request is by an absolute path. -/
theorem Act.Visits.asksAbsolute {directory : String} {listing : List RemoteFile} {act : Act}
    (visits : act.Visits directory listing) (absolute : Path.isAbsolute directory = true) :
    act.AsksAbsolute := by
  rintro kind payload rfl
  cases visits with
  | asksDirectory => exact Path.isAbsolute_key absolute
  | asksFile listed =>
    refine Path.isAbsolute_key ?_
    rw [Path.isAbsolute_join, absolute, Bool.true_or]
  | elsewhere unasked unread => cases unasked

theorem Setup.isAbsolute_localPath {setup : Setup}
    (absolute : Path.isAbsolute setup.sourceDir = true) (projectId : String) :
    Path.isAbsolute (setup.localPath projectId) = true := by
  rw [localPath]
  generalize setup.sourceDir = base at absolute
  induction (projectId.toList.splitOn '/').map String.ofList generalizing base with
  | nil => exact absolute
  | cons part rest ih =>
    refine ih (Path.join base part) ?_
    rw [Path.isAbsolute_join, absolute, Bool.true_or]

namespace Sync

variable {team : Collaborators ε} {backend : Backend ι}

theorem allowsAround_asksAbsolute : AllowsAround Act.AsksAbsolute where
  reported _ := .of_unasked rfl
  mirrored _ := .of_unasked rfl
  failed _ _ := .of_unasked rfl

theorem syncProject_asksAbsolute {setup : Setup}
    (absolute : Path.isAbsolute setup.sourceDir = true) (address : String) (run : Run ε ι) :
    Run.Leads team Act.AsksAbsolute run (syncProject team backend setup address run).2 := by
  cases spelled : Address.projectId? address with
  | none =>
    rw [syncProject_unnamed spelled]
    exact refl_of (Run.Leads team _) run
  | some id =>
    have below := Setup.isAbsolute_localPath absolute id
    have leads : Run.Leads team
        (Act.Visits (setup.localPath id) (team.listing address run.session.world)) run
        (syncProject team backend setup address run).2 := syncProject_visits spelled run
    exact leads.imp fun act visits => visits.asksAbsolute below

/-- A call with an absolute directory of working copies asks by absolute paths. -/
theorem perform_asksAbsolute {call : Call}
    (absolute : ∀ setup address, call = .sync setup address →
      Path.isAbsolute setup.sourceDir = true) (run : Run ε ι) :
    Run.Leads team Act.AsksAbsolute run (call.perform team backend run).2 := by
  cases call with
  | sync setup address =>
    rw [Call.perform]
    exact syncProject_asksAbsolute (absolute setup address rfl) address run
  | delete address =>
    have quiet : Keeps (Run.Leads team Act.AsksAbsolute)
        (deleteProject team backend address : Sync ε ι Outcome) :=
      leads_deleteProject allowsAround_asksAbsolute fun _ => .of_unasked rfl
    rw [Call.perform]
    exact quiet run

theorem runCalls_leads_asksAbsolute {calls : List Call}
    (absolute : ∀ setup address, .sync setup address ∈ calls →
      Path.isAbsolute setup.sourceDir = true) (start : Run ε ι) :
    Run.Leads team Act.AsksAbsolute start (runCalls team backend calls start) := by
  induction calls generalizing start with
  | nil => exact refl_of (Run.Leads team _) start
  | cons call rest ih =>
    have first : Run.Leads team Act.AsksAbsolute start (call.perform team backend start).2 :=
      perform_asksAbsolute (fun setup address same =>
        absolute setup address (same ▸ List.mem_cons_self)) start
    have others := ih (fun setup address within =>
      absolute setup address (List.mem_cons_of_mem call within)) (call.perform team backend start).2
    exact trans_of (Run.Leads team _) first others

/-- **The parser is asked by absolute paths**, whatever calls are made, as long as the directory of
the working copies was not given as the empty path. Its answers are looked up under absolute paths
as well. -/
theorem runCalls_asksAbsolute (team : Collaborators ε) (backend : Backend ι) (policy : Policy)
    (current : String) {sourceDir : String} (named : sourceDir ≠ "") {calls : List Call}
    (own : ∀ setup address, .sync setup address ∈ calls →
      setup = Setup.make policy current sourceDir) (start : Run ε ι) :
    (∃ acts, (runCalls team backend calls start).session.trace = start.session.trace ++ acts ∧
        ∀ kind payload, .asked kind payload ∈ acts → Path.isAbsolute payload = true) ∧
      ∀ projectId path, Path.isAbsolute (Path.key
        (Path.join ((Setup.make policy current sourceDir).localPath projectId) path)) = true := by
  have absolute : Path.isAbsolute (Setup.make policy current sourceDir).sourceDir = true :=
    (Setup.isNormal_make policy current named).1
  constructor
  · have leads : Run.Leads team Act.AsksAbsolute start (runCalls team backend calls start) :=
      runCalls_leads_asksAbsolute
        (fun setup address within => own setup address within ▸ absolute) start
    obtain ⟨-, acts, extended, asks⟩ := leads
    exact ⟨acts, extended, fun kind payload asked => asks _ asked kind payload rfl⟩
  · intro projectId path
    refine Path.isAbsolute_key ?_
    rw [Path.isAbsolute_join, Setup.isAbsolute_localPath absolute, Bool.true_or]

/-! ## Directories of working copies as they are given -/

/-- Settings that give a directory of working copies. -/
def settingsText (sourceDir : String) : String :=
  "[index]\npath = \"index\"\n[mirror]\nsource_dir = \"" ++ sourceDir ++
    "\"\n[parser]\ncommand = \"parser\"\n"

/-- The settings of such a text. -/
def givenSettings (sourceDir : String) : Settings :=
  ⟨"index", HostSettings.standard, ⟨sourceDir, "git"⟩, ⟨"parser", [], Channel.standardRecycling⟩,
    .standard⟩

open Rehearsal

/-- A sync of the scene's project with working copies where the settings say, from the current
directory `/w`. -/
def syncBy (settings : Settings) : Call :=
  .sync (Setup.make settings.extraction "/w" settings.mirror.sourceDir) "o/p"

/-- The run in which the scene's project was synced by the settings. -/
def syncedBy (settings : Settings) : Run Stage MemoryIndex :=
  runCalls Stage.team MemoryIndex.backend [syncBy settings]
    (Scene.opening [Scene.entry "A.java" "1"] [] [] .empty)

/-- A relative directory is made absolute, so the request is by an absolute path. -/
theorem runCalls_asksAbsolute_src :
    Settings.parse (settingsText "src") = .ok (givenSettings "src") ∧
      (syncedBy (givenSettings "src")).session.trace.filterMap Act.request? =
        [(.directory, "/w/src/o/p")] ∧
      ∀ kind payload, .asked kind payload ∈ (syncedBy (givenSettings "src")).session.trace →
        Path.isAbsolute payload = true := by
  have own : ∀ setup address, .sync setup address ∈ [syncBy (givenSettings "src")] →
      setup = Setup.make .standard "/w" "src" := by
    intro setup address within
    cases List.mem_singleton.1 within
    rfl
  obtain ⟨⟨acts, extended, absolute⟩, -⟩ := runCalls_asksAbsolute Stage.team MemoryIndex.backend
    .standard "/w" (by decide) own (Scene.opening [Scene.entry "A.java" "1"] [] [] .empty)
  refine ⟨by decide +kernel, by decide +kernel, fun kind payload asked => ?_⟩
  rw [syncedBy, extended] at asked
  exact absolute kind payload asked

/-- **With the empty path for its directory a sync asks by a relative path.** The settings are
accepted all the same. -/
theorem syncProject_asksRelative :
    Settings.parse (settingsText "") = .ok (givenSettings "") ∧
      (syncedBy (givenSettings "")).session.trace.filterMap Act.request? =
        [(.directory, "o/p")] ∧
      Path.isAbsolute "o/p" = false := by
  decide +kernel

end Sync

end SourceIndex
