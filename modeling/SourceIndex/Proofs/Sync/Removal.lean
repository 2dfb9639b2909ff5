import SourceIndex.Command.Run
import SourceIndex.Proofs.Host.Listing
import SourceIndex.Proofs.Sync.Course
import SourceIndex.Rehearsal.Scene
import SourceIndex.Rehearsal.Server

/-!
# Files that a sync removes

A sync removes files from the index on two occasions. A reconciliation deletes the indexed files of
the project that the listing lacks, and the listing is whatever file tree the service reported: when
the tree says that entries were left out, the files left out count as gone. And an import that
failed removes its project again, with every row that is filed under it; such a row was there before
only if it had no project.

Main statement: there is no other occasion (`syncProject_removal`). Two runs show that both of them
occur (`syncProject_removal_listed`).
-/

set_option autoImplicit false

namespace SourceIndex

open Fallible Host Rehearsal

variable {ε ι ν ρ : Type} [Row ρ]

/-! ## Parties with the hosting service behind a network -/

/-- The hosting service is asked by a client over a network, whose state is part of the world. A
client that stops takes the sync with it, which comes to nothing for the sync. -/
def Collaborators.Networked (team : Collaborators ε) (network : Network ν) (client : Client)
    (part : ε → ν) : Prop :=
  ∀ address world, (team.resolve address world).1 =
    (Client.resolve network client address (part world)).1.answer

/-- The parties of a sync on a machine ask the hosting service by the client. -/
theorem Machine.networked_team {σ ψ : Type} (machine : Machine σ ψ) (settings : Settings) :
    (machine.team settings).Networked machine.network
      ⟨settings.host, machine.token, .standard⟩ Link.world := by
  intro address world
  rw [Machine.team]

/-- What networked parties resolve is the project with the files of the reported tree. -/
theorem Collaborators.Networked.reported {team : Collaborators ε} {network : Network ν}
    {client : Client} {part : ε → ν} (networked : team.Networked network client part)
    {address : String} {world after : ε} {remote : RemoteProject}
    (found : team.resolve address world = (.ok (some remote), after)) :
    ∃ tree, Client.reported? network client address (part world) = some tree ∧
      remote.files = tree.files := by
  have answered := networked address world
  rcases resolved : Client.resolve network client address (part world) with ⟨ending, last⟩
  rw [found, resolved] at answered
  obtain rfl := Ending.answer_eq_ok_iff.1 answered.symm
  exact (Client.resolve_eq_ok resolved).2

/-- Adding a project with files and removing it again removes no file of another project. -/
theorem Sync.Addition.filed_of_removed {projectId : String} {project : Project}
    {listing : List RemoteFile} {failure : Option StoreError} {writes : List Write}
    {failures : List (Operation × StoreError)} {before after : Holdings ρ}
    (addition : Sync.Addition projectId project listing failure writes failures)
    (written : Holdings.replay writes before = some after)
    {row : ρ} (there : row ∈ before.files.entries)
    (removed : after.files.contains (Row.id row) = false) :
    Row.projectId row = projectId ∧ failure ≠ none := by
  have gone : row ∉ after.files.entries := by
    intro member
    rw [Keyed.contains, (after.files.find?_eq_some_iff _ _).2 ⟨member, rfl⟩] at removed
    cases removed
  have added : ∀ {files : List FileRecord} {between : Holdings ρ},
      Holdings.replay (additions project files) before = some between →
        row ∈ between.files.entries := by
    intro files between adding
    rw [(Holdings.replay_additions adding).2]
    exact List.mem_append_left _ there
  cases addition with
  | added listed => exact absurd (added written) gone
  | unadded cause =>
    cases written
    exact absurd there gone
  | stuck listed culprit cause reason => exact absurd (added written) gone
  | undone listed culprit cause =>
    obtain ⟨between, adding, removing⟩ := Holdings.replay_append_eq_some_iff.1 written
    obtain ⟨last, deleted, ended⟩ := Holdings.replay_cons_eq_some_iff.1 removing
    cases ended
    cases deleted
    refine ⟨?_, Option.some_ne_none cause⟩
    by_contra other
    exact gone (List.mem_filter.2 ⟨added adding, by simpa using other⟩)

namespace Sync

variable {backend : Backend ι}

/-- **A sync removes a file only if the service reported a file tree that lacks it**, complete or
not, or if the file was filed under a project that was not there and its import failed. -/
theorem syncProject_removal (storage : Storage backend ρ) (network : Network ν) (client : Client)
    (part : ε → ν) (team : Collaborators ε) (networked : team.Networked network client part)
    (setup : Setup) (address : String) (run after : Run ε ι) (result : Except SyncError Outcome)
    (ended : syncProject team backend setup address run = (result, after)) (id : String)
    (held : (storage.holdings run.index).files.contains id = true)
    (removed : (storage.holdings after.index).files.contains id = false) :
    ∃ projectId row, Address.projectId? address = some projectId ∧
      (storage.holdings run.index).files.find? id = some row ∧ Row.projectId row = projectId ∧
        ((storage.holdings run.index).projects.contains projectId = true ∧
            (∃ tree, Client.reported? network client address (part run.session.world) = some tree ∧
              id ∉ Plan.listedIds projectId tree.files) ∨
          (storage.holdings run.index).projects.contains projectId = false ∧
            ∃ cause, result = .error (.store cause)) := by
  obtain ⟨writes, failures, did, course⟩ := syncProject_course ended
  obtain ⟨written, -⟩ := storage.replay_of_writeAll did.index
  obtain ⟨row, found⟩ := Option.isSome_iff_exists.1 held
  obtain ⟨there, named⟩ := (Keyed.find?_eq_some_iff _ _ _).1 found
  cases course with
  | idle =>
    rw [← Option.some.inj written, held] at removed
    cases removed
  | @reconciled projectId _ _ _ _ spelled resolved indexed planned =>
    have kept : ∀ write ∈ writes, ∀ other, write ≠ .deleteProject other := by
      rintro _ member other rfl
      exact planned.filed _ member
    have deleted : .deleteFile id ∈ writes := by
      by_contra spared
      rw [Holdings.contains_of_replay kept spared held written] at removed
      cases removed
    obtain ⟨tree, reported, listing⟩ := networked.reported resolved
    rcases planned.cases deleted with
      ⟨file, wrong | wrong, -⟩ | ⟨hashes, unlisted, same, answered, ⟨entry, known⟩, missing⟩
    · cases wrong
    · cases wrong
    · cases same
      obtain ⟨-, rfl⟩ := storage.fileHashes_eq_ok_iff.1 answered
      obtain ⟨other, present, filed, called, -⟩ := Holdings.find?_hashesOf_eq_some_iff.1 known
      rw [(Keyed.find?_eq_some_iff _ _ _).2 ⟨present, called⟩] at found
      cases found
      rw [listing] at missing
      exact ⟨projectId, row, spelled, (Keyed.find?_eq_some_iff _ _ _).2 ⟨there, named⟩, filed,
        .inl ⟨(storage.hasProject_eq_ok_iff.1 indexed).2.symm, tree, reported, missing⟩⟩
  | @imported projectId _ _ failure _ _ spelled resolved unindexed addition failing =>
    subst named
    obtain ⟨filed, failed⟩ := addition.filed_of_removed written there removed
    obtain ⟨cause, stopped⟩ := Option.ne_none_iff_exists'.1 failed
    exact ⟨projectId, row, spelled, found, filed,
      .inr ⟨(storage.hasProject_eq_ok_iff.1 unindexed).2.symm, cause, failing cause stopped⟩⟩

/-! ## Two runs that remove files -/

/-- A client that sends each request once. -/
def plainClient : Client :=
  ⟨{ HostSettings.standard with apiUrl := "http://127.0.0.1:80", maxRetries := 0 }, none,
    .standard⟩

/-- An answer that says that the request succeeded. -/
def success (text : String) : ServerReply :=
  .answer ⟨200, [], text.toUTF8.toList⟩

/-- A server with one project, whose file tree is given as the text of its answer. -/
def reporting (tree : String) : Server :=
  Server.start true
    [⟨"/repos/o/p",
        [success ("\x7b\"name\":\"p\",\"default_branch\":\"main\",\"url\":\"u\"," ++
          "\"clone_url\":\"c\",\"trees_url\":\"t\",\"owner\":\x7b\"login\":\"o\"\x7d\x7d")]⟩,
      ⟨"/repos/o/p/branches/main", [success "\x7b\"commit\":\x7b\"sha\":\"c0\"\x7d\x7d"]⟩,
      ⟨"/repos/o/p/git/trees/c0?recursive=1", [success tree]⟩]

/-- A file tree with one source file. -/
def treeText (truncated : String) : String :=
  "\x7b\"truncated\":" ++ truncated ++ ",\"tree\":[\x7b\"path\":\"A.java\",\"sha\":\"1\"," ++
    "\"mode\":\"100644\",\"type\":\"blob\"\x7d]\x7d"

/-- Scripted parties with the hosting service on a server. -/
def networking : Collaborators (Stage × Server) where
  resolve address world :=
    let answered := Client.resolve Server.network plainClient address world.2
    (answered.1.answer, (world.1, answered.2))
  mirror call world :=
    let done := Stage.team.mirror call world.1
    (done.1, (done.2, world.2))
  ask kind payload world :=
    let answered := Stage.team.ask kind payload world.1
    (answered.1, (answered.2, world.2))
  read path world := Stage.team.read path world.1
  pathExists path world := Stage.team.pathExists path world.1
  refuse operation world :=
    let refused := Stage.team.refuse operation world.1
    (refused.1, (refused.2, world.2))

theorem networked_networking :
    networking.Networked Server.network plainClient Prod.snd := by
  intro address world
  rw [networking]

/-- A stage with a server. -/
def opened (run : Run Stage MemoryIndex) (server : Server) : Run (Stage × Server) MemoryIndex :=
  ⟨Session.start (run.session.world, server), run.index⟩

/-- An indexed project with two files. The service reports a file tree that it cut off after the
first one. -/
def cutOff : Run (Stage × Server) MemoryIndex :=
  opened
    (Scene.opening [] [] [] (Scene.indexed [Scene.entry "A.java" "1", Scene.entry "B.java" "1"]))
    (reporting (treeText "true"))

/-- A file that is filed under a project that is not there. The service reports a complete file tree
with that file. -/
def stray : Run (Stage × Server) MemoryIndex :=
  opened
    (Scene.opening [Scene.entry "A.java" "1"]
      [⟨.directory, "/w/o/p", [.text "\x7b\"/w/o/p/A.java\":\x7b\x7d\x7d"]⟩] []
      { Scene.indexed [Scene.entry "A.java" "1"] with projects := Keyed.empty })
    (reporting (treeText "false"))

/-- The sync of a project with scripted parties. -/
def networkedSync (run : Run (Stage × Server) MemoryIndex) :
    Except SyncError Outcome × Run (Stage × Server) MemoryIndex :=
  syncProject networking MemoryIndex.backend Scene.setup "o/p" run

theorem networkedSync_cutOff :
    (networkedSync cutOff).1 = .ok (.reconciled ⟨0, 0, 1, 1⟩) ∧
      cutOff.index.files.contains "o/p/B.java" = true ∧
      (networkedSync cutOff).2.index.files.contains "o/p/B.java" = false ∧
      (Client.reported? Server.network plainClient "o/p" cutOff.session.world.2).map
        Tree.truncated = some true := by
  decide +kernel

theorem networkedSync_stray :
    (networkedSync stray).1 = .error (.store (.fileExists "o/p/A.java")) ∧
      stray.index.files.contains "o/p/A.java" = true ∧
      (networkedSync stray).2.index.files.contains "o/p/A.java" = false ∧
      (Client.reported? Server.network plainClient "o/p" stray.session.world.2).map
        (fun tree => (tree.truncated, Plan.listedIds "o/p" tree.files)) =
          some (false, ["o/p/A.java"]) := by
  decide +kernel

/-- What was cut off a file tree is removed, and so is a file that is in a complete tree when its
project cannot be imported. -/
theorem syncProject_removal_listed :
    ((networkedSync cutOff).1 = .ok (.reconciled ⟨0, 0, 1, 1⟩) ∧
      cutOff.index.files.contains "o/p/B.java" = true ∧
      (networkedSync cutOff).2.index.files.contains "o/p/B.java" = false ∧
      (Client.reported? Server.network plainClient "o/p" cutOff.session.world.2).map
        Tree.truncated = some true) ∧
      (networkedSync stray).1 = .error (.store (.fileExists "o/p/A.java")) ∧
      stray.index.files.contains "o/p/A.java" = true ∧
      (networkedSync stray).2.index.files.contains "o/p/A.java" = false ∧
      (Client.reported? Server.network plainClient "o/p" stray.session.world.2).map
        (fun tree => (tree.truncated, Plan.listedIds "o/p" tree.files)) =
          some (false, ["o/p/A.java"]) :=
  ⟨networkedSync_cutOff, networkedSync_stray⟩

/-- The file that was cut off is not in the tree that the service reported. -/
theorem syncProject_removal_cutOff :
    ∃ tree, Client.reported? Server.network plainClient "o/p" cutOff.session.world.2 =
        some tree ∧ tree.truncated = true ∧ "o/p/B.java" ∉ Plan.listedIds "o/p" tree.files := by
  obtain ⟨-, held, removed, flag⟩ := networkedSync_cutOff
  have present : cutOff.index.projects.contains "o/p" = true := by decide +kernel
  rcases ended : networkedSync cutOff with ⟨result, after⟩
  rw [ended] at removed
  obtain ⟨projectId, row, spelled, -, -, cause⟩ := syncProject_removal MemoryIndex.storage
    Server.network plainClient Prod.snd networking networked_networking Scene.setup "o/p" cutOff
    after result ended "o/p/B.java" held removed
  have named : Address.projectId? "o/p" = some "o/p" := by decide +kernel
  rw [named] at spelled
  cases spelled
  rcases cause with ⟨-, tree, reported, missing⟩ | ⟨absent, -⟩
  · rw [reported] at flag
    exact ⟨tree, reported, Option.some.inj flag, missing⟩
  · rw [show (MemoryIndex.storage.holdings cutOff.index).projects.contains "o/p" = true from present]
      at absent
    cases absent

end Sync

end SourceIndex
