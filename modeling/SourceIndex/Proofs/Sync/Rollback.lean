import SourceIndex.Proofs.Sync.Course
import SourceIndex.Rehearsal.Scene

/-!
# Failed imports

A first import adds the project before its files, and removes it again when a file cannot be added.
Removing a project removes every row that is filed under it, so this restores the index only if no
row was filed under the project before. That is so because every row in the index is filed under a
project that is there, and every call keeps it that way (`anchored_syncProject`,
`anchored_deleteProject`): imports and reconciliations, deletes, and imports whose removal failed.

Main statement: after any calls from an empty index no row is without its project, and from there a
failed first import reports the failure of the add and leaves nothing behind once the project is
removed (`runCalls_restored`).
-/

set_option autoImplicit false

namespace SourceIndex

open Fallible Rehearsal

variable {ε ι ρ : Type} [Row ρ]

/-- The hosting service answers with the project whose id was asked for. -/
def Collaborators.Faithful (team : Collaborators ε) : Prop :=
  ∀ address world remote after projectId,
    team.resolve address world = (.ok (some remote), after) →
      Address.projectId? address = some projectId → remote.project.id = projectId

/-- A call to sync or to delete a project. -/
inductive Call where
  | sync (setup : Setup) (address : String)
  | delete (address : String)

/-- Makes a call. -/
def Call.perform (team : Collaborators ε) (backend : Backend ι) : Call → Sync ε ι Outcome
  | .sync setup address => Sync.syncProject team backend setup address
  | .delete address => Sync.deleteProject team backend address

/-- The run after calls in order, however each of them ends. -/
def runCalls (team : Collaborators ε) (backend : Backend ι) (calls : List Call)
    (start : Run ε ι) : Run ε ι :=
  calls.foldl (fun run call => (call.perform team backend run).2) start

namespace Sync

variable {team : Collaborators ε} {backend : Backend ι} {storage : Storage backend ρ}
variable {setup : Setup} {address projectId : String} {run after : Run ε ι}

/-! ## Every row has its project -/

theorem Addition.anchored {project : Project} {listing : List RemoteFile}
    {failure : Option StoreError} {writes : List Write}
    {failures : List (Operation × StoreError)} {before held : Holdings ρ}
    (addition : Addition projectId project listing failure writes failures)
    (named : project.id = projectId) (anchored : before.Anchored)
    (written : Holdings.replay writes before = some held) : held.Anchored := by
  cases addition with
  | added listed =>
    exact anchored.replay_additions named (fun file asked => (listed file asked).projectId) written
  | unadded cause =>
    cases written
    exact anchored
  | undone listed culprit cause =>
    obtain ⟨between, adding, removing⟩ := Holdings.replay_append_eq_some_iff.1 written
    obtain ⟨last, removed, ended⟩ := Holdings.replay_cons_eq_some_iff.1 removing
    cases ended
    exact (anchored.replay_additions named (fun file asked => (listed file asked).projectId)
      adding).deleteProject removed
  | stuck listed culprit cause reason =>
    exact anchored.replay_additions named (fun file asked => (listed file asked).projectId) written

theorem anchored_syncProject (faithful : team.Faithful) {result : Except SyncError Outcome}
    (ended : syncProject team backend setup address run = (result, after))
    (anchored : (storage.holdings run.index).Anchored) :
    (storage.holdings after.index).Anchored := by
  obtain ⟨writes, failures, did, course⟩ := syncProject_course ended
  obtain ⟨written, -⟩ := storage.replay_of_writeAll did.index
  cases course with
  | idle =>
    rw [← Option.some.inj written]
    exact anchored
  | reconciled spelled found indexed planned =>
    obtain ⟨-, present⟩ := storage.hasProject_eq_ok_iff.1 indexed
    exact anchored.replay_filed planned.filed present.symm written
  | imported spelled found unindexed addition failing =>
    exact addition.anchored (faithful _ _ _ _ _ found spelled) anchored written

theorem anchored_deleteProject {result : Except SyncError Outcome}
    (ended : deleteProject team backend address run = (result, after))
    (anchored : (storage.holdings run.index).Anchored) :
    (storage.holdings after.index).Anchored := by
  obtain ⟨writes, failures, did, course⟩ := deleteProject_did ended
  obtain ⟨written, -⟩ := storage.replay_of_writeAll did.index
  rcases course with rfl | ⟨id, -, rfl⟩
  · rw [← Option.some.inj written]
    exact anchored
  · obtain ⟨between, removed, ended⟩ := Holdings.replay_cons_eq_some_iff.1 written
    rw [← Option.some.inj ended]
    exact anchored.deleteProject removed

theorem anchored_perform (faithful : team.Faithful) (call : Call)
    (anchored : (storage.holdings run.index).Anchored) :
    (storage.holdings (call.perform team backend run).2.index).Anchored := by
  rcases ended : call.perform team backend run with ⟨result, after⟩
  cases call with
  | sync setup address => exact anchored_syncProject faithful ended anchored
  | delete address => exact anchored_deleteProject ended anchored

/-- What every call keeps, any number of calls keep. -/
theorem anchored_runCalls (faithful : team.Faithful) (calls : List Call)
    (anchored : (storage.holdings run.index).Anchored) :
    (storage.holdings (runCalls team backend calls run).index).Anchored := by
  induction calls generalizing run with
  | nil => exact anchored
  | cons call rest ih => exact ih (anchored_perform faithful call anchored)

/-! ## A failed import is undone -/

/-- The error of a failed addition is that of the write that failed, and if the project was removed
again or was never added, the holdings are those from before. -/
theorem Addition.restored {project : Project} {listing : List RemoteFile}
    {failure : Option StoreError} {writes : List Write}
    {failures : List (Operation × StoreError)} {before held : Holdings ρ}
    {operation : Operation} {cause : StoreError}
    (addition : Addition projectId project listing failure writes failures)
    (named : project.id = projectId) (anchored : before.Anchored)
    (absent : before.projects.contains projectId = false)
    (written : Holdings.replay writes before = some held)
    (failed : (operation, cause) ∈ failures)
    (adding : operation.method = .createProject ∨ operation.method = .createFile) :
    failure = some cause ∧
      (operation.method = .createProject ∨ .deleteProject projectId ∈ writes → held = before) := by
  cases addition with
  | added listed => cases failed
  | unadded cause =>
    cases List.mem_singleton.1 failed
    exact ⟨rfl, fun _ => (Option.some.inj written).symm⟩
  | undone listed culprit cause =>
    cases List.mem_singleton.1 failed
    exact ⟨rfl, fun _ => Holdings.replay_undone anchored named absent
      (fun file asked => (listed file asked).projectId) written⟩
  | stuck listed culprit cause reason =>
    rcases List.mem_cons.1 failed with first | second
    · cases first
      refine ⟨rfl, ?_⟩
      rintro (wrong | removed)
      · cases wrong
      · -- The project was added with some of its files, and nothing else was written.
        rcases List.mem_cons.1 removed with other | file
        · cases other
        · obtain ⟨_, -, other⟩ := List.mem_map.1 file
          cases other
    · cases List.mem_singleton.1 second
      rcases adding with wrong | wrong
      · cases wrong
      · cases wrong

theorem syncProject_restored (faithful : team.Faithful) {error : SyncError} {acts : List Act}
    {operation : Operation} {cause : StoreError}
    (anchored : (storage.holdings run.index).Anchored)
    (spelled : Address.projectId? address = some projectId)
    (absent : (storage.holdings run.index).projects.contains projectId = false)
    (ended : syncProject team backend setup address run = (.error error, after))
    (extended : after.session.trace = run.session.trace ++ acts)
    (failed : .failed operation cause ∈ acts)
    (adding : operation.method = .createProject ∨ operation.method = .createFile) :
    error = .store cause ∧
      (operation.method = .createProject ∨ .wrote (.deleteProject projectId) ∈ acts →
        storage.holdings after.index = storage.holdings run.index) := by
  obtain ⟨writes, failures, did, course⟩ := syncProject_course ended
  obtain ⟨written, -⟩ := storage.replay_of_writeAll did.index
  obtain ⟨others, further, wrote, refused⟩ := did.acts
  rw [extended] at further
  cases List.append_cancel_left further
  have writing : operation.method.isWrite = true := by
    rcases adding with project | file
    · rw [project]
      rfl
    · rw [file]
      rfl
  have among : (operation, cause) ∈ failures := by
    rw [← refused]
    exact List.mem_filterMap.2 ⟨_, failed, Option.filter_some_pos writing⟩
  cases course with
  | idle => cases among
  | reconciled named found indexed planned =>
    rw [spelled] at named
    cases named
    obtain ⟨-, present⟩ := storage.hasProject_eq_ok_iff.1 indexed
    rw [absent] at present
    cases present
  | imported named found unindexed addition failing =>
    rw [spelled] at named
    cases named
    obtain ⟨failure, restored⟩ := addition.restored (faithful _ _ _ _ _ found spelled) anchored
      absent written among adding
    refine ⟨by cases failing cause failure; rfl, fun undone => restored ?_⟩
    rcases undone with unadded | removed
    · exact .inl unadded
    · exact .inr (wrote ▸ Act.mem_writes_iff.2 removed)

/-- **No row is ever without its project, and a failed import leaves nothing behind.** After any
calls from an empty index every row is filed under a project that is there. A sync from there that
imports a project and fails to add it or one of its files reports that failure, and the holdings are
what they were unless removing the project failed too. -/
theorem runCalls_restored (storage : Storage backend ρ) (team : Collaborators ε)
    (faithful : team.Faithful) (start : Run ε ι)
    (empty : storage.holdings start.index = Holdings.empty) (calls : List Call) :
    (storage.holdings (runCalls team backend calls start).index).Anchored ∧
      ∀ (setup : Setup) (address projectId : String) (after : Run ε ι) (error : SyncError)
          (acts : List Act) (operation : Operation) (cause : StoreError),
        Address.projectId? address = some projectId →
        (storage.holdings (runCalls team backend calls start).index).projects.contains projectId =
          false →
        syncProject team backend setup address (runCalls team backend calls start) =
          (.error error, after) →
        after.session.trace = (runCalls team backend calls start).session.trace ++ acts →
        .failed operation cause ∈ acts →
        operation.method = .createProject ∨ operation.method = .createFile →
          error = .store cause ∧
            (operation.method = .createProject ∨ .wrote (.deleteProject projectId) ∈ acts →
              storage.holdings after.index =
                storage.holdings (runCalls team backend calls start).index) := by
  have anchored : (storage.holdings (runCalls team backend calls start).index).Anchored := by
    refine anchored_runCalls faithful calls ?_
    rw [empty]
    exact Holdings.anchored_empty
  refine ⟨anchored, ?_⟩
  intro setup address projectId after error acts operation cause spelled absent ended extended
    failed adding
  exact syncProject_restored faithful anchored spelled absent ended extended failed adding

/-- The listing of a project with a source file and another one. -/
def importedListing : List RemoteFile :=
  [Scene.entry "A.java" "1", Scene.entry "B.txt" "1"]

/-- Scripted parties whose hosting service knows every project by the id that was asked for. -/
def hosting : Collaborators Stage :=
  { Stage.team with
    resolve := fun address stage =>
      (.ok ((Address.projectId? address).map fun id =>
        ⟨{ Scene.project with id := id }, importedListing⟩), stage) }

theorem faithful_hosting : hosting.Faithful := by
  intro address world remote after projectId answered spelled
  change ((.ok ((Address.projectId? address).map _), world) :
    Except Chain (Option RemoteProject) × Stage) = _ at answered
  rw [spelled] at answered
  cases answered
  rfl

/-- An empty index to which the second file of a project cannot be added. -/
def unaddable : Run Stage MemoryIndex :=
  Scene.opening importedListing
    [⟨.directory, "/w/o/p", [.text "\x7b\"/w/o/p/A.java\":\x7b\x7d\x7d"]⟩]
    [⟨.createFile, some "o/p/B.txt", ["disk full"]⟩] MemoryIndex.empty

/-- The run after a call from that index, which finds nothing to delete. -/
def reached : Run Stage MemoryIndex :=
  runCalls hosting MemoryIndex.backend [.delete "o/p"] unaddable

/-- The file that was added before the failure is gone again, and so is the project. -/
theorem runCalls_restored_unaddable :
    ∃ after, syncProject hosting MemoryIndex.backend Scene.setup "o/p" reached =
        (.error (.store (.refused ["disk full"])), after) ∧
      after.index.holdings = reached.index.holdings := by
  have result : (syncProject hosting MemoryIndex.backend Scene.setup "o/p" reached).1 =
      .error (.store (.refused ["disk full"])) := by decide +kernel
  have failures : (syncProject hosting MemoryIndex.backend Scene.setup "o/p"
      reached).2.session.trace.filterMap Act.failure? =
        [(⟨.createFile, "o/p/B.txt"⟩, .refused ["disk full"])] := by decide +kernel
  have writes : ((syncProject hosting MemoryIndex.backend Scene.setup "o/p"
      reached).2.session.trace.filterMap Act.write?).map Write.operation =
        [⟨.createProject, "o/p"⟩, ⟨.createFile, "o/p/A.java"⟩, ⟨.deleteProject, "o/p"⟩] := by
    decide +kernel
  have silent : reached.session.trace = [] := List.isEmpty_iff.1 (by decide +kernel)
  have absent : reached.index.projects.contains "o/p" = false := by decide +kernel
  rcases ended : syncProject hosting MemoryIndex.backend Scene.setup "o/p" reached
    with ⟨outcome, after⟩
  rw [ended] at result failures writes
  cases result
  have failed : .failed ⟨.createFile, "o/p/B.txt"⟩ (.refused ["disk full"]) ∈
      after.session.trace := by
    rw [← Act.mem_failures_iff, failures]
    exact List.mem_singleton_self _
  have removed : .wrote (.deleteProject "o/p") ∈ after.session.trace := by
    have last : ⟨.deleteProject, "o/p"⟩ ∈
        (after.session.trace.filterMap Act.write?).map Write.operation := by
      rw [writes]
      simp
    obtain ⟨write, member, same⟩ := List.mem_map.1 last
    rw [← Act.mem_writes_iff]
    cases write with
    | deleteProject id =>
      cases same
      exact member
    | _ => cases same
  have extended : after.session.trace = reached.session.trace ++ after.session.trace := by
    rw [silent, List.nil_append]
  have restored := (runCalls_restored MemoryIndex.storage hosting faithful_hosting unaddable rfl
    [.delete "o/p"]).2 Scene.setup "o/p" "o/p" after
    (.store (.refused ["disk full"])) after.session.trace ⟨.createFile, "o/p/B.txt"⟩
    (.refused ["disk full"]) (by decide +kernel) absent ended extended failed (.inr rfl)
  exact ⟨after, rfl, restored.2 (.inr removed)⟩

end Sync

end SourceIndex
