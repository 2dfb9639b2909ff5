import SourceIndex.Proofs.Sync.Convergence

/-!
# A sync that is repeated

A sync that succeeds leaves the hashes of the listing in the index, whatever extraction made of the
files. A later sync that gets the same listing finds nothing to do then: its plan is empty, so that
it asks the parser nothing and writes nothing (`syncProject_of_listed`). It can still fail, but only
because the mirror does, or because the outside world refuses one of the two questions that it asks
the index (`Repeated`).

Main statement: what the later sync does and how it ends, after any sync that succeeded
(`syncProject_repeated`).
-/

set_option autoImplicit false

namespace SourceIndex

open Fallible Rehearsal

variable {ε ι ρ : Type} [Row ρ]

/-- The act is neither a write to the index nor a request to the parser. -/
def Act.IsQuiet (act : Act) : Prop :=
  act.attemptsWrite = false ∧ act.request? = none

namespace Sync

variable {team : Collaborators ε} {backend : Backend ι} {storage : Storage backend ρ}
variable {setup : Setup} {address projectId : String} {run after : Run ε ι}

/-- How a sync ends for which nothing is to be done, by what the parties do with it. The mirror is
called in a world, then the index is asked whether it has the project, and after that for the hashes
of the files. The mirror can fail, and each question be refused; otherwise no file was new, changed
or gone. -/
inductive Repeated (team : Collaborators ε) (call : MirrorCall) (world : ε) (count : Nat) :
    Except SyncError Outcome → Prop where
  | unmirrored {chain : Chain} (failed : (team.mirror call world).1 = .error chain) :
      Repeated team call world count (.error (.mirror chain))
  | unsurveyed {mirrored : ε} {chain : Chain} (mirrors : team.mirror call world = (.ok (), mirrored))
      (refusal : (team.refuse ⟨.hasProject, call.projectId⟩ mirrored).1 = some chain) :
      Repeated team call world count (.error (.store (.refused chain)))
  | unplanned {mirrored surveyed : ε} {chain : Chain}
      (mirrors : team.mirror call world = (.ok (), mirrored))
      (permitted : team.refuse ⟨.hasProject, call.projectId⟩ mirrored = (none, surveyed))
      (refusal : (team.refuse ⟨.fileHashes, call.projectId⟩ surveyed).1 = some chain) :
      Repeated team call world count (.error (.store (.refused chain)))
  | unchanged {mirrored surveyed : ε} (mirrors : team.mirror call world = (.ok (), mirrored))
      (permitted : team.refuse ⟨.hasProject, call.projectId⟩ mirrored = (none, surveyed))
      (answered : (team.refuse ⟨.fileHashes, call.projectId⟩ surveyed).1 = none) :
      Repeated team call world count (.ok (.reconciled ⟨0, 0, 0, count⟩))

/-! ## A sync for which nothing is to be done -/

theorem inquiring_quiet (team : Collaborators ε) (backend : Backend ι) (projectId : String) :
    Inquiring team backend projectId fun (α : Type) (step : Sync ε ι α) =>
      Keeps (Run.Adds Act.IsQuiet) step :=
  inquiring_adds team backend projectId (fun _ => ⟨rfl, rfl⟩) (fun _ => ⟨rfl, rfl⟩)
    fun _ _ reading => ⟨reading, rfl⟩

/-- A lookup gives what the hosting service answers. -/
theorem resolve_of_answered {result : Except Chain (Option RemoteProject)} {world : ε}
    (answered : team.resolve address run.session.world = (result, world)) :
    resolve team address run =
      (result.mapError .host, onSession (fun session => { session with world := world }) run) := by
  unfold resolve
  dsimp only
  rw [answered]
  cases result <;> rfl

/-- The survey of a project that is found comes down to bringing its working copy up to date and
asking whether it is indexed. -/
theorem survey_of_found (backend : Backend ι) (setup : Setup) {remote : RemoteProject} {world : ε}
    (spelled : Address.projectId? address = some projectId)
    (found : team.resolve address run.session.world = (.ok (some remote), world)) :
    ∃ ready : Run ε ι, ready.index = run.index ∧ ready.session.world = world ∧
      survey team backend setup address run = (do
        mirror team ⟨projectId, remote.project.gitUrl, setup.localPath projectId,
          remote.project.defaultBranch⟩
        let indexed ← hasProject team backend projectId
        pure (projectId, remote, indexed)) ready := by
  let announced : Run ε ι := onSession (·.record (.reported (.resolving projectId))) run
  let answered : Run ε ι := onSession (fun session => { session with world := world }) announced
  have resolving : resolve team address announced = (.ok (some remote), answered) :=
    resolve_of_answered (show team.resolve address announced.session.world = _ from found)
  have looking : resolveProject team address projectId announced = (.ok remote, answered) := by
    rw [resolveProject, bind_apply_of_ok resolving]
    rfl
  let present := team.pathExists (Path.join (setup.localPath projectId) ".git") world
  refine ⟨onSession (·.record (.reported (.mirroring projectId (!present)))) answered, rfl, rfl, ?_⟩
  rw [survey, bind_apply_of_ok (projectIdOf_of_spelled spelled)]
  exact bind_apply_of_ok looking _

/-- A survey of a project that is found can fail only by the mirror, or by the index after that. -/
theorem survey_error_cases {remote : RemoteProject} {world : ε} {error : SyncError}
    (spelled : Address.projectId? address = some projectId)
    (found : team.resolve address run.session.world = (.ok (some remote), world))
    (failed : survey team backend setup address run = (.error error, after)) :
    (∃ chain, error = .mirror chain ∧
        (team.mirror ⟨projectId, remote.project.gitUrl, setup.localPath projectId,
          remote.project.defaultBranch⟩ world).1 = .error chain) ∨
      ∃ mirrored,
        team.mirror ⟨projectId, remote.project.gitUrl, setup.localPath projectId,
          remote.project.defaultBranch⟩ world = (.ok (), mirrored) ∧
        ((∃ chain, error = .store (.refused chain) ∧
            (team.refuse ⟨.hasProject, projectId⟩ mirrored).1 = some chain) ∨
          ∃ cause, error = .store cause ∧
            backend.hasProject run.index projectId = .error cause) := by
  obtain ⟨ready, same, now, surveying⟩ := survey_of_found backend setup spelled found
  rw [surveying] at failed
  rcases bind_eq_error_iff.1 failed with unmirrored | ⟨_, mirrored, mirroring, failed⟩
  · unfold mirror at unmirrored
    dsimp only at unmirrored
    split at unmirrored
    · cases unmirrored
    · next chain answered =>
      cases unmirrored
      rw [now] at answered
      exact .inl ⟨chain, rfl, answered⟩
  · have mirrors := mirrored_of_mirror mirroring
    rw [now] at mirrors
    refine .inr ⟨_, mirrors, ?_⟩
    rcases bind_eq_error_iff.1 failed with unasked | ⟨_, asked, _, ended⟩
    · have kept := (((inquiring_quiet team backend projectId).mirror _).ok mirroring).index
      have failure := query_error_cases unasked
      rwa [kept, same] at failure
    · exact absurd ended pure_ne_error

/-- A survey that succeeds has brought the working copy up to date and was allowed to ask whether the
project is indexed. -/
theorem permitted_of_survey {remote known : RemoteProject} {world : ε} {id : String} {indexed : Bool}
    (spelled : Address.projectId? address = some projectId)
    (found : team.resolve address run.session.world = (.ok (some remote), world))
    (surveyed : survey team backend setup address run = (.ok (id, known, indexed), after)) :
    ∃ mirrored,
      team.mirror ⟨projectId, remote.project.gitUrl, setup.localPath projectId,
        remote.project.defaultBranch⟩ world = (.ok (), mirrored) ∧
        team.refuse ⟨.hasProject, projectId⟩ mirrored = (none, after.session.world) := by
  obtain ⟨ready, -, now, surveying⟩ := survey_of_found backend setup spelled found
  rw [surveying] at surveyed
  obtain ⟨_, mirrored, mirroring, surveyed⟩ := bind_eq_ok_iff.1 surveyed
  obtain ⟨_, asked, asking, ended⟩ := bind_eq_ok_iff.1 surveyed
  obtain ⟨-, rfl⟩ := pure_eq_ok_iff.1 ended
  have mirrors := mirrored_of_mirror mirroring
  rw [now] at mirrors
  exact ⟨_, mirrors, permitted_of_query asking⟩

theorem repeated_of_unsurveyed {remote : RemoteProject} {world : ε} {error : SyncError}
    {count : Nat} (opened : storage.IsOpen run.index)
    (spelled : Address.projectId? address = some projectId)
    (found : team.resolve address run.session.world = (.ok (some remote), world))
    (failed : survey team backend setup address run = (.error error, after)) :
    Repeated team ⟨projectId, remote.project.gitUrl, setup.localPath projectId,
      remote.project.defaultBranch⟩ world count (.error error) := by
  rcases survey_error_cases spelled found failed with
    ⟨chain, rfl, unmirrored⟩ | ⟨mirrored, mirrors, ⟨chain, rfl, refusal⟩ | ⟨cause, rfl, unread⟩⟩
  · exact .unmirrored unmirrored
  · exact .unsurveyed mirrors refusal
  · -- An open index answers.
    rw [storage.hasProject_eq_ok_iff.2 ⟨opened, rfl⟩] at unread
    cases unread

section

variable {listing : List RemoteFile}
  (opened : storage.IsOpen run.index)
  (listed : ((storage.holdings run.index).hashesOf projectId).entries.Perm
    (Holdings.listedHashes projectId listing))
include opened listed

/-- A reconciliation with the listing that is indexed does nothing. -/
theorem reconcile_of_listed {result : Except SyncError Report}
    (ended : reconcile team backend setup projectId listing run = (result, after)) :
    Run.Adds Act.IsQuiet run after ∧
      (result = .ok ⟨0, 0, 0, listing.length⟩ ∧
          (team.refuse ⟨.fileHashes, projectId⟩ run.session.world).1 = none ∨
        ∃ chain, result = .error (.store (.refused chain)) ∧
          (team.refuse ⟨.fileHashes, projectId⟩ run.session.world).1 = some chain) := by
  have answer : backend.fileHashes run.index projectId = .ok _ :=
    storage.fileHashes_eq_ok_iff.2 ⟨opened, rfl⟩
  rcases asking : fileHashes team backend projectId run with ⟨error | hashes, between⟩
  · have unloaded : loadPlan team backend projectId listing run = (.error error, between) :=
      bind_apply_of_error asking _
    rw [reconcile, preparedPlan, bind_apply_of_error (bind_apply_of_error unloaded _)] at ended
    cases ended
    refine ⟨((inquiring_quiet team backend projectId).fileHashes).error asking, .inr ?_⟩
    rcases query_error_cases asking with ⟨chain, rfl, refusal⟩ | ⟨cause, -, unread⟩
    · exact ⟨chain, rfl, refusal⟩
    · rw [answer] at unread
      cases unread
  · have known := (query_eq_ok asking).1
    rw [answer] at known
    cases known
    have loaded : loadPlan team backend projectId listing run =
        (.ok ⟨[], [], [], listing.length⟩, between) := by
      rw [loadPlan, bind_apply_of_ok asking, Plan.make_of_listed listed]
      rfl
    rw [reconcile, preparedPlan, bind_apply_of_ok ((bind_apply_of_ok loaded _).trans rfl)] at ended
    cases ended
    exact ⟨((inquiring_quiet team backend projectId).fileHashes).ok asking,
      .inl ⟨rfl, congrArg Prod.fst (permitted_of_query asking)⟩⟩

/-- A sync of an indexed project with the listing that is indexed does nothing. -/
theorem syncProject_of_listed {remote : RemoteProject} {world : ε}
    {result : Except SyncError Outcome} (same : remote.files = listing)
    (present : (storage.holdings run.index).projects.contains projectId = true)
    (spelled : Address.projectId? address = some projectId)
    (found : team.resolve address run.session.world = (.ok (some remote), world))
    (ended : syncProject team backend setup address run = (result, after)) :
    Run.Adds Act.IsQuiet run after ∧
      Repeated team ⟨projectId, remote.project.gitUrl, setup.localPath projectId,
        remote.project.defaultBranch⟩ world listing.length result := by
  subst same
  have quiet : Keeps (Run.Adds Act.IsQuiet) (survey team backend setup address) :=
    composable_survey Keeps.composable (fun id _ => inquiring_quiet team backend id) setup
  rcases bind_cases ended with
    ⟨error, unsurveyed, rfl⟩ | ⟨⟨id, known, indexed⟩, between, surveying, ended⟩
  · exact ⟨quiet.error unsurveyed, repeated_of_unsurveyed opened spelled found unsurveyed⟩
  have start := quiet.ok surveying
  obtain ⟨named, ⟨_, resolved⟩, answered, kept⟩ := survey_eq_ok surveying
  obtain ⟨mirrored, mirrors, permitted⟩ := permitted_of_survey spelled found surveying
  dsimp only at named resolved answered ended
  rw [spelled] at named
  rw [found] at resolved
  cases named
  cases resolved
  have flag : indexed = true := (storage.hasProject_eq_ok_iff.1 answered).2.trans present
  subst flag
  rw [← kept] at opened listed
  rcases reconciling : reconcile team backend setup projectId remote.files between with
    ⟨outcome, settled⟩
  obtain ⟨still, came⟩ := reconcile_of_listed opened listed reconciling
  have through := trans_of (Run.Adds Act.IsQuiet) start still
  rcases came with ⟨rfl, unrefused⟩ | ⟨chain, rfl, refusal⟩
  · -- The reconciliation succeeds, and the end is reported.
    cases (bind_apply_of_ok ((bind_apply_of_ok reconciling _).trans rfl) _).symm.trans ended
    exact ⟨trans_of (Run.Adds Act.IsQuiet) through
      (((inquiring_quiet team backend projectId).report _).ok rfl),
      .unchanged mirrors permitted unrefused⟩
  · cases (bind_apply_of_error (bind_apply_of_error reconciling _) _).symm.trans ended
    exact ⟨through, .unplanned mirrors permitted refusal⟩

end

/-! ## After a sync that succeeded -/

/-- A project is indexed after it was reconciled or imported. -/
theorem present_of_settle {remote : RemoteProject} {indexed : Bool} {outcome : Outcome}
    (named : remote.project.id = projectId)
    (answer : indexed = (storage.holdings run.index).projects.contains projectId)
    (settled : settle team backend setup projectId remote indexed run = (.ok outcome, after)) :
    (storage.holdings after.index).projects.contains projectId = true := by
  cases indexed with
  | true =>
    obtain ⟨report, between, reconciled, ended⟩ := bind_eq_ok_iff.1 settled
    obtain ⟨-, rfl⟩ := pure_eq_ok_iff.1 ended
    obtain ⟨planned, -, replayed, -⟩ := reconcile_eq_ok storage reconciled
    rw [(Holdings.entries_replay_writes replayed).1]
    exact answer.symm
  | false =>
    obtain ⟨files, -, replayed, -⟩ := firstImport_eq_ok storage settled
    rw [(Holdings.replay_additions replayed).1, Keyed.contains_put]
    exact .inl named.symm

/-- **A sync that is repeated changes nothing.** After a sync that succeeded, a later sync of the
same index that gets the same listing leaves the index as it is, attempts no write and asks the
parser nothing, whatever the parties do. Every listed file is unchanged for it, unless the mirror
fails or one of its two questions to the index is refused. -/
theorem syncProject_repeated {ε' : Type} (storage : Storage backend ρ) (team : Collaborators ε)
    (setup : Setup) (address projectId : String) (run after : Run ε ι) (outcome : Outcome)
    (remote : RemoteProject) (world : ε)
    (anchored : (storage.holdings run.index).Anchored)
    (spelled : Address.projectId? address = some projectId)
    (found : team.resolve address run.session.world = (.ok (some remote), world))
    (named : remote.project.id = projectId)
    (synced : syncProject team backend setup address run = (.ok outcome, after))
    (again : Collaborators ε') (setup' : Setup) (later last : Run ε' ι)
    (result : Except SyncError Outcome) (remote' : RemoteProject) (world' : ε')
    (kept : later.index = after.index)
    (refound : again.resolve address later.session.world = (.ok (some remote'), world'))
    (same : remote'.files = remote.files)
    (ended : syncProject again backend setup' address later = (result, last)) :
    last.index = later.index ∧
      (∃ acts, last.session.trace = later.session.trace ++ acts ∧
        ∀ act ∈ acts, act.attemptsWrite = false ∧ act.request? = none) ∧
      Repeated again ⟨projectId, remote'.project.gitUrl, setup'.localPath projectId,
        remote'.project.defaultBranch⟩ world' remote.files.length result := by
  obtain ⟨⟨id, known, indexed⟩, between, settled, surveyed, settling, final⟩ :=
    syncProject_eq_ok synced
  obtain ⟨called, ⟨_, resolved⟩, answered, unchanged⟩ := survey_eq_ok surveyed
  dsimp only at called resolved answered settling
  rw [spelled] at called
  rw [found] at resolved
  cases called
  cases resolved
  obtain ⟨opened, answer⟩ := storage.hasProject_eq_ok_iff.1 answered
  rw [← unchanged] at anchored answer opened
  have converged := converged_of_settle anchored answer settling
  have present : (storage.holdings settled.index).projects.contains projectId = true :=
    present_of_settle named answer settling
  have stillOpen := converged.isOpen opened
  have hashes := converged.hashes
  rw [← final, ← kept] at present stillOpen hashes
  obtain ⟨quiet, repeated⟩ :=
    syncProject_of_listed stillOpen hashes same present spelled refound ended
  exact ⟨quiet.index, quiet.session, repeated⟩

/-! ## Two second runs -/

/-- The listing of a project with a source file and another one. -/
def twoFiles : List RemoteFile :=
  [Scene.entry "A.java" "1", Scene.entry "B.txt" "1"]

/-- A project that is not indexed yet. The parser reads its source file. -/
def unimported : Run Stage MemoryIndex :=
  Scene.opening twoFiles
    [⟨.directory, "/w/o/p", [.text "\x7b\"/w/o/p/A.java\":\x7b\x7d\x7d"]⟩] [] MemoryIndex.empty

/-- The sync of a project on a stage. -/
def stagedSync (run : Run Stage MemoryIndex) :
    Except SyncError Outcome × Run Stage MemoryIndex :=
  syncProject Stage.team MemoryIndex.backend Scene.setup "o/p" run

/-- The mirror fails from now on. -/
def withoutMirror (stage : Stage) : Stage :=
  { stage with mirrorFailure := some ["git fetch failed"] }

/-- The parser dies over every request from now on, and the disk is empty. -/
def withoutParser (stage : Stage) : Stage :=
  { stage with
    disk := Disk.empty
    script := [⟨.directory, "/w/o/p", [.crashed]⟩, ⟨.file, "/w/o/p/A.java", [.crashed]⟩] }

/-- The index after the import, on another stage. -/
def reimporting (change : Stage → Stage) : Run Stage MemoryIndex :=
  ⟨Session.start (change unimported.session.world), (stagedSync unimported).2.index⟩

theorem stagedSync_unimported : (stagedSync unimported).1 = .ok (.imported 2 1) := by
  decide +kernel

/-- A second sync with the same listing fails if the mirror fails. -/
theorem syncProject_repeated_unmirrored :
    (stagedSync unimported).1 = .ok (.imported 2 1) ∧
      Stage.team.resolve "o/p" unimported.session.world =
        (.ok (some ⟨Scene.project, twoFiles⟩), unimported.session.world) ∧
      Stage.team.resolve "o/p" (reimporting withoutMirror).session.world =
        (.ok (some ⟨Scene.project, twoFiles⟩), (reimporting withoutMirror).session.world) ∧
      (stagedSync (reimporting withoutMirror)).1 = .error (.mirror ["git fetch failed"]) := by
  refine ⟨stagedSync_unimported, ?_, ?_, ?_⟩
  · rfl
  · rfl
  · decide +kernel

/-- A second sync does nothing although the parser dies and the disk is gone. -/
theorem syncProject_repeated_crashing :
    ∃ last, syncProject Scene.permitting MemoryIndex.backend Scene.setup "o/p"
        (reimporting withoutParser) = (.ok (.reconciled ⟨0, 0, 0, 2⟩), last) ∧
      last.index = (stagedSync unimported).2.index := by
  have imported := stagedSync_unimported
  have anchored : (MemoryIndex.storage.holdings unimported.index).Anchored := by
    intro row member
    cases member
  rcases first : stagedSync unimported with ⟨outcome, after⟩
  rw [first] at imported
  cases imported
  have kept : (reimporting withoutParser).index = after.index := by
    rw [reimporting, first]
  rcases second : syncProject Scene.permitting MemoryIndex.backend Scene.setup "o/p"
    (reimporting withoutParser) with ⟨result, last⟩
  obtain ⟨same, -, repeated⟩ := syncProject_repeated MemoryIndex.storage Stage.team Scene.setup
    "o/p" "o/p" unimported after (.imported 2 1) ⟨Scene.project, twoFiles⟩
    unimported.session.world anchored (by decide +kernel) rfl rfl first Scene.permitting Scene.setup
    (reimporting withoutParser) last result ⟨Scene.project, twoFiles⟩
    (reimporting withoutParser).session.world kept rfl rfl second
  cases repeated with
  | unmirrored failed => cases failed
  | unsurveyed mirrors refusal => cases refusal
  | unplanned mirrors permitted refusal => cases refusal
  | unchanged mirrors permitted answered => exact ⟨last, rfl, same.trans kept⟩

end Sync

end SourceIndex
