import SourceIndex.Proofs.Progress
import SourceIndex.Proofs.Sync.Requests
import SourceIndex.Proofs.Sync.Visits

/-!
# What a sync reports

A sync reports that it looks the project up, that it brings the working copy up to date, that it
extracts the working copy if it imports the project, then one file write after another, and that it
is finished (`Sync.phases`). How many writes there are is known once the plan is made, or once the
project is found not to be indexed (`Sync.Scope`). Wherever a sync ends early, it has reported a
front of this (`Sync.Narrates`), and it has reported a write exactly for each write of a file that
was done (`Run.Tells`); the writes of the project itself are not reported.

Main statement: the reports of a sync are a front of its phases, and they are all of them exactly if
it succeeds; as dots they are then `min 5 t` dots and a line end, where `t` is the number of planned
writes (`Sync.syncProject_progress`).
-/

set_option autoImplicit false

namespace SourceIndex

open Fallible

variable {ε ι α β : Type}

/-! ## Reports and writes -/

/-- The write is of a file and not of a project. -/
def Write.isOfFile : Write → Bool
  | .createFile _ | .updateFile _ | .deleteFile _ => true
  | .createProject _ | .deleteProject _ => false

/-- The event reports a write. -/
def Event.isWriting : Event → Bool
  | .writing _ _ _ => true
  | _ => false

/-- An act that is neither a report nor a write. -/
def Act.IsSilent (act : Act) : Prop :=
  act.event? = none ∧ act.write? = none

/-- From one run to the next these events were reported in order, and as many files were written as
were reported. -/
def Run.Tells (events : List Event) (before after : Run ε ι) : Prop :=
  ∃ acts, after.session.trace = before.session.trace ++ acts ∧
    acts.filterMap Act.event? = events ∧
      (acts.filterMap Act.write?).countP Write.isOfFile = events.countP Event.isWriting

namespace Run.Tells

variable {backend : Backend ι} {before between after : Run ε ι} {events others : List Event}

theorem refl (run : Run ε ι) : Tells [] run run :=
  ⟨[], (List.append_nil _).symm, rfl, rfl⟩

theorem trans (first : Tells events before between) (second : Tells others between after) :
    Tells (events ++ others) before after := by
  obtain ⟨acts, extended, told, counted⟩ := first
  obtain ⟨more, further, toldToo, countedToo⟩ := second
  refine ⟨acts ++ more, by rw [further, extended, List.append_assoc], ?_, ?_⟩
  · rw [List.filterMap_append, told, toldToo]
  · rw [List.filterMap_append, List.countP_append, List.countP_append, counted, countedToo]

instance : IsPreorder (Run ε ι) (Tells []) where
  refl := refl
  trans _ _ _ := trans

theorem of_adds (adds : Run.Adds Act.IsSilent before after) : Tells [] before after := by
  obtain ⟨-, acts, extended, silent⟩ := adds
  refine ⟨acts, extended, ?_, ?_⟩
  · exact List.filterMap_eq_nil_iff.2 fun act member => (silent act member).1
  · rw [List.filterMap_eq_nil_iff.2 fun act member => (silent act member).2]
    rfl

/-- The failure of an operation is not reported. -/
theorem of_failed {operation : Operation} {cause : StoreError}
    (failed : Run.Failed operation cause before after) : Tells [] before after :=
  .of_adds (.of_failed ⟨rfl, rfl⟩ failed)

/-- A write of a project is not reported. -/
theorem of_wrote {write : Write} (unfiled : write.isOfFile = false)
    (extended : after.session.trace = before.session.trace ++ [.wrote write]) :
    Tells [] before after := by
  refine ⟨[.wrote write], extended, rfl, ?_⟩
  change [write].countP Write.isOfFile = 0
  rw [List.countP_singleton, unfiled]
  rfl

end Run.Tells

namespace Sync

open Progress

variable {team : Collaborators ε} {backend : Backend ι} {setup : Setup} {projectId : String}

theorem isOfFile_write (write : FileWrite) : write.write.isOfFile = true := by
  cases write <;> rfl

/-- The reports of writes in order are numbered. -/
theorem events_actsOf (projectId : String) (total count : Nat) (writes : List FileWrite) :
    (actsOf projectId total count writes).filterMap Act.event? =
      (List.range' (count + 1) writes.length).map fun number => .writing projectId number total := by
  induction writes generalizing count with
  | nil => rfl
  | cons write rest ih =>
    have later := ih (count + 1)
    rw [List.length_cons, List.range'_succ, List.map_cons, ← later]
    rfl

theorem events_actsOf_zero (projectId : String) (total : Nat) (writes : List FileWrite) :
    (actsOf projectId total 0 writes).filterMap Act.event? =
      writings projectId total writes.length := by
  rw [events_actsOf, writings, List.range'_eq_map_range, List.map_map]
  refine List.map_congr_left fun before _ => ?_
  simp [Nat.add_comm]

theorem countP_isWriting_writings (projectId : String) (total count : Nat) :
    (writings projectId total count).countP Event.isWriting = count := by
  have all : ∀ event ∈ writings projectId total count, event.isWriting = true := by
    intro event member
    obtain ⟨before, -, rfl⟩ := List.mem_map.1 member
    rfl
  rw [List.countP_eq_length.2 all, writings, List.length_map, List.length_range]

theorem tells_performed {total : Nat} {writes : List FileWrite} {before after : Run ε ι}
    (performed : Performed backend projectId total 0 writes before after) :
    Run.Tells (writings projectId total writes.length) before after := by
  refine ⟨_, performed.trace, events_actsOf_zero projectId total writes, ?_⟩
  have all : ∀ write ∈ writes.map FileWrite.write, write.isOfFile = true := by
    intro write member
    obtain ⟨source, -, rfl⟩ := List.mem_map.1 member
    exact isOfFile_write source
  rw [writes_actsOf, countP_isWriting_writings, List.countP_eq_length.2 all, List.length_map]

theorem writings_prefix (projectId : String) (total : Nat) {count more : Nat} (le : count ≤ more) :
    writings projectId total count <+: writings projectId total more := by
  obtain ⟨rest, rfl⟩ := Nat.exists_eq_add_of_le le
  induction rest with
  | zero => exact List.prefix_rfl
  | succ rest ih =>
    rw [← Nat.add_assoc, writings_succ]
    exact (ih (Nat.le_add_right _ _)).trans (List.prefix_append _ _)

/-! ## Steps that report in order -/

/-- However the step ends, it has reported a front of these events, and all of them if it ends
well. -/
def Narrates (step : Sync ε ι α) (run : Run ε ι) (whole : List Event) : Prop :=
  ∃ events, Run.Tells events run (step run).2 ∧ events <+: whole ∧
    ∀ value, (step run).1 = .ok value → events = whole

namespace Narrates

variable {step : Sync ε ι α} {next : α → Sync ε ι β} {run : Run ε ι} {whole rest : List Event}

theorem of_silent (silent : Keeps (Run.Tells []) step) : Narrates step run [] :=
  ⟨[], silent run, List.prefix_rfl, fun _ _ => rfl⟩

theorem report {event : Event} (unwritten : event.isWriting = false) :
    Narrates (report event : Sync ε ι Unit) run [event] := by
  refine ⟨[event], ⟨[.reported event], rfl, rfl, ?_⟩, List.prefix_rfl, fun _ _ => rfl⟩
  rw [List.countP_singleton, unwritten]
  rfl

/-- What a step reports comes before what is reported after it. -/
theorem bind (first : Narrates step run whole)
    (second : ∀ value between, step run = (.ok value, between) →
      Narrates (next value) between rest) :
    Narrates (step >>= next) run (whole ++ rest) := by
  obtain ⟨events, tells, front, all⟩ := first
  rcases ended : step run with ⟨error | value, between⟩
  · rw [ended] at tells
    refine ⟨events, ?_, front.trans (List.prefix_append _ _), ?_⟩
    · rw [bind_apply_of_error ended]
      exact tells
    · rw [bind_apply_of_error ended]
      nofun
  · rw [ended] at tells all
    obtain ⟨others, tellsToo, frontToo, allToo⟩ := second value between ended
    obtain rfl : events = whole := all value rfl
    refine ⟨events ++ others, ?_, (List.prefix_append_right_inj _).2 frontToo, ?_⟩
    · rw [bind_apply_of_ok ended]
      exact tells.trans tellsToo
    · rw [bind_apply_of_ok ended]
      intro result done
      rw [allToo result done]

/-- A step that reports nothing may come first. -/
theorem after (silent : Keeps (Run.Tells []) step)
    (later : ∀ value between, step run = (.ok value, between) →
      Narrates (next value) between whole) :
    Narrates (step >>= next) run whole :=
  bind (of_silent silent) later

/-- A step that reports nothing may come last. -/
theorem before (first : Narrates step run whole)
    (silent : ∀ value, Keeps (Run.Tells []) (next value)) :
    Narrates (step >>= next) run whole := by
  rw [← List.append_nil whole]
  exact first.bind fun value between _ => of_silent (silent value)

/-- Undoing a step that failed is not reported. -/
theorem orUndo {undo : Sync ε ι β} (first : Narrates step run whole)
    (silent : Keeps (Run.Tells []) undo) : Narrates (orUndo step undo) run whole := by
  obtain ⟨events, tells, front, all⟩ := first
  rcases ended : step run with ⟨error | value, between⟩
  · rw [ended] at tells
    have undone : Sync.orUndo step undo run = (.error error, (undo between).2) := by
      rw [Sync.orUndo, ended]
    refine ⟨events, ?_, front, ?_⟩
    · rw [undone, ← List.append_nil events]
      exact tells.trans (silent between)
    · rw [undone]
      nofun
  · have done : Sync.orUndo step undo run = step run := by
      rw [Sync.orUndo, ended]
    rw [← done] at tells all
    exact ⟨events, tells, front, all⟩

/-- Writes report as many of them as are done. -/
theorem performAll (total : Nat) (writes : List FileWrite) :
    Narrates (performAll team backend projectId total 0 writes) run
      (writings projectId total writes.length) := by
  rcases ended : Sync.performAll team backend projectId total 0 writes run with
    ⟨error | value, last⟩
  · obtain ⟨done, culprit, others, cause, between, rfl, -, performed, failed⟩ :=
      performAll_eq_error ended
    refine ⟨writings projectId total done.length, ?_, ?_, ?_⟩
    · rw [ended, ← List.append_nil (writings _ _ _)]
      exact (tells_performed performed).trans (.of_failed failed)
    · exact writings_prefix projectId total (by simp)
    · rw [ended]
      nofun
  · refine ⟨writings projectId total writes.length, ?_, List.prefix_rfl, fun _ _ => rfl⟩
    rw [ended]
    exact tells_performed (performAll_eq_ok ended)

end Narrates

/-! ## Steps that report nothing -/

theorem silent_of_adds {step : Sync ε ι α} (adds : Keeps (Run.Adds Act.IsSilent) step) :
    Keeps (Run.Tells []) step :=
  fun run => .of_adds (adds run)

theorem silent_work {task : Work ε α} (adds : Keeps (Session.Adds Act.IsSilent) task) :
    Keeps (Run.Tells []) (work task : Sync ε ι α) := by
  intro run
  unfold work
  split
  · next value session done => exact .of_adds ⟨rfl, adds.ok done⟩
  · next halt session halted => exact .of_adds ⟨rfl, adds.error halted⟩

theorem silent_query (operation : Operation) (read : ι → Except StoreError α) :
    Keeps (Run.Tells []) (query team operation read : Sync ε ι α) :=
  silent_of_adds (adds_query (fun _ => ⟨rfl, rfl⟩) read)

/-- A write of a project is not reported, done or not. -/
theorem silent_commit {write : Write} (unfiled : write.isOfFile = false)
    (change : ι → Except StoreError (α × ι)) :
    Keeps (Run.Tells []) (commit team write change : Sync ε ι α) := by
  intro run
  rcases ended : commit team write change run with ⟨error | value, after⟩
  · obtain ⟨cause, -, failed⟩ := commit_eq_error ended
    exact .of_failed failed
  · exact .of_wrote unfiled (commit_eq_ok ended).2

theorem pervasive_silent (team : Collaborators ε) :
    Extraction.Pervasive team fun (α : Type) (task : Work ε α) =>
      Keeps (Session.Adds Act.IsSilent) task :=
  Extraction.pervasive_adds team (fun _ _ => ⟨rfl, rfl⟩) fun _ => ⟨rfl, rfl⟩

/-! ## The phases of a sync -/

/-- There is no working copy when the project was looked up. -/
def clones (team : Collaborators ε) (setup : Setup) (address projectId : String)
    (run : Run ε ι) : Bool :=
  !team.pathExists (Path.join (setup.localPath projectId) ".git")
    (team.resolve address run.session.world).2

/-- What a sync reports before it is finished. -/
def steps (projectId : String) (cloning imports : Bool) (total : Nat) : List Event :=
  [.resolving projectId, .mirroring projectId cloning] ++
    ((if imports then [.extracting projectId] else []) ++ writings projectId total total)

/-- What a sync reports: that it looks the project up and brings the working copy up to date, that
it extracts the working copy if it imports the project, every write, and that it is finished. -/
def phases (projectId : String) (cloning imports : Bool) (total : Nat) : List Event :=
  steps projectId cloning imports total ++ [.finished projectId]

/-- What a sync has to do: whether it imports the project, and how many writes of files are
planned. -/
inductive Scope (team : Collaborators ε) (backend : Backend ι) (setup : Setup) (address : String)
    (run : Run ε ι) : Bool → Nat → Prop where
  /-- A project that is not indexed is imported with every listed file. -/
  | imported {id : String} {remote : RemoteProject} {world : ε}
      (surveyed : Surveyed team backend setup address run id remote false world) :
    Scope team backend setup address run true remote.files.length
  | reconciled {id : String} {plan : Plan} {world : ε}
      (scheduled : Scheduled team backend setup address run id plan world) :
    Scope team backend setup address run false plan.writeCount
  /-- The sync ends before it gets to a plan or to an import. -/
  | unplanned (unplanned : ∀ id plan world, ¬Scheduled team backend setup address run id plan world)
      (unimported : ∀ id remote world,
        ¬Surveyed team backend setup address run id remote false world) :
    Scope team backend setup address run false 0

section

variable {address : String} {run after : Run ε ι} {remote : RemoteProject}

/-- There is one scope of a sync. -/
theorem Scope.unique {imports importsToo : Bool} {total other : Nat}
    (first : Scope team backend setup address run imports total)
    (second : Scope team backend setup address run importsToo other) :
    importsToo = imports ∧ other = total := by
  cases first with
  | imported surveyed =>
    cases second with
    | imported surveyed' =>
      obtain ⟨-, rfl, -, -⟩ := surveyed.unique surveyed'
      exact ⟨rfl, rfl⟩
    | reconciled scheduled => exact absurd surveyed scheduled.not_imported
    | unplanned _ unimported => exact absurd surveyed (unimported _ _ _)
  | reconciled scheduled =>
    cases second with
    | imported surveyed => exact absurd surveyed scheduled.not_imported
    | reconciled scheduled' =>
      obtain ⟨-, rfl, -⟩ := scheduled.unique scheduled'
      exact ⟨rfl, rfl⟩
    | unplanned unplanned => exact absurd scheduled (unplanned _ _ _)
  | unplanned unplanned unimported =>
    cases second with
    | imported surveyed => exact absurd surveyed (unimported _ _ _)
    | reconciled scheduled => exact absurd scheduled (unplanned _ _ _)
    | unplanned => exact ⟨rfl, rfl⟩

theorem world_of_resolveProject
    (looked : resolveProject team address projectId run = (.ok remote, after)) :
    after.session.world = (team.resolve address run.session.world).2 := by
  obtain ⟨found, between, asked, looked⟩ := bind_eq_ok_iff.1 looked
  have answered : between.session.world = (team.resolve address run.session.world).2 := by
    unfold resolve at asked
    dsimp only at asked
    split at asked
    · cases asked
      rfl
    · cases asked
  cases found with
  | none => exact absurd looked throw_ne_ok
  | some there =>
    obtain ⟨-, rfl⟩ := pure_eq_ok_iff.1 looked
    exact answered

theorem silent_resolveProject :
    Keeps (Run.Tells []) (resolveProject team address projectId : Sync ε ι RemoteProject) := by
  refine Keeps.composable.bind (silent_of_adds (adds_resolve address)) fun found _ => ?_
  cases found with
  | none => exact Keeps.composable.throw _
  | some remote => exact Keeps.composable.pure remote

theorem survey_narrates (spelled : Address.projectId? address = some projectId) :
    Narrates (survey team backend setup address) run
      [.resolving projectId, .mirroring projectId (clones team setup address projectId run)] := by
  refine .after (composable_projectIdOf Keeps.composable address) fun named here naming => ?_
  obtain ⟨same, rfl⟩ := projectIdOf_eq_ok naming
  obtain rfl : projectId = named := Option.some.inj (spelled.symm.trans same)
  change Narrates _ _ ([.resolving projectId] ++ [_])
  refine .bind (.report rfl) fun _ announced reported => ?_
  cases reported
  refine .after silent_resolveProject fun remote found looked => ?_
  refine .after (silent_of_adds (adds_hasWorkingCopy _)) fun present _ visited => ?_
  have cloning : (!present) = clones team setup address projectId here := by
    cases visited
    rw [clones, world_of_resolveProject looked]
    rfl
  rw [← cloning]
  refine .before (.report rfl) fun _ => ?_
  refine Keeps.composable.bind (silent_of_adds (adds_mirror ⟨rfl, rfl⟩)) fun _ _ => ?_
  exact Keeps.composable.bind (silent_query _ _) fun _ _ => Keeps.composable.pure _

/-! ## Reconciling and importing -/

variable {listing : List RemoteFile} {between : Run ε ι} {whole : List Event}

theorem writeCount_of_extracted {plan prepared : Plan} (extracted : plan.Extracted prepared) :
    (writesOf prepared).length = plan.writeCount ∧ prepared.writeCount = plan.writeCount := by
  obtain ⟨creates, updates, deletes, -⟩ := extracted
  constructor
  · simp [writesOf, Plan.writeCount, creates.length_eq, updates.length_eq, deletes, Nat.add_assoc]
  · rw [Plan.writeCount, Plan.writeCount, creates.length_eq, updates.length_eq, deletes]

theorem silent_preparedPlan :
    Keeps (Run.Tells []) (preparedPlan team backend setup projectId listing : Sync ε ι Plan) := by
  have loads : Keeps (Run.Tells []) (loadPlan team backend projectId listing : Sync ε ι Plan) :=
    Keeps.composable.bind (silent_query _ _) fun _ _ => Keeps.composable.pure _
  refine Keeps.composable.bind loads fun plan _ => ?_
  split
  · refine silent_work (composable_preparePlan Keeps.composable fun file _ => ?_)
    exact (pervasive_silent team).enrich _ _ _ _
  · exact Keeps.composable.pure plan

/-- A reconciliation reports the writes of the plan that is made for the listing. -/
theorem reconcile_narrates {hashes : Hashes}
    (answered : backend.fileHashes run.index projectId = .ok hashes) :
    Narrates (reconcile team backend setup projectId listing) run
      (writings projectId (Plan.make projectId listing hashes).writeCount
        (Plan.make projectId listing hashes).writeCount) := by
  refine .after silent_preparedPlan fun planned between prepared => ?_
  obtain ⟨found, answeredToo, extracted⟩ := preparedPlan_eq_ok prepared
  cases answered.symm.trans answeredToo
  obtain ⟨many, total⟩ := writeCount_of_extracted extracted
  refine .before ?_ fun _ => Keeps.composable.pure _
  have performs : Narrates (performAll team backend projectId planned.writeCount 0
      (writesOf planned)) between _ := .performAll planned.writeCount (writesOf planned)
  rw [many, total] at performs
  rw [total]
  exact performs

/-- A reconciliation for which the index does not give the hashes reports nothing. -/
theorem reconcile_unreported {error : SyncError}
    (unanswered : fileHashes team backend projectId run = (.error error, after)) :
    Narrates (reconcile team backend setup projectId listing) run whole := by
  have failed : reconcile team backend setup projectId listing run = (.error error, after) :=
    bind_apply_of_error (bind_apply_of_error (bind_apply_of_error unanswered _) _) _
  refine ⟨[], ?_, List.nil_prefix, ?_⟩
  · rw [failed]
    exact (silent_query _ _).error unanswered
  · rw [failed]
    nofun

/-- A first import reports the extraction, and then the writes of the listed files. -/
theorem firstImport_narrates (remote : RemoteProject) :
    Narrates (firstImport team backend setup projectId remote) run
      ([.extracting projectId] ++
        writings projectId remote.files.length remote.files.length) := by
  have extracts : Narrates (importedRecords team setup projectId remote.files) run
      [.extracting projectId] := by
    refine .before (.report rfl) fun _ => ?_
    have extracting : Keeps (Session.Adds Act.IsSilent)
        (extractProject team setup projectId remote.files) :=
      visiting_extractProject ((pervasive_silent team).visiting _ _)
    refine Keeps.composable.bind (silent_work extracting) fun extracted _ => ?_
    cases extracted with
    | none => exact Keeps.composable.throw _
    | some files =>
      dsimp only
      split
      · exact Keeps.composable.throw _
      · exact Keeps.composable.pure files
  refine .bind extracts fun files between imported => ?_
  have many : files.length = remote.files.length := by
    rw [← (importedRecords_eq_ok imported).length_eq, List.length_map]
  refine .before (.after (silent_commit rfl _) fun _ created creation => ?_) fun _ =>
    Keeps.composable.pure _
  refine .orUndo ?_ (silent_commit rfl _)
  have performs : Narrates (performAll team backend projectId files.length 0
      (files.map .create)) created _ := .performAll files.length (files.map .create)
  rw [List.length_map, many] at performs
  rw [many]
  exact performs

/-- What a sync does with a project that was found is within its scope. -/
theorem settle_narrates {indexed : Bool}
    (surveyed : Surveyed team backend setup address run projectId remote indexed
      between.session.world) (same : between.index = run.index) :
    ∃ imports total, Scope team backend setup address run imports total ∧
      Narrates (settle team backend setup projectId remote indexed) between
        ((if imports then [.extracting projectId] else []) ++ writings projectId total total) := by
  cases indexed with
  | false =>
    exact ⟨true, remote.files.length, .imported surveyed, firstImport_narrates remote⟩
  | true =>
    rcases asked : fileHashes team backend projectId between with ⟨error | hashes, last⟩
    · have unimported : ∀ id other world,
          ¬Surveyed team backend setup address run id other false world := by
        intro id other world imported
        cases (surveyed.unique imported).2.2.1
      refine ⟨false, 0, .unplanned (fun _ _ _ => surveyed.not_scheduled same asked) unimported, ?_⟩
      exact .before (reconcile_unreported asked) fun _ => Keeps.composable.pure _
    · have answered := (query_eq_ok asked).1
      have narrates : Narrates (reconcile team backend setup projectId remote.files) between _ :=
        reconcile_narrates answered
      rw [same] at answered
      have scheduled := Scheduled.intro surveyed (permitted_of_query asked) answered
      exact ⟨false, _, .reconciled scheduled, .before narrates fun _ => Keeps.composable.pure _⟩

/-- A sync up to the report that it is finished. -/
def untilFinished (team : Collaborators ε) (backend : Backend ι) (setup : Setup)
    (address : String) : Sync ε ι Outcome := do
  let (projectId, remote, indexed) ← survey team backend setup address
  settle team backend setup projectId remote indexed

theorem syncProject_of_error {error : SyncError}
    (failed : untilFinished team backend setup address run = (.error error, after)) :
    syncProject team backend setup address run = (.error error, after) := by
  rcases bind_eq_error_iff.1 failed with
    unsurveyed | ⟨⟨id, remote, indexed⟩, between, surveying, unsettled⟩
  · exact bind_apply_of_error unsurveyed _
  · rw [syncProject, bind_apply_of_ok surveying]
    exact bind_apply_of_error unsettled _

theorem syncProject_of_ok {outcome : Outcome}
    (spelled : Address.projectId? address = some projectId)
    (done : untilFinished team backend setup address run = (.ok outcome, after)) :
    syncProject team backend setup address run =
      (.ok outcome, onSession (·.record (.reported (.finished projectId))) after) := by
  obtain ⟨⟨id, remote, indexed⟩, between, surveying, settled⟩ := bind_eq_ok_iff.1 done
  obtain rfl : projectId = id :=
    Option.some.inj (spelled.symm.trans (survey_eq_ok surveying).1)
  rw [syncProject, bind_apply_of_ok surveying]
  exact bind_apply_of_ok settled _

/-- A sync reports what is within its scope before it is finished. -/
theorem exists_scope (team : Collaborators ε) (backend : Backend ι) (setup : Setup)
    (run : Run ε ι) (spelled : Address.projectId? address = some projectId) :
    ∃ imports total, Scope team backend setup address run imports total ∧
      Narrates (untilFinished team backend setup address) run
        (steps projectId (clones team setup address projectId run) imports total) := by
  have narrates : Narrates (survey team backend setup address) run _ := survey_narrates spelled
  rcases surveying : survey team backend setup address run with
    ⟨error | ⟨id, remote, indexed⟩, between⟩
  · have unsurveyed : ∀ id remote indexed world,
        ¬Surveyed team backend setup address run id remote indexed world :=
      fun _ _ _ _ surveyed => surveyed.survey_ne_error surveying
    refine ⟨false, 0, .unplanned ?_ fun _ _ _ => unsurveyed _ _ _ _, narrates.bind ?_⟩
    · rintro id plan world ⟨surveyed, -, -⟩
      exact unsurveyed _ _ _ _ surveyed
    · intro value last done
      rw [surveying] at done
      cases done
  · have surveyed := surveyed_of_survey surveying
    have same := (survey_eq_ok surveying).2.2.2
    obtain rfl : projectId = id :=
      Option.some.inj (spelled.symm.trans (survey_eq_ok surveying).1)
    obtain ⟨imports, total, scope, settles⟩ := settle_narrates surveyed same
    refine ⟨imports, total, scope, narrates.bind ?_⟩
    intro value last done
    rw [surveying] at done
    cases done
    exact settles

end

/-! ## The reports of a sync -/

/-- What is reported before a sync is finished is not that it is finished. -/
theorem finished_notMem_steps (projectId : String) (cloning imports : Bool) (total : Nat) :
    .finished projectId ∉ steps projectId cloning imports total := by
  have unwritten : .finished projectId ∉ writings projectId total total := by
    intro member
    obtain ⟨before, -, same⟩ := List.mem_map.1 member
    cases same
  cases imports <;> simp [steps, unwritten]

/-- The phases of a sync as dots. -/
theorem textOfAll_phases (projectId : String) (cloning imports : Bool) (total : Nat) :
    textOfAll .dots (phases projectId cloning imports total) =
      String.ofList (List.replicate (min 5 total) '.') ++ "\n" := by
  have extracting : textOfAll .dots (if imports then [.extracting projectId] else []) = "" := by
    cases imports <;> rfl
  have start : textOfAll .dots [.resolving projectId, .mirroring projectId cloning] = "" := rfl
  have finish : textOfAll .dots [.finished projectId] = "\n" := rfl
  rw [phases, steps, textOfAll_append, textOfAll_append, textOfAll_append, start, extracting,
    textOfAll_writings_all, finish, String.empty_append, String.empty_append]

/-- **The reports of a sync are a front of its phases.** As many writes are reported as files were
written, and the sync reports that it is finished exactly if it succeeds. Then it has reported all
of its phases, as dots one for each fifth of the planned writes and a line end. -/
theorem syncProject_progress (team : Collaborators ε) (backend : Backend ι) (setup : Setup)
    (address : String) (run : Run ε ι) :
    ∃ acts, (syncProject team backend setup address run).2.session.trace =
        run.session.trace ++ acts ∧
      (Address.projectId? address = none → acts = [] ∧
        (syncProject team backend setup address run).1 = .error (.notFound address)) ∧
      ∀ projectId, Address.projectId? address = some projectId → ∃ imports total,
        Scope team backend setup address run imports total ∧
        (∀ importsToo other, Scope team backend setup address run importsToo other →
          importsToo = imports ∧ other = total) ∧
        acts.filterMap Act.event? <+:
          phases projectId (clones team setup address projectId run) imports total ∧
        (acts.filterMap Act.event?).countP Event.isWriting =
          (acts.filterMap Act.write?).countP Write.isOfFile ∧
        (.finished projectId ∈ acts.filterMap Act.event? ↔
          ∃ outcome, (syncProject team backend setup address run).1 = .ok outcome) ∧
        ∀ outcome, (syncProject team backend setup address run).1 = .ok outcome →
          acts.filterMap Act.event? =
              phases projectId (clones team setup address projectId run) imports total ∧
            textOfAll .dots (acts.filterMap Act.event?) =
              String.ofList (List.replicate (min 5 total) '.') ++ "\n" := by
  cases spelled : Address.projectId? address with
  | none =>
    rw [syncProject_unnamed spelled]
    exact ⟨[], (List.append_nil _).symm, fun _ => ⟨rfl, rfl⟩, nofun⟩
  | some projectId =>
    obtain ⟨imports, total, scope, events, tells, front, all⟩ :=
      exists_scope team backend setup run spelled
    rcases ended : untilFinished team backend setup address run with ⟨error | outcome, after⟩
    · rw [syncProject_of_error ended]
      rw [ended] at tells
      obtain ⟨acts, extended, rfl, counted⟩ := tells
      refine ⟨acts, extended, nofun, ?_⟩
      rintro _ ⟨⟩
      refine ⟨imports, total, scope, fun _ _ => scope.unique,
        front.trans (List.prefix_append _ _), counted.symm, ?_, nofun⟩
      refine iff_of_false (fun member => ?_) nofun
      exact finished_notMem_steps _ _ _ _ (front.subset member)
    · rw [syncProject_of_ok spelled ended]
      rw [ended] at tells all
      obtain rfl := all outcome rfl
      obtain ⟨acts, extended, told, counted⟩ := tells
      have events : (acts ++ [Act.reported (.finished projectId)]).filterMap Act.event? =
          phases projectId (clones team setup address projectId run) imports total := by
        rw [List.filterMap_append, told]
        rfl
      refine ⟨acts ++ [.reported (.finished projectId)], ?_, nofun, ?_⟩
      · change after.session.trace ++ [_] = _
        rw [extended, List.append_assoc]
      rintro _ ⟨⟩
      rw [events]
      refine ⟨imports, total, scope, fun _ _ => scope.unique, List.prefix_rfl, ?_, ?_,
        fun _ _ => ⟨rfl, ?_⟩⟩
      · rw [phases, List.countP_append, List.filterMap_append, ← counted]
        exact (congrArg (List.countP _) (List.append_nil _)).symm
      · exact iff_of_true (List.mem_append_right _ (List.mem_singleton_self _)) ⟨outcome, rfl⟩
      · exact textOfAll_phases _ _ _ _

open Rehearsal in
/-- One file is added and another one is updated, but the one that is gone cannot be deleted. -/
example :
    (syncProject Stage.team MemoryIndex.backend Scene.setup "o/p"
      (Scene.opening [Scene.entry "A.txt" "2", Scene.entry "B.txt" "1"] []
        [⟨.deleteFile, none, ["full"]⟩]
        (Scene.indexed [Scene.entry "A.txt" "1", Scene.entry "C.txt" "1"]))).2.session.trace.filterMap
        Act.event? =
      [.resolving "o/p", .mirroring "o/p" true, .writing "o/p" 1 3, .writing "o/p" 2 3] := by
  decide +kernel

end Sync

end SourceIndex
