import SourceIndex.Proofs.Extraction.Requests
import SourceIndex.Proofs.Sync.Production
import SourceIndex.Proofs.Sync.Repetition

/-!
# What a sync asks the parser

A sync asks the parser in its extraction only. If it gets to a plan, because the project is indexed,
it asks for the eligible files of the records to be created, and then for those of the records to be
updated. If it gets to an import, because the project is not indexed, it asks for the directory of
the working copy, and if this gives structures, for the eligible listed files that they do not
cover. It asks for each of these files once, and again if the first answer is empty, and it asks for
nothing more once a reply leaves the parser unusable. So the replies determine what it asks
(`Sync.Needed`, `Sync.Needed.unique`).

Main statement: a sync notes the requests that are needed in this sense, and no others
(`Sync.syncProject_requests`).
-/

set_option autoImplicit false

namespace SourceIndex.Sync

open Fallible Extraction

variable {ε ι α β : Type}

/-! ## How far a sync gets before extraction -/

section

variable (team : Collaborators ε) (backend : Backend ι) (setup : Setup) (address : String)
  (run : Run ε ι)

/-- The project of an address is found, its working copy is brought up to date, and the index says
whether it is indexed. -/
inductive Surveyed : String → RemoteProject → Bool → ε → Prop where
  | intro {id : String} {remote : RemoteProject} {indexed : Bool} {found mirrored world : ε}
      (spelled : Address.projectId? address = some id)
      (resolved : team.resolve address run.session.world = (.ok (some remote), found))
      (mirrors : team.mirror ⟨id, remote.project.gitUrl, setup.localPath id,
        remote.project.defaultBranch⟩ found = (.ok (), mirrored))
      (permitted : team.refuse ⟨.hasProject, id⟩ mirrored = (none, world))
      (answered : backend.hasProject run.index id = .ok indexed) :
      Surveyed id remote indexed world

/-- The project is indexed, and the plan is the one for its listing and its indexed files. -/
inductive Scheduled : String → Plan → ε → Prop where
  | intro {id : String} {remote : RemoteProject} {hashes : Hashes} {between world : ε}
      (surveyed : Surveyed team backend setup address run id remote true between)
      (permitted : team.refuse ⟨.fileHashes, id⟩ between = (none, world))
      (answered : backend.fileHashes run.index id = .ok hashes) :
      Scheduled id (Plan.make id remote.files hashes) world

/-- What a sync has to ask the parser, with the replies, and the end that it comes to if one of them
leaves the parser unusable. -/
inductive Needed : List Exchange → Option Halt → Prop where
  /-- The sync ends before it gets to extraction. -/
  | nothing
      (unplanned : ∀ id plan world, ¬Scheduled team backend setup address run id plan world)
      (unimported : ∀ id remote world,
        ¬Surveyed team backend setup address run id remote false world) :
      Needed [] none
  /-- An indexed project is reconciled: the files to be created, and then those to be updated. -/
  | reconciled {id : String} {plan : Plan} {world last : ε} {exchanges : List Exchange}
      {halt : Option Halt} (scheduled : Scheduled team backend setup address run id plan world)
      (about : AboutFiles (wantedBelow setup.policy [] (setup.localPath id)
        (plan.toCreate ++ plan.toUpdate)) exchanges halt)
      (talk : team.Converses world exchanges last) :
      Needed exchanges halt
  /-- A new project is imported: its working copy. -/
  | imported {id : String} {remote : RemoteProject} {world last : ε} {exchanges : List Exchange}
      {halt : Option Halt}
      (surveyed : Surveyed team backend setup address run id remote false world)
      (about : AboutCopy setup.policy (setup.localPath id)
        (remote.files.map (FileRecord.ofRemote id)) exchanges halt)
      (talk : team.Converses world exchanges last) :
      Needed exchanges halt

end

variable {team : Collaborators ε} {backend : Backend ι} {setup : Setup} {address : String}
variable {run after : Run ε ι}

section

variable {id other : String} {remote another : RemoteProject} {indexed known : Bool}
variable {world last : ε}

/-- There is one course of a survey at most. -/
theorem Surveyed.unique (first : Surveyed team backend setup address run id remote indexed world)
    (second : Surveyed team backend setup address run other another known last) :
    id = other ∧ remote = another ∧ indexed = known ∧ world = last := by
  obtain ⟨spelled, resolved, mirrors, permitted, answered⟩ := first
  obtain ⟨spelled', resolved', mirrors', permitted', answered'⟩ := second
  cases spelled.symm.trans spelled'
  cases resolved.symm.trans resolved'
  cases mirrors.symm.trans mirrors'
  cases permitted.symm.trans permitted'
  cases answered.symm.trans answered'
  exact ⟨rfl, rfl, rfl, rfl⟩

theorem surveyed_of_survey
    (done : survey team backend setup address run = (.ok (id, remote, indexed), after)) :
    Surveyed team backend setup address run id remote indexed after.session.world := by
  obtain ⟨spelled, ⟨found, resolved⟩, answered, -⟩ := survey_eq_ok done
  obtain ⟨mirrored, mirrors, permitted⟩ := permitted_of_survey spelled resolved done
  exact .intro spelled resolved mirrors permitted answered

/-- A survey for which the parties answer as they should does not fail. -/
theorem Surveyed.survey_ne_error {error : SyncError}
    (surveyed : Surveyed team backend setup address run id remote indexed world) :
    survey team backend setup address run ≠ (.error error, after) := by
  intro failed
  obtain ⟨spelled, resolved, mirrors, permitted, answered⟩ := surveyed
  rcases survey_error_cases spelled resolved failed with
    ⟨chain, -, unmirrored⟩ | ⟨world, mirrors', ⟨chain, -, refusal⟩ | ⟨cause, -, unread⟩⟩
  · rw [mirrors] at unmirrored
    cases unmirrored
  · cases mirrors.symm.trans mirrors'
    rw [permitted] at refusal
    cases refusal
  · rw [answered] at unread
    cases unread

/-- There is one plan that a sync gets to at most. -/
theorem Scheduled.unique {plan scheme : Plan}
    (first : Scheduled team backend setup address run id plan world)
    (second : Scheduled team backend setup address run other scheme last) :
    id = other ∧ plan = scheme ∧ world = last := by
  obtain ⟨surveyed, permitted, answered⟩ := first
  obtain ⟨surveyed', permitted', answered'⟩ := second
  obtain ⟨rfl, rfl, -, rfl⟩ := surveyed.unique surveyed'
  cases permitted.symm.trans permitted'
  cases answered.symm.trans answered'
  exact ⟨rfl, rfl, rfl⟩

/-- An indexed project for which the index does not give the hashes gets no plan. -/
theorem Surveyed.not_scheduled {plan : Plan} {between : Run ε ι} {error : SyncError}
    (surveyed : Surveyed team backend setup address run id remote true between.session.world)
    (same : between.index = run.index)
    (unanswered : fileHashes team backend id between = (.error error, after)) :
    ¬Scheduled team backend setup address run other plan last := by
  rintro ⟨surveyed', permitted, answered⟩
  obtain ⟨rfl, rfl, -, rfl⟩ := surveyed.unique surveyed'
  rcases query_error_cases unanswered with ⟨chain, -, refusal⟩ | ⟨cause, -, unread⟩
  · rw [permitted] at refusal
    cases refusal
  · rw [same, answered] at unread
    cases unread

/-- A project that is reconciled is not imported. -/
theorem Scheduled.not_imported {plan : Plan}
    (scheduled : Scheduled team backend setup address run id plan world) :
    ¬Surveyed team backend setup address run other another false last := by
  intro imported
  obtain ⟨surveyed, -, -⟩ := scheduled
  cases (surveyed.unique imported).2.2.1

/-- What a sync has to ask is determined by the replies. -/
theorem Needed.unique {exchanges others : List Exchange} {halt reason : Option Halt}
    (first : Needed team backend setup address run exchanges halt)
    (second : Needed team backend setup address run others reason) :
    exchanges = others ∧ halt = reason := by
  cases first with
  | nothing unplanned unimported =>
    cases second with
    | nothing => exact ⟨rfl, rfl⟩
    | reconciled scheduled => exact absurd scheduled (unplanned _ _ _)
    | imported surveyed => exact absurd surveyed (unimported _ _ _)
  | reconciled scheduled about talk =>
    cases second with
    | nothing unplanned => exact absurd scheduled (unplanned _ _ _)
    | reconciled scheduled' about' again =>
      obtain ⟨rfl, rfl, rfl⟩ := scheduled.unique scheduled'
      exact about.unique about' talk again
    | imported surveyed => exact absurd surveyed scheduled.not_imported
  | imported surveyed about talk =>
    cases second with
    | nothing _ unimported => exact absurd surveyed (unimported _ _ _)
    | reconciled scheduled => exact absurd surveyed scheduled.not_imported
    | imported surveyed' about' again =>
      obtain ⟨rfl, rfl, -, rfl⟩ := surveyed.unique surveyed'
      exact about.unique about' talk again

end

/-! ## The requests of a step -/

/-- An act that is no request. -/
abbrev Unasked (act : Act) : Prop :=
  act.request? = none

theorem allowsAround_unasked : AllowsAround Unasked where
  reported _ := rfl
  mirrored _ := rfl
  failed _ _ := rfl

/-- The exchanges that a step notes, and the error that it fails with if one of them leaves the
parser unusable. -/
structure Asks (step : Sync ε ι α) (run : Run ε ι) (exchanges : List Exchange)
    (halt : Option Halt) : Prop where
  requested : run.session.Requested (step run).2.session (exchanges.map Exchange.request)
  halts : ∀ reason, halt = some reason → (step run).1 = .error (.ofHalt reason)

namespace Asks

variable {step : Sync ε ι α} {next : α → Sync ε ι β} {exchanges : List Exchange}
variable {halt : Option Halt} {between : Run ε ι} {value : α}

theorem of_leads (team : Collaborators ε) (silent : Keeps (Run.Leads team Unasked) step) :
    Asks step run [] none :=
  ⟨.of_adds (silent run).acts, nofun⟩

/-- What would follow a failed step notes nothing. -/
theorem of_error {error : SyncError} (failed : step run = (.error error, between))
    (silent : run.Leads team Unasked between) : Asks (step >>= next) run [] none := by
  refine ⟨?_, nofun⟩
  rw [bind_apply_of_error failed]
  exact .of_adds silent.acts

/-- What follows a step may be silent. -/
theorem bind (team : Collaborators ε) (first : Asks step run exchanges halt)
    (silent : ∀ value, Keeps (Run.Leads team Unasked) (next value)) :
    Asks (step >>= next) run exchanges halt := by
  obtain ⟨requested, halts⟩ := first
  rcases ended : step run with ⟨error | value, between⟩
  · rw [ended] at requested halts
    refine ⟨?_, fun reason halted => ?_⟩
    · rw [bind_apply_of_error ended]
      exact requested
    · rw [bind_apply_of_error ended]
      cases halts reason halted
      rfl
  · rw [ended] at requested halts
    refine ⟨?_, fun reason halted => nomatch halts reason halted⟩
    rw [bind_apply_of_ok ended, ← List.append_nil (exchanges.map Exchange.request)]
    exact requested.trans (.of_adds (silent value between).acts)

/-- What goes before a step may be silent. -/
theorem of_ok (done : step run = (.ok value, between)) (silent : run.Leads team Unasked between)
    (later : Asks (next value) between exchanges halt) :
    Asks (step >>= next) run exchanges halt := by
  obtain ⟨requested, halts⟩ := later
  rw [← bind_apply_of_ok done next] at requested halts
  refine ⟨?_, halts⟩
  rw [← List.nil_append (exchanges.map Exchange.request)]
  exact (Session.Requested.of_adds silent.acts).trans requested

/-- Work notes its exchanges, and its error is the error. -/
theorem work {task : Work ε α} (talks : run.session.Talks team exchanges (task run.session).2)
    (ends : ∀ reason, halt = some reason → (task run.session).1 = .error reason) :
    Asks (work task : Sync ε ι α) run exchanges halt := by
  rcases ended : task run.session with ⟨reason | value, session⟩
  · rw [ended] at talks ends
    have worked : Sync.work task run =
        (.error (.ofHalt reason), { run with session := session }) := by
      rw [Sync.work, ended]
    refine ⟨?_, fun other halted => ?_⟩
    · rw [worked]
      exact talks.requested
    · rw [worked]
      cases ends other halted
      rfl
  · rw [ended] at talks ends
    have worked : Sync.work task run = (.ok value, { run with session := session }) := by
      rw [Sync.work, ended]
    refine ⟨?_, fun other halted => nomatch ends other halted⟩
    rw [worked]
    exact talks.requested

end Asks

/-! ## The requests of a sync -/

variable {id : String}

/-- The records of a plan are extracted if there are any; if there are none, nothing is asked for
either way. -/
theorem asks_extracted (plan : Plan) (run : Run ε ι) :
    ∃ exchanges halt last,
      AboutFiles (wantedBelow setup.policy [] (setup.localPath id) (plan.toCreate ++ plan.toUpdate))
        exchanges halt ∧
      team.Converses run.session.world exchanges last ∧
      Asks (if plan.hasRecords then work (preparePlan (extractRecord team setup id) plan)
        else pure plan : Sync ε ι Plan) run exchanges halt := by
  by_cases records : plan.hasRecords
  · obtain ⟨exchanges, halt, about, talks, ends⟩ := asksFor_preparePlan plan run.session
    rw [if_pos records]
    exact ⟨exchanges, halt, _, about, talks.world, .work talks fun reason => (ends reason).2⟩
  · have nothing : plan.toCreate ++ plan.toUpdate = [] := by
      simpa [Plan.hasRecords] using records
    rw [if_neg records, nothing]
    exact ⟨[], none, _, .done, .done _, .of_leads team (Keeps.composable.pure plan)⟩

theorem unasked_apply (projectId : String) (plan : Plan) :
    Keeps (Run.Leads team Unasked) (apply team backend projectId plan : Sync ε ι Report) :=
  Keeps.composable.bind (leads_performAll allowsAround_unasked fun _ _ => rfl) fun _ _ =>
    Keeps.composable.pure _

section

variable {remote : RemoteProject} {between : Run ε ι}

/-- On an indexed project a sync gets to a plan or fails before that. -/
theorem preparedPlan_needed
    (surveyed : Surveyed team backend setup address run id remote true between.session.world)
    (same : between.index = run.index) :
    ∃ exchanges halt, Needed team backend setup address run exchanges halt ∧
      Asks (preparedPlan team backend setup id remote.files) between exchanges halt := by
  have loads : Keeps (Run.Leads team Unasked)
      (loadPlan team backend id remote.files : Sync ε ι Plan) :=
    Keeps.composable.bind (inquiring_leads allowsAround_unasked id).fileHashes fun _ _ =>
      Keeps.composable.pure _
  have unimported : ∀ other another world,
      ¬Surveyed team backend setup address run other another false world := by
    intro other another world imported
    cases (surveyed.unique imported).2.2.1
  rcases loaded : loadPlan team backend id remote.files between with ⟨error | plan, last⟩
  · refine ⟨[], none, .nothing ?_ unimported, .of_error loaded (loads.error loaded)⟩
    rcases bind_eq_error_iff.1 loaded with unasked | ⟨_, _, _, made⟩
    · exact fun _ _ _ => surveyed.not_scheduled same unasked
    · exact absurd made pure_ne_error
  · obtain ⟨hashes, _, asked, made⟩ := bind_eq_ok_iff.1 loaded
    obtain ⟨rfl, rfl⟩ := pure_eq_ok_iff.1 made
    have answered := (query_eq_ok asked).1
    rw [same] at answered
    have scheduled := Scheduled.intro surveyed (permitted_of_query asked) answered
    obtain ⟨exchanges, halt, _, about, talk, asks⟩ := asks_extracted _ _
    exact ⟨exchanges, halt, .reconciled scheduled about talk,
      .of_ok loaded (loads.ok loaded) asks⟩

/-- On a new project a sync gets to the directory of the working copy. -/
theorem importedRecords_needed
    (surveyed : Surveyed team backend setup address run id remote false between.session.world) :
    ∃ exchanges halt, Needed team backend setup address run exchanges halt ∧
      Asks (importedRecords team setup id remote.files) between exchanges halt := by
  have reports : Keeps (Run.Leads team Unasked) (report (.extracting id) : Sync ε ι Unit) :=
    leads_report rfl
  let announced : Run ε ι := onSession (·.record (.reported (.extracting id))) between
  have reported : report (.extracting id) between = (.ok (), announced) := rfl
  obtain ⟨exchanges, halt, about, talks, ends⟩ :=
    extractProject_asks remote.files announced.session
  refine ⟨exchanges, halt, .imported surveyed about talks.world,
    .of_ok reported (reports.ok reported) ((Asks.work talks ends).bind team fun extracted => ?_)⟩
  cases extracted with
  | none => exact Keeps.composable.throw _
  | some files =>
    dsimp only
    split
    · exact Keeps.composable.throw _
    · exact Keeps.composable.pure _

theorem settle_needed {indexed : Bool}
    (surveyed : Surveyed team backend setup address run id remote indexed between.session.world)
    (same : between.index = run.index) :
    ∃ exchanges halt, Needed team backend setup address run exchanges halt ∧
      Asks (settle team backend setup id remote indexed) between exchanges halt := by
  cases indexed with
  | true =>
    obtain ⟨exchanges, halt, needed, asks⟩ := preparedPlan_needed surveyed same
    have reconciles : Asks (reconcile team backend setup id remote.files) between exchanges halt :=
      asks.bind team (unasked_apply id)
    exact ⟨exchanges, halt, needed, reconciles.bind team fun _ => Keeps.composable.pure _⟩
  | false =>
    obtain ⟨exchanges, halt, needed, asks⟩ := importedRecords_needed surveyed
    refine ⟨exchanges, halt, needed, asks.bind team fun files => ?_⟩
    exact Keeps.composable.bind (leads_addProject allowsAround_unasked rfl (fun _ _ => rfl) rfl)
      fun _ _ => Keeps.composable.pure _

end

/-- **Exactly the needed requests.** A sync notes the requests that are needed as the parties
answer, in this order, and no others. If a reply leaves the parser unusable, it fails with that. No
other requests are needed. -/
theorem syncProject_requests (team : Collaborators ε) (backend : Backend ι) (setup : Setup)
    (address : String) (run : Run ε ι) :
    ∃ exchanges halt, Needed team backend setup address run exchanges halt ∧
      Asks (syncProject team backend setup address) run exchanges halt ∧
      ∀ others reason, Needed team backend setup address run others reason →
        others = exchanges ∧ reason = halt := by
  suffices noted : ∃ exchanges halt, Needed team backend setup address run exchanges halt ∧
      Asks (syncProject team backend setup address) run exchanges halt by
    obtain ⟨exchanges, halt, needed, asks⟩ := noted
    exact ⟨exchanges, halt, needed, asks, fun _ _ other => other.unique needed⟩
  have surveys : Keeps (Run.Leads team Unasked)
      (survey team backend setup address : Sync ε ι (String × RemoteProject × Bool)) :=
    composable_survey Keeps.composable (fun id _ => inquiring_leads allowsAround_unasked id) setup
  rcases ended : survey team backend setup address run with
    ⟨error | ⟨id, remote, indexed⟩, between⟩
  · have unsurveyed : ∀ id remote indexed world,
        ¬Surveyed team backend setup address run id remote indexed world :=
      fun _ _ _ _ surveyed => surveyed.survey_ne_error ended
    refine ⟨[], none, .nothing ?_ fun _ _ _ => unsurveyed _ _ _ _,
      .of_error ended (surveys.error ended)⟩
    rintro id plan world ⟨surveyed, -, -⟩
    exact unsurveyed _ _ _ _ surveyed
  · have surveyed := surveyed_of_survey ended
    obtain ⟨exchanges, halt, needed, asks⟩ :=
      settle_needed surveyed (survey_eq_ok ended).2.2.2
    refine ⟨exchanges, halt, needed,
      .of_ok ended (surveys.ok ended) (asks.bind team fun outcome => ?_)⟩
    exact Keeps.composable.bind (leads_report rfl) fun _ _ => Keeps.composable.pure _

open Rehearsal in
/-- `A.java` is unchanged, the first answer for `B.java` is empty, `C.txt` is no source file, and
the parser dies over `D.java`. -/
example :
    (syncProject Stage.team MemoryIndex.backend Scene.setup "o/p"
      (Scene.opening (["A.java", "B.java", "C.txt", "D.java", "E.java"].map (Scene.entry · "1"))
        [⟨.file, "/w/o/p/B.java", [.text "", .text "\x7b\x7d"]⟩,
          ⟨.file, "/w/o/p/D.java", [.crashed]⟩] []
        (Scene.indexed [Scene.entry "A.java" "1"]))).2.session.trace.filterMap Act.request? =
      [(.file, "/w/o/p/B.java"), (.file, "/w/o/p/B.java"), (.file, "/w/o/p/D.java")] := by
  decide +kernel

end SourceIndex.Sync
