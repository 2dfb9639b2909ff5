import Mathlib.Data.List.Induction
import Mathlib.Logic.Relation
import SourceIndex.Proofs.Address
import SourceIndex.Proofs.Index.Records
import SourceIndex.Proofs.Sync.Rollback

/-!
# Where records come from

The world of the parties changes by their answers only, and each act is noted in the trace. So from
one session to a later one a chain of answers leads (`Session.Leads`), and all that a sync does is
done at sessions between that of its start and that of its end.

A record that a sync writes is that of a listed file, and it was extracted in that sync: alone, or
from the structures of the working copy, which were extracted in the same sync
(`ExtractedBetween`). This is so of the records of a plan (`preparedPlan_extracted`) and of those of
a first import (`importedRecords_extracted`).

Main statements: whatever a call writes into the index was extracted in that call
(`perform_extracts`), and after any calls from an empty index it holds the rows of records, of which
is so what the writes of every call keep (`records_runCalls`).
-/

set_option autoImplicit false

namespace SourceIndex

open Fallible

variable {ε ι α β : Type}

/-! ## Sessions that lead to others -/

/-- One answer of the parties changes their world. -/
inductive Collaborators.Turn (team : Collaborators ε) (world : ε) : ε → Prop where
  | resolved (address : String) : Turn team world (team.resolve address world).2
  | mirrored (call : MirrorCall) : Turn team world (team.mirror call world).2
  | asked (kind : RequestKind) (payload : String) : Turn team world (team.ask kind payload world).2
  | permitted (operation : Operation) : Turn team world (team.refuse operation world).2

/-- Answers of the parties lead from the world of one session to that of the next, and only acts of
some kind were added to the trace. -/
structure Session.Leads (team : Collaborators ε) (allowed : Act → Prop)
    (before after : Session ε) : Prop where
  world : Relation.ReflTransGen team.Turn before.world after.world
  acts : Session.Adds allowed before after

/-- The session of one run leads to that of the next. -/
abbrev Run.Leads (team : Collaborators ε) (allowed : Act → Prop) (before after : Run ε ι) : Prop :=
  before.session.Leads team allowed after.session

/-- One session leads to another, whatever is done in between. -/
abbrev Session.Reaches (team : Collaborators ε) (before after : Session ε) : Prop :=
  before.Leads team (fun _ => True) after

namespace Session.Leads

variable {team : Collaborators ε} {allowed : Act → Prop} {session : Session ε}

instance : IsPreorder (Session ε) (Session.Leads team allowed) where
  refl session := ⟨.refl, Session.Adds.refl session⟩
  trans _ _ _ earlier later :=
    ⟨earlier.world.trans later.world, earlier.acts.trans later.acts⟩

instance : IsPreorder (Run ε ι) (Run.Leads team allowed) where
  refl run := refl_of (Session.Leads team allowed) run.session
  trans _ _ _ earlier later := trans_of (Session.Leads team allowed) earlier later

theorem of_record {act : Act} (harmless : allowed act) :
    session.Leads team allowed (session.record act) :=
  ⟨.refl, Session.Adds.of_record session harmless session.world⟩

theorem of_turn {world : ε} (turn : team.Turn session.world world) :
    session.Leads team allowed { session with world := world } :=
  ⟨.single turn, [], (List.append_nil _).symm, by simp⟩

theorem of_record_turn {act : Act} (harmless : allowed act) {world : ε}
    (turn : team.Turn session.world world) :
    session.Leads team allowed { (session.record act) with world := world } :=
  ⟨.single turn, Session.Adds.of_record session harmless world⟩

theorem imp {other : Act → Prop} {before after : Session ε}
    (leads : before.Leads team allowed after) (weaker : ∀ act, allowed act → other act) :
    before.Leads team other after := by
  obtain ⟨world, acts, extended, harmless⟩ := leads
  exact ⟨world, acts, extended, fun act member => weaker act (harmless act member)⟩

theorem reaches {before after : Session ε} (leads : before.Leads team allowed after) :
    before.Reaches team after :=
  leads.imp fun _ _ => trivial

end Session.Leads

/-! ## Steps that lead on -/

namespace Extraction

variable {team : Collaborators ε} {allowed : Act → Prop}

theorem leads_ask {kind : RequestKind} {payload : String}
    (harmless : allowed (.asked kind payload)) :
    Keeps (Session.Leads team allowed) (ask team kind payload) := by
  intro session
  unfold ask
  dsimp only
  split
  all_goals exact .of_record_turn harmless (.asked kind payload)

theorem leads_readSource {path : String} (harmless : allowed (.read path)) :
    Keeps (Session.Leads team allowed) (readSource team path) :=
  fun _ => .of_record harmless

/-- Extraction leads on by requests and readings. -/
theorem pervasive_leads (asks : ∀ kind payload, allowed (.asked kind payload))
    (reads : ∀ path, allowed (.read path)) :
    Pervasive team fun (α : Type) (work : Work ε α) => Keeps (Session.Leads team allowed) work where
  toComposable := Keeps.composable
  asking kind payload := leads_ask (asks kind payload)
  reading path := leads_readSource (reads path)
  attempting := keeps_attempt

end Extraction

/-! ## Records that are extracted and written -/

/-- Between two sessions the record of a listed file was extracted: alone, or from the structures of
the project's working copy, which were extracted in between as well. -/
def ExtractedBetween (team : Collaborators ε) (setup : Setup) (projectId : String)
    (before after : Session ε) (file : FileRecord) : Prop :=
  ∃ remote batch,
    EndedBetween (Session.Reaches team)
        (Extraction.enrich team setup.policy batch
          (Path.join (setup.localPath projectId) remote.path)
          (FileRecord.ofRemote projectId remote)) before after file ∧
      ∀ structures, batch = some structures →
        EndedBetween (Session.Reaches team)
          (Extraction.extractDirectory team (setup.localPath projectId)) before after structures

namespace ExtractedBetween

variable {team : Collaborators ε} {setup : Setup} {projectId : String}
variable {first last start finish : Session ε}
variable {file : FileRecord}

theorem widen (extracted : ExtractedBetween team setup projectId start finish file)
    (before : first.Reaches team start) (after : finish.Reaches team last) :
    ExtractedBetween team setup projectId first last file := by
  obtain ⟨remote, batch, made, batched⟩ := extracted
  exact ⟨remote, batch, made.widen before after,
    fun structures given => (batched structures given).widen before after⟩

/-- What is extracted from normal documents is normal. -/
theorem enriched (extracted : ExtractedBetween team setup projectId start finish file) :
    ∃ remote, Enriched setup.policy Document.IsNormal (FileRecord.ofRemote projectId remote)
      file := by
  obtain ⟨remote, batch, ⟨entered, left, -, made, -⟩, batched⟩ := extracted
  refine ⟨remote, Extraction.enrich_enriched (fun document before between found => ?_) made⟩
  refine Extraction.documentFor_isNormal (fun structures given => ?_) found
  obtain ⟨first, last, -, directory, -⟩ := batched structures given
  exact Extraction.extractDirectory_isNormal directory

end ExtractedBetween

/-- The policy under which a call extracts; a call to delete a project extracts nothing. -/
def Call.policy? : Call → Option Policy
  | .sync setup _ => some setup.policy
  | .delete _ => none

/-- The record was extracted by a call, between its start and its end. -/
def Call.Extracts (team : Collaborators ε) (before after : Session ε) (file : FileRecord) :
    Call → Prop
  | .sync setup address => ∃ projectId, Address.projectId? address = some projectId ∧
      ExtractedBetween team setup projectId before after file
  | .delete _ => False

theorem Call.Extracts.enriched {team : Collaborators ε} {before after : Session ε}
    {file : FileRecord} {call : Call} (extracted : call.Extracts team before after file) :
    ∃ policy projectId remote, call.policy? = some policy ∧ Address.IsProjectId projectId ∧
      Enriched policy Document.IsNormal (FileRecord.ofRemote projectId remote) file := by
  cases call with
  | sync setup address =>
    obtain ⟨projectId, spelled, extracted⟩ := extracted
    obtain ⟨remote, enriched⟩ := extracted.enriched
    exact ⟨setup.policy, projectId, remote, rfl, Address.isProjectId_of_projectId? spelled,
      enriched⟩
  | delete address => exact extracted.elim

/-- The record that a write leaves in the index. -/
def Write.file? : Write → Option FileRecord
  | .createFile file | .updateFile file => some file
  | .createProject _ | .deleteProject _ | .deleteFile _ => none

/-- The record that an act wrote, if it wrote one. -/
def Act.written? (act : Act) : Option FileRecord :=
  act.write?.bind Write.file?

/-- The records that a call writes, in order. -/
def Call.written (team : Collaborators ε) (backend : Backend ι) (call : Call) (run : Run ε ι) :
    List FileRecord :=
  ((call.perform team backend run).2.session.trace.drop run.session.trace.length).filterMap
    Act.written?

/-- Whatever record the act wrote is made in some way. -/
def Act.Makes (made : FileRecord → Prop) (act : Act) : Prop :=
  ∀ file, act.written? = some file → made file

theorem Act.Makes.of_unwritten {made : FileRecord → Prop} {act : Act}
    (unwritten : act.written? = none) : act.Makes made := by
  intro file written
  rw [unwritten] at written
  cases written

namespace Sync

variable {team : Collaborators ε} {backend : Backend ι} {allowed : Act → Prop}

theorem leads_report {event : Event} (harmless : allowed (.reported event)) :
    Keeps (Run.Leads team allowed) (report event : Sync ε ι Unit) :=
  fun _ => .of_record harmless

theorem leads_resolve (address : String) :
    Keeps (Run.Leads team allowed) (resolve team address : Sync ε ι (Option RemoteProject)) := by
  intro run
  unfold resolve
  dsimp only
  split
  all_goals exact .of_turn (.resolved address)

theorem leads_mirror {call : MirrorCall} (harmless : allowed (.mirrored call)) :
    Keeps (Run.Leads team allowed) (mirror team call : Sync ε ι Unit) := by
  intro run
  unfold mirror
  dsimp only
  split
  all_goals exact .of_record_turn harmless (.mirrored call)

theorem leads_hasWorkingCopy (path : String) :
    Keeps (Run.Leads team allowed) (hasWorkingCopy team path : Sync ε ι Bool) :=
  fun run => refl_of (Run.Leads team allowed) run

theorem leads_work {task : Work ε α} (leads : Keeps (Session.Leads team allowed) task) :
    Keeps (Run.Leads team allowed) (work task : Sync ε ι α) := by
  intro run
  unfold work
  split
  · next value session done => exact leads.ok done
  · next halt session halted => exact leads.error halted

theorem leads_permit {operation : Operation}
    (fails : ∀ cause, allowed (.failed operation cause)) :
    Keeps (Run.Leads team allowed) (permit team operation : Sync ε ι Unit) := by
  intro run
  unfold permit
  dsimp only
  split
  · exact .of_turn (.permitted operation)
  · exact .of_record_turn (fails _) (.permitted operation)

theorem leads_query {operation : Operation} (fails : ∀ cause, allowed (.failed operation cause))
    (read : ι → Except StoreError α) :
    Keeps (Run.Leads team allowed) (query team operation read : Sync ε ι α) := by
  refine Keeps.composable.bind (leads_permit fails) fun _ _ run => ?_
  split
  · exact refl_of (Run.Leads team allowed) run
  · exact .of_record (fails _)

theorem leads_commit {write : Write} (harmless : allowed (.wrote write))
    (fails : ∀ cause, allowed (.failed write.operation cause))
    (change : ι → Except StoreError (α × ι)) :
    Keeps (Run.Leads team allowed) (commit team write change : Sync ε ι α) := by
  refine Keeps.composable.bind (leads_permit fails) fun _ _ run => ?_
  split
  · exact .of_record harmless
  · exact .of_record (fails _)

theorem leads_orUndo {step : Sync ε ι α} {undo : Sync ε ι β}
    (steps : Keeps (Run.Leads team allowed) step) (undoes : Keeps (Run.Leads team allowed) undo) :
    Keeps (Run.Leads team allowed) (orUndo step undo) := by
  intro run
  unfold orUndo
  split
  · next value after done => exact steps.ok done
  · next error after failed =>
    exact trans_of (Run.Leads team allowed) (steps.error failed) (undoes after)

/-- Acts of every kind but requests, readings and writes are allowed. -/
structure AllowsAround (allowed : Act → Prop) : Prop where
  reported : ∀ event, allowed (.reported event)
  mirrored : ∀ call, allowed (.mirrored call)
  failed : ∀ operation cause, allowed (.failed operation cause)

/-- Acts of every kind but writes are allowed. -/
structure AllowsRest (allowed : Act → Prop) : Prop extends AllowsAround allowed where
  asked : ∀ kind payload, allowed (.asked kind payload)
  read : ∀ path, allowed (.read path)

theorem pervasive_leads (rest : AllowsRest allowed) :
    Extraction.Pervasive team fun (α : Type) (work : Work ε α) =>
      Keeps (Session.Leads team allowed) work :=
  Extraction.pervasive_leads rest.asked rest.read

section

variable (around : AllowsAround allowed)
include around

theorem inquiring_leads (projectId : String) :
    Inquiring team backend projectId fun (α : Type) (step : Sync ε ι α) =>
      Keeps (Run.Leads team allowed) step where
  toComposable := Keeps.composable
  report event := leads_report (around.reported event)
  resolve := leads_resolve
  mirror call := leads_mirror (around.mirrored call)
  hasWorkingCopy := leads_hasWorkingCopy
  hasProject := leads_query (around.failed _) _
  fileHashes := leads_query (around.failed _) _

theorem leads_performAll {projectId : String} {total count : Nat} {writes : List FileWrite}
    (harmless : ∀ write ∈ writes, allowed (.wrote write.write)) :
    Keeps (Run.Leads team allowed)
      (performAll team backend projectId total count writes : Sync ε ι Unit) := by
  induction writes generalizing count with
  | nil => exact Keeps.composable.pure ()
  | cons write others ih =>
    rw [performAll, perform_eq]
    refine Keeps.composable.bind
      (leads_commit (harmless write List.mem_cons_self) (around.failed _) _) fun _ _ => ?_
    refine Keeps.composable.bind (leads_report (around.reported _)) fun _ _ => ?_
    exact ih fun other member => harmless other (List.mem_cons_of_mem write member)

theorem leads_addProject {projectId : String} {project : Project} {files : List FileRecord}
    (creates : allowed (.wrote (.createProject project)))
    (adds : ∀ file ∈ files, allowed (.wrote (.createFile file)))
    (removes : allowed (.wrote (.deleteProject projectId))) :
    Keeps (Run.Leads team allowed)
      (addProject team backend projectId project files : Sync ε ι Unit) := by
  refine Keeps.composable.bind (leads_commit creates (around.failed _) _) fun _ _ => ?_
  refine leads_orUndo (leads_performAll around fun write member => ?_)
    (leads_commit removes (around.failed _) _)
  obtain ⟨file, asked, rfl⟩ := List.mem_map.1 member
  exact adds file asked

end

/-! ## Records that were extracted -/

variable {setup : Setup} {projectId : String} {listing : List RemoteFile} {run after : Run ε ι}

theorem allowsRest_true : AllowsRest fun _ => True where
  reported _ := trivial
  mirrored _ := trivial
  failed _ _ := trivial
  asked _ _ := trivial
  read _ := trivial

/-- The records of a prepared plan were extracted while it was prepared. -/
theorem preparedPlan_extracted {planned : Plan}
    (done : preparedPlan team backend setup projectId listing run = (.ok planned, after))
    {file : FileRecord} (asked : file ∈ planned.toCreate ∨ file ∈ planned.toUpdate) :
    ExtractedBetween team setup projectId run.session after.session file := by
  obtain ⟨plan, between, loaded, done⟩ := bind_eq_ok_iff.1 done
  obtain ⟨hashes, last, answered, made⟩ := bind_eq_ok_iff.1 loaded
  obtain ⟨rfl, rfl⟩ := pure_eq_ok_iff.1 made
  have before : run.session.Reaches team last.session :=
    (inquiring_leads allowsRest_true.toAllowsAround projectId).fileHashes.ok answered
  split at done
  · obtain ⟨session, worked, rfl⟩ := work_eq_ok done
    rw [preparePlan_eq, ← Plan.prepare_eq] at worked
    have extracts : ∀ file,
        Keeps (Session.Reaches team) (extractRecord team setup projectId file) :=
      fun file => (pervasive_leads allowsRest_true).enrich _ _ _ file
    obtain ⟨creates, updates, -, -⟩ := Plan.prepared_between extracts worked
    obtain ⟨source, planned, extracted⟩ : ∃ source,
        (source ∈ (Plan.make projectId listing hashes).toCreate ∨
          source ∈ (Plan.make projectId listing hashes).toUpdate) ∧
        EndedBetween (Session.Reaches team) (extractRecord team setup projectId source)
          last.session session file := by
      rcases asked with create | update
      · obtain ⟨source, member, single⟩ := Plan.exists_source creates create
        exact ⟨source, .inl member, single⟩
      · obtain ⟨source, member, single⟩ := Plan.exists_source updates update
        exact ⟨source, .inr member, single⟩
    obtain ⟨remote, -, rfl⟩ := Plan.listed_of_planned planned
    refine ⟨remote, none, extracted.widen before (refl_of (Session.Reaches team) session), ?_⟩
    rintro structures ⟨⟩
  · next empty =>
    obtain ⟨rfl, -⟩ := pure_eq_ok_iff.1 done
    have none : (Plan.make projectId listing hashes).toCreate = [] ∧
        (Plan.make projectId listing hashes).toUpdate = [] := by
      simpa [Plan.hasRecords] using empty
    rw [none.1, none.2] at asked
    simp at asked

/-- The records of a first import were extracted, together with the working copy, while they were
collected. -/
theorem importedRecords_extracted {files : List FileRecord}
    (done : importedRecords team setup projectId listing run = (.ok files, after))
    {file : FileRecord} (member : file ∈ files) :
    ExtractedBetween team setup projectId run.session after.session file := by
  obtain ⟨_, reported, same, done⟩ := bind_eq_ok_iff.1 done
  have announced : run.session.Reaches team reported.session :=
    (leads_report trivial).ok same
  obtain ⟨found, last, worked, done⟩ := bind_eq_ok_iff.1 done
  cases found with
  | none => exact absurd done throw_ne_ok
  | some others =>
    dsimp only at done
    split at done
    · exact absurd done throw_ne_ok
    · obtain ⟨rfl, rfl⟩ := pure_eq_ok_iff.1 done
      obtain ⟨session, extraction, rfl⟩ := work_eq_ok worked
      obtain ⟨structures, between, directory, enriched⟩ := extractProject_eq_ok extraction
      rw [enrichAll_eq] at enriched
      have extracts : Extraction.Pervasive team fun (α : Type) (work : Work ε α) =>
          Keeps (Session.Reaches team) work := pervasive_leads allowsRest_true
      have early : reported.session.Reaches team between :=
        (extracts.extractDirectory _).ok directory
      have late : between.Reaches team session :=
        (Keeps.composable.mapM listing fun remote _ => extracts.enrich _ _ _ _).ok enriched
      obtain ⟨remote, -, made⟩ := Plan.exists_source
        (forall₂_of_mapM (fun remote => extracts.enrich _ _ _ _) enriched) member
      have whole := trans_of (Session.Reaches team) announced early
      refine ⟨remote, some structures,
        made.widen whole (refl_of (Session.Reaches team) session), ?_⟩
      rintro _ ⟨⟩
      exact (EndedBetween.of_eq_ok directory).widen announced late

/-! ## Records that were written -/

theorem allowsRest_makes (made : FileRecord → Prop) : AllowsRest (Act.Makes made) where
  reported _ := .of_unwritten rfl
  mirrored _ := .of_unwritten rfl
  failed _ _ := .of_unwritten rfl
  asked _ _ := .of_unwritten rfl
  read _ := .of_unwritten rfl

section

variable {made : FileRecord → Prop}

theorem leads_apply {planned : Plan}
    (asked : ∀ file, file ∈ planned.toCreate ∨ file ∈ planned.toUpdate → made file) :
    Keeps (Run.Leads team (Act.Makes made))
      (apply team backend projectId planned : Sync ε ι Report) := by
  refine Keeps.composable.bind (leads_performAll (allowsRest_makes made).toAllowsAround
    fun write member => ?_) fun _ _ => Keeps.composable.pure _
  rcases List.mem_append.1 member with filling | deleting
  · rcases List.mem_append.1 filling with creating | updating
    · obtain ⟨file, within, rfl⟩ := List.mem_map.1 creating
      rintro _ ⟨⟩
      exact asked file (.inl within)
    · obtain ⟨file, within, rfl⟩ := List.mem_map.1 updating
      rintro _ ⟨⟩
      exact asked file (.inr within)
  · obtain ⟨id, -, rfl⟩ := List.mem_map.1 deleting
    exact .of_unwritten rfl

theorem leads_additions {project : Project} {files : List FileRecord}
    (asked : ∀ file ∈ files, made file) :
    Keeps (Run.Leads team (Act.Makes made))
      (addProject team backend projectId project files : Sync ε ι Unit) := by
  refine leads_addProject (allowsRest_makes made).toAllowsAround (.of_unwritten rfl)
    (fun file member => ?_) (.of_unwritten rfl)
  rintro _ ⟨⟩
  exact asked file member

end

/-- What was extracted before the writes was extracted in the whole of both. -/
theorem leads_of_extracted {between : Run ε ι} {wrote : FileRecord → Prop}
    (before : run.session.Leads team (Act.Makes fun _ => False) between.session)
    (extracted : ∀ file, wrote file →
      ExtractedBetween team setup projectId run.session between.session file)
    (writing : between.session.Leads team (Act.Makes wrote) after.session) :
    run.session.Leads team
      (Act.Makes (ExtractedBetween team setup projectId run.session after.session))
      after.session := by
  have early : run.session.Leads team
      (Act.Makes (ExtractedBetween team setup projectId run.session after.session))
      between.session := before.imp fun act makes file written => (makes file written).elim
  refine trans_of (Session.Leads team _) early (writing.imp fun act makes file written => ?_)
  exact (extracted file (makes file written)).widen (refl_of (Session.Reaches team) run.session)
    writing.reaches

theorem reconcile_extracts {result : Except SyncError Report}
    (ended : reconcile team backend setup projectId listing run = (result, after)) :
    run.session.Leads team
      (Act.Makes (ExtractedBetween team setup projectId run.session after.session))
      after.session := by
  have prepares : ∀ made, Keeps (Run.Leads team (Act.Makes made))
      (preparedPlan team backend setup projectId listing : Sync ε ι Plan) := fun made =>
    (inquiring_leads (allowsRest_makes made).toAllowsAround projectId).preparedPlan
      ((pervasive_leads (allowsRest_makes made)).visiting _ _) leads_work
  rcases bind_cases ended with ⟨error, unprepared, -⟩ | ⟨planned, between, prepared, applied⟩
  · exact (prepares _).error unprepared
  · refine leads_of_extracted ((prepares _).ok prepared)
      (fun file asked => preparedPlan_extracted prepared asked) ?_
    have applies : Keeps (Run.Leads team (Act.Makes fun file =>
        file ∈ planned.toCreate ∨ file ∈ planned.toUpdate))
        (apply team backend projectId planned : Sync ε ι Report) :=
      leads_apply fun _ asked => asked
    have leads := applies between
    rwa [applied] at leads

theorem firstImport_extracts {remote : RemoteProject} {result : Except SyncError Outcome}
    (ended : firstImport team backend setup projectId remote run = (result, after)) :
    run.session.Leads team
      (Act.Makes (ExtractedBetween team setup projectId run.session after.session))
      after.session := by
  have collects : ∀ made, Keeps (Run.Leads team (Act.Makes made))
      (importedRecords team setup projectId remote.files : Sync ε ι (List FileRecord)) :=
    fun made => composable_importedRecords ((pervasive_leads (allowsRest_makes made)).visiting _ _)
      leads_work Keeps.composable fun event => leads_report ((allowsRest_makes made).reported event)
  rcases bind_cases ended with ⟨error, uncollected, -⟩ | ⟨files, between, collected, adding⟩
  · exact (collects _).error uncollected
  · refine leads_of_extracted ((collects _).ok collected)
      (fun file member => importedRecords_extracted collected member) ?_
    have adds : Keeps (Run.Leads team (Act.Makes fun file => file ∈ files))
        (do addProject team backend projectId remote.project files
            pure (.imported files.length (files.countP FileRecord.hasStructure)) :
          Sync ε ι Outcome) :=
      Keeps.composable.bind (leads_additions fun _ member => member) fun _ _ =>
        Keeps.composable.pure _
    have leads := adds between
    rwa [adding] at leads

theorem settle_extracts {remote : RemoteProject} {indexed : Bool}
    {result : Except SyncError Outcome}
    (ended : settle team backend setup projectId remote indexed run = (result, after)) :
    run.session.Leads team
      (Act.Makes (ExtractedBetween team setup projectId run.session after.session))
      after.session := by
  cases indexed with
  | true =>
    rcases bind_cases ended with ⟨error, unreconciled, -⟩ | ⟨report, last, reconciled, ended⟩
    · exact reconcile_extracts unreconciled
    · cases ended
      exact reconcile_extracts reconciled
  | false => exact firstImport_extracts ended

/-- What was extracted in the middle was extracted in the whole. -/
theorem leads_around {before start finish last : Session ε}
    (early : before.Leads team (Act.Makes fun _ => False) start)
    (middle : start.Leads team (Act.Makes (ExtractedBetween team setup projectId start finish))
      finish)
    (late : finish.Leads team (Act.Makes fun _ => False) last) :
    before.Leads team (Act.Makes (ExtractedBetween team setup projectId before last)) last := by
  have silent : ∀ act, Act.Makes (fun _ => False) act →
      Act.Makes (ExtractedBetween team setup projectId before last) act :=
    fun act makes file written => (makes file written).elim
  refine trans_of (Session.Leads team _) (early.imp silent) ?_
  refine trans_of (Session.Leads team _) (middle.imp fun act makes file written => ?_)
    (late.imp silent)
  exact (makes file written).widen early.reaches late.reaches

theorem syncProject_extracts {address : String} {result : Except SyncError Outcome}
    (ended : syncProject team backend setup address run = (result, after)) :
    run.session.Leads team
      (Act.Makes fun file => (Call.sync setup address).Extracts team run.session after.session file)
      after.session := by
  have surveys : ∀ made, Keeps (Run.Leads team (Act.Makes made))
      (survey team backend setup address : Sync ε ι (String × RemoteProject × Bool)) := fun made =>
    composable_survey Keeps.composable
      (fun id _ => inquiring_leads (allowsRest_makes made).toAllowsAround id) setup
  rcases bind_cases ended with
    ⟨error, unsurveyed, -⟩ | ⟨⟨id, remote, indexed⟩, between, surveying, ended⟩
  · exact (surveys _).error unsurveyed
  · have spelled := (survey_eq_ok surveying).1
    have whole : run.session.Leads team
        (Act.Makes (ExtractedBetween team setup id run.session after.session)) after.session := by
      rcases bind_cases ended with ⟨error, unsettled, rfl⟩ | ⟨outcome, settled, settling, ended⟩
      · exact leads_around ((surveys _).ok surveying) (settle_extracts unsettled)
          (refl_of (Session.Leads team _) after.session)
      · cases ended
        exact leads_around ((surveys _).ok surveying) (settle_extracts settling)
          (.of_record ((allowsRest_makes _).reported _))
    exact whole.imp fun act makes file written => ⟨id, spelled, makes file written⟩

/-- Deleting a project reports, asks the index and removes the project. -/
theorem leads_deleteProject {address : String} (around : AllowsAround allowed)
    (removes : ∀ id, allowed (.wrote (.deleteProject id))) :
    Keeps (Run.Leads team allowed) (deleteProject team backend address : Sync ε ι Outcome) := by
  refine Keeps.composable.bind (composable_projectIdOf Keeps.composable address) fun id _ => ?_
  have asks : Keeps (Run.Leads team allowed) (hasProject team backend id : Sync ε ι Bool) :=
    (inquiring_leads around id).hasProject
  refine Keeps.composable.bind asks fun indexed _ => ?_
  split
  · refine Keeps.composable.bind (leads_commit (removes id) (around.failed _) _) fun _ _ => ?_
    exact Keeps.composable.bind (leads_report (around.reported _)) fun _ _ =>
      Keeps.composable.pure _
  · exact Keeps.composable.pure _

/-- Deleting a project writes no record. -/
theorem deleteProject_writes {address : String} :
    Keeps (Run.Leads team (Act.Makes fun _ => False))
      (deleteProject team backend address : Sync ε ι Outcome) :=
  leads_deleteProject (allowsRest_makes fun _ => False).toAllowsAround fun _ => .of_unwritten rfl

/-- **Whatever a call writes into the index was extracted in that call.** -/
theorem perform_extracts (team : Collaborators ε) (backend : Backend ι) (call : Call)
    (run : Run ε ι) :
    run.session.Leads team
      (Act.Makes fun file =>
        call.Extracts team run.session (call.perform team backend run).2.session file)
      (call.perform team backend run).2.session := by
  rcases ended : call.perform team backend run with ⟨result, after⟩
  cases call with
  | sync setup address => exact syncProject_extracts ended
  | delete address =>
    have quiet : Keeps (Run.Leads team (Act.Makes fun _ => False))
        (deleteProject team backend address : Sync ε ι Outcome) := deleteProject_writes
    have leads := quiet run
    rw [show deleteProject team backend address run = (result, after) from ended] at leads
    exact leads

theorem extracts_of_written {call : Call} {run : Run ε ι} {file : FileRecord}
    (written : file ∈ call.written team backend run) :
    call.Extracts team run.session (call.perform team backend run).2.session file := by
  obtain ⟨-, acts, extended, makes⟩ := perform_extracts team backend call run
  rw [Call.written, extended, List.drop_left] at written
  obtain ⟨act, member, wrote⟩ := List.mem_filterMap.1 written
  exact makes act member file wrote

theorem perform_did (team : Collaborators ε) (backend : Backend ι) (call : Call)
    (run : Run ε ι) :
    ∃ writes failures, Run.Did backend writes failures run (call.perform team backend run).2 := by
  rcases ended : call.perform team backend run with ⟨result, after⟩
  cases call with
  | sync setup address =>
    obtain ⟨writes, failures, did, -⟩ := syncProject_course ended
    exact ⟨writes, failures, did⟩
  | delete address =>
    obtain ⟨writes, failures, did, -⟩ := deleteProject_did ended
    exact ⟨writes, failures, did⟩

/-- What a call does to the index is told by writes, and those of records are in the trace. -/
theorem perform_replays {ρ : Type} [Row ρ] (storage : Storage backend ρ) (team : Collaborators ε)
    (call : Call) (run : Run ε ι) :
    ∃ writes, Holdings.replay writes (storage.holdings run.index) =
        some (storage.holdings (call.perform team backend run).2.index) ∧
      writes.filterMap Write.file? = call.written team backend run := by
  obtain ⟨writes, failures, did⟩ := perform_did team backend call run
  refine ⟨writes, (storage.replay_of_writeAll did.index).1, ?_⟩
  obtain ⟨acts, extended, rfl, -⟩ := did.acts
  rw [Call.written, extended, List.drop_left, List.filterMap_filterMap]
  rfl

theorem runCalls_append_singleton (calls : List Call) (call : Call) (start : Run ε ι) :
    runCalls team backend (calls ++ [call]) start =
      (call.perform team backend (runCalls team backend calls start)).2 := by
  rw [runCalls, List.foldl_append]
  rfl

/-- **The index after any calls holds the rows of records**, and of those is so whatever is so of no
records and stays so when the writes of one more call are done. -/
theorem records_runCalls {ρ : Type} [Row ρ] [Row.Faithful ρ] (storage : Storage backend ρ)
    (team : Collaborators ε) {start : Run ε ι}
    (empty : storage.holdings start.index = Holdings.empty)
    {motive : List Call → Holdings FileRecord → Prop} (nothing : motive [] Holdings.empty)
    (more : ∀ calls call records writes after, motive calls records →
      writes.filterMap Write.file? = call.written team backend (runCalls team backend calls start) →
      Holdings.replay writes records = some after → motive (calls ++ [call]) after)
    (calls : List Call) :
    ∃ records, storage.holdings (runCalls team backend calls start).index =
        Holdings.ofRecords records ∧ motive calls records := by
  induction calls using List.reverseRecOn with
  | nil => exact ⟨Holdings.empty, empty.trans Holdings.ofRecords_empty.symm, nothing⟩
  | append_singleton calls call ih =>
    obtain ⟨records, stored, tells⟩ := ih
    obtain ⟨writes, replayed, wrote⟩ := perform_replays storage team call
      (runCalls team backend calls start)
    rw [stored, Holdings.replay_ofRecords] at replayed
    obtain ⟨after, written, same⟩ := Option.map_eq_some_iff.1 replayed
    rw [runCalls_append_singleton]
    exact ⟨after, same.symm, more calls call records writes after tells wrote written⟩

end Sync

end SourceIndex
