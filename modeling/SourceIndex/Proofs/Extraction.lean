import SourceIndex.Proofs.Document
import SourceIndex.Proofs.Extraction.Course
import SourceIndex.Proofs.Plan.Preparation
import SourceIndex.Sync.Project

/-!
# What extraction does

Extraction talks to the parser and reads files, and it does nothing else: a composable property that
one request and one reading have is had by all extraction work (`Attempting.enrich`,
`visiting_extractProject`, `composable_preparePlan`). It is enough that the requests for a working
copy and its listed files have it, and the readings of these files (`Visiting`). The property used
below is that no write to the index is attempted (`pervasive_writeless`).

Of a record, extraction changes the structure, the text and the mark in the extension only. It is
left as it is, given structure and text, or demoted (`Dressed`), one record at a time and in order
(`preparePlan_dressed`, `extractProject_dressed`). Which of these happens is decided by the policy
and by the name of the file, as far as extraction works (`Enriched`). Every document that is given
to a record is normal, whether the file was extracted alone or with its directory
(`extractFile_isNormal`, `extractDirectory_isNormal`).
-/

set_option autoImplicit false

namespace SourceIndex

open Fallible

variable {ε : Type}

/-! ## Properties that extraction has throughout -/

namespace Extraction

/-- A composable property of work that looking at an error does not spoil. -/
structure Attempting (holds : (α : Type) → Work ε α → Prop) : Prop extends Composable holds where
  attempting : ∀ {α : Type} {work : Work ε α}, holds α work →
    holds (Except ExtractError α) (attempt work)

namespace Attempting

variable {team : Collaborators ε} {holds : (α : Type) → Work ε α → Prop}
variable (attempts : Attempting holds) {path : String}
include attempts

theorem ofResult {α : Type} (result : Except ExtractError α) : holds α (ofResult result) := by
  cases result with
  | ok value => exact attempts.pure value
  | error error => exact attempts.throw (Halt.failed error)

theorem extractFile (asks : holds String (ask team .file (Path.key path))) :
    holds Document (extractFile team path) := by
  have finish : ∀ answer : String, holds Document
      (if answer.isEmpty then throw (Halt.failed (.empty (Path.key path)))
        else Extraction.ofResult (readAnswer (Path.key path) answer)) := by
    intro answer
    split
    · exact attempts.throw _
    · exact attempts.ofResult _
  refine attempts.bind asks fun first _ => ?_
  dsimp only
  split
  · exact attempts.bind asks fun answer _ => finish answer
  · exact attempts.bind (attempts.pure first) fun answer _ => finish answer

theorem extractDirectory (asks : holds String (ask team .directory (Path.key path))) :
    holds Structures (extractDirectory team path) := by
  refine attempts.bind asks fun answer _ => ?_
  split
  · exact attempts.throw _
  · exact attempts.ofResult _

theorem documentFor (batch : Option Structures)
    (asks : holds String (ask team .file (Path.key path))) :
    holds (Except ExtractError Document) (documentFor team batch path) := by
  unfold Extraction.documentFor
  split
  · exact attempts.pure _
  · exact attempts.attempting (attempts.extractFile asks)

theorem enrich (policy : Policy) (batch : Option Structures) (file : FileRecord)
    (asks : holds String (ask team .file (Path.key path)))
    (reads : holds (Except DiskError String) (readSource team path)) :
    holds FileRecord (enrich team policy batch path file) := by
  unfold Extraction.enrich
  split
  · exact attempts.pure _
  split
  · exact attempts.pure _
  refine attempts.bind (attempts.documentFor batch asks) fun found _ => ?_
  cases found with
  | error _ => exact attempts.pure _
  | ok document =>
    refine attempts.bind reads fun text _ => ?_
    cases text with
    | ok text => exact attempts.pure _
    | error _ => exact attempts.pure _

end Attempting

/-- A composable property of work that requests for a directory and its listed files and readings of
these files have. -/
structure Visiting (team : Collaborators ε) (directory : String) (listing : List RemoteFile)
    (holds : (α : Type) → Work ε α → Prop) : Prop extends Attempting holds where
  asksDirectory : holds String (ask team .directory (Path.key directory))
  asksFile : ∀ remote ∈ listing,
    holds String (ask team .file (Path.key (Path.join directory remote.path)))
  reads : ∀ remote ∈ listing,
    holds (Except DiskError String) (readSource team (Path.join directory remote.path))

/-- A composable property of work that all requests to the parser and all readings from the disk
have. -/
structure Pervasive (team : Collaborators ε) (holds : (α : Type) → Work ε α → Prop) : Prop
    extends Attempting holds where
  asking : ∀ kind payload, holds String (ask team kind payload)
  reading : ∀ path, holds (Except DiskError String) (readSource team path)

namespace Pervasive

variable {team : Collaborators ε} {holds : (α : Type) → Work ε α → Prop}
variable (pervasive : Pervasive team holds)
include pervasive

theorem visiting (directory : String) (listing : List RemoteFile) :
    Visiting team directory listing holds where
  toAttempting := pervasive.toAttempting
  asksDirectory := pervasive.asking _ _
  asksFile _ _ := pervasive.asking _ _
  reads _ _ := pervasive.reading _

theorem extractDirectory (path : String) : holds Structures (extractDirectory team path) :=
  pervasive.toAttempting.extractDirectory (pervasive.asking _ _)

theorem enrich (policy : Policy) (batch : Option Structures) (path : String)
    (file : FileRecord) : holds FileRecord (enrich team policy batch path file) :=
  pervasive.toAttempting.enrich policy batch file (pervasive.asking _ _) (pervasive.reading _)

end Pervasive

end Extraction

namespace Sync

open Extraction

/-- Preparing a plan is preparing each of its records in turn. -/
theorem preparePlan_eq (step : FileRecord → Work ε FileRecord) (plan : Plan) :
    preparePlan step plan = (do
      let created ← plan.toCreate.mapM step
      let updated ← plan.toUpdate.mapM step
      pure { plan with toCreate := created, toUpdate := updated }) := by
  funext session
  refine Eq.trans ?_ (Plan.prepare_eq plan session)
  unfold preparePlan
  rcases plan.prepare step session with ⟨⟨prepared, _ | halt⟩, after⟩ <;> rfl

variable {team : Collaborators ε} {holds : (α : Type) → Work ε α → Prop}

theorem composable_preparePlan (composable : Composable holds)
    {step : FileRecord → Work ε FileRecord} {plan : Plan}
    (steps : ∀ file, file ∈ plan.toCreate ∨ file ∈ plan.toUpdate → holds FileRecord (step file)) :
    holds Plan (preparePlan step plan) := by
  rw [preparePlan_eq]
  refine composable.bind (composable.mapM plan.toCreate fun file asked =>
    steps file (.inl asked)) fun _ _ => ?_
  refine composable.bind (composable.mapM plan.toUpdate fun file asked =>
    steps file (.inr asked)) fun _ _ => ?_
  exact composable.pure _

variable {directory : String} {listing : List RemoteFile}

theorem visiting_enrichAll (visiting : Visiting team directory listing holds) (policy : Policy)
    (structures : Structures) (projectId : String) :
    holds (List FileRecord) (enrichAll team policy structures directory projectId listing) := by
  induction listing with
  | nil => exact visiting.pure _
  | cons remote rest ih =>
    obtain ⟨attempts, asksDirectory, asksFile, reads⟩ := visiting
    obtain ⟨asks, asksRest⟩ := List.forall_mem_cons.1 asksFile
    obtain ⟨here, readsRest⟩ := List.forall_mem_cons.1 reads
    refine attempts.bind (attempts.enrich _ _ _ asks here) fun file _ => ?_
    exact attempts.bind (ih ⟨attempts, asksDirectory, asksRest, readsRest⟩) fun files _ =>
      attempts.pure _

theorem visiting_extractProject {setup : Setup} {projectId : String}
    (visiting : Visiting team (setup.localPath projectId) listing holds) :
    holds (Option (List FileRecord)) (extractProject team setup projectId listing) := by
  refine visiting.bind (visiting.attempting (visiting.extractDirectory visiting.asksDirectory))
    fun result _ => ?_
  split
  · exact visiting.pure _
  · exact visiting.throw _
  · split
    · exact visiting.pure _
    · exact visiting.bind (visiting_enrichAll visiting _ _ _) fun files _ => visiting.pure _

end Sync

/-! ## No write to the index -/

/-- From one session to the next only acts of some kind were added to the trace. -/
def Session.Adds (allowed : Act → Prop) (before after : Session ε) : Prop :=
  ∃ acts, after.trace = before.trace ++ acts ∧ ∀ act ∈ acts, allowed act

/-- From one session to the next no write to the index was done or attempted. -/
abbrev Session.Writeless (before after : Session ε) : Prop :=
  Session.Adds (fun act => act.attemptsWrite = false) before after

namespace Session.Adds

variable {allowed : Act → Prop}

theorem refl (session : Session ε) : Adds allowed session session :=
  ⟨[], (List.append_nil _).symm, by simp⟩

theorem trans {first second third : Session ε} (earlier : Adds allowed first second)
    (later : Adds allowed second third) : Adds allowed first third := by
  obtain ⟨acts, extended, harmless⟩ := earlier
  obtain ⟨others, further, alike⟩ := later
  refine ⟨acts ++ others, by rw [further, extended, List.append_assoc], fun act member => ?_⟩
  rcases List.mem_append.1 member with old | new
  · exact harmless act old
  · exact alike act new

instance : IsPreorder (Session ε) (Adds allowed) where
  refl := refl
  trans _ _ _ := trans

/-- An allowed act may be recorded, and the outside world may change. -/
theorem of_record (session : Session ε) {act : Act} (harmless : allowed act) (world : ε) :
    Adds allowed session { (session.record act) with world := world } :=
  ⟨[act], rfl, fun _ member => List.mem_singleton.1 member ▸ harmless⟩

end Session.Adds

namespace Extraction

variable {allowed : Act → Prop}

theorem adds_ask (team : Collaborators ε) {kind : RequestKind} {payload : String}
    (harmless : allowed (.asked kind payload)) :
    Keeps (Session.Adds allowed) (ask team kind payload) := by
  intro session
  unfold ask
  dsimp only
  split
  all_goals exact Session.Adds.of_record session harmless _

theorem adds_readSource (team : Collaborators ε) {path : String}
    (harmless : allowed (.read path)) : Keeps (Session.Adds allowed) (readSource team path) :=
  fun session => Session.Adds.of_record session harmless session.world

/-- Looking at the error of work does not change what the work did. -/
theorem keeps_attempt {related : Session ε → Session ε → Prop} {α : Type} {work : Work ε α}
    (keeps : Keeps related work) : Keeps related (attempt work) := by
  intro session
  unfold attempt
  split
  · next value after done => exact keeps.ok done
  · next after halted => exact keeps.error halted
  · next error after halted =>
    split
    · exact keeps.error halted
    · exact keeps.error halted

/-- Extraction adds requests and readings to the trace. -/
theorem pervasive_adds (team : Collaborators ε)
    (asks : ∀ kind payload, allowed (.asked kind payload)) (reads : ∀ path, allowed (.read path)) :
    Pervasive team fun (α : Type) (work : Work ε α) => Keeps (Session.Adds allowed) work where
  toComposable := Keeps.composable
  asking kind payload := adds_ask team (asks kind payload)
  reading path := adds_readSource team (reads path)
  attempting := keeps_attempt

/-- Extraction attempts no write to the index. -/
theorem pervasive_writeless (team : Collaborators ε) :
    Pervasive team fun (α : Type) (work : Work ε α) => Keeps Session.Writeless work :=
  pervasive_adds team (fun _ _ => rfl) fun _ => rfl

end Extraction

/-! ## What becomes of a record -/

/-- What extraction may make of a record: it stays, is given structure and text, or is demoted. -/
inductive Dressed (file : FileRecord) : FileRecord → Prop where
  | plain : Dressed file file
  | attached (document : Document) (text : String) : Dressed file (file.attach document text)
  | demoted : Dressed file file.demote

namespace Dressed

variable {file dressed : FileRecord}

theorem id (become : Dressed file dressed) : dressed.id = file.id := by
  cases become <;> rfl

theorem projectId (become : Dressed file dressed) : dressed.projectId = file.projectId := by
  cases become <;> rfl

theorem path (become : Dressed file dressed) : dressed.path = file.path := by
  cases become <;> rfl

theorem name (become : Dressed file dressed) : dressed.name = file.name := by
  cases become <;> rfl

theorem sha (become : Dressed file dressed) : dressed.sha = file.sha := by
  cases become <;> rfl

end Dressed

/-- The second plan is the first one with its records extracted. -/
structure Plan.Extracted (plan prepared : Plan) : Prop where
  creates : List.Forall₂ Dressed plan.toCreate prepared.toCreate
  updates : List.Forall₂ Dressed plan.toUpdate prepared.toUpdate
  deletes : prepared.toDelete = plan.toDelete
  unchanged : prepared.unchanged = plan.unchanged

/-- A plan without records to write is extracted as it stands. -/
theorem Plan.Extracted.refl (plan : Plan) : Plan.Extracted plan plan where
  creates := List.forall₂_same.2 fun _ _ => .plain
  updates := List.forall₂_same.2 fun _ _ => .plain
  deletes := rfl
  unchanged := rfl

theorem Policy.isSource_iff {policy : Policy} {extension : String} :
    policy.isSource extension = true ↔ extension ∈ policy.extensions :=
  List.contains_iff_mem

theorem FileRecord.extension_ofRemote (projectId : String) (remote : RemoteFile) :
    (ofRemote projectId remote).extension = extensionOf (nameOf remote.path) := by
  dsimp only [ofRemote]

/-- What extraction under a policy may make of a record, given what fits as its document. -/
inductive Enriched (policy : Policy) (fits : Document → Prop) (file : FileRecord) :
    FileRecord → Prop where
  /-- The file is no source file. -/
  | plain (other : policy.isSource file.extension = false) : Enriched policy fits file file
  | attached (source : policy.isSource file.extension = true)
      (short : Utf8.size file.name ≤ policy.maxNameLength) {document : Document}
      (fit : fits document) {text : String} (ascii : text.toList.all Text.isAscii = true) :
      Enriched policy fits file (file.attach document text)
  | demoted (source : policy.isSource file.extension = true) :
      Enriched policy fits file file.demote

theorem Enriched.dressed {policy : Policy} {fits : Document → Prop} {file enriched : FileRecord}
    (become : Enriched policy fits file enriched) : Dressed file enriched := by
  cases become with
  | plain other => exact .plain
  | attached source short fit ascii => exact .attached _ _
  | demoted source => exact .demoted

namespace Extraction

variable {team : Collaborators ε} {policy : Policy} {batch : Option Structures} {path : String}
variable {session after : Session ε}

/-- Extraction ends in one of a few ways, which the policy tells apart. -/
theorem enrich_enriched {fits : Document → Prop} {file enriched : FileRecord}
    (fit : ∀ document (before between : Session ε),
      documentFor team batch path before = (.ok (.ok document), between) → fits document)
    (done : enrich team policy batch path file session = (.ok enriched, after)) :
    Enriched policy fits file enriched := by
  rcases enrich_cases team policy batch path file session with
    ⟨_, _, ended, become⟩ | ⟨_, _, ended, -⟩
  · rw [done] at ended
    cases ended
    rcases become with ⟨other, rfl, -⟩ | documented | demoted
    · exact .plain other
    · cases documented with
      | intro eligible found content =>
        exact .attached eligible.1 eligible.2 (fit _ _ _ found.documentFor_eq)
          (Utf8.isAscii_asciiPart _)
    · cases demoted with
      | overlong source long => exact .demoted source
      | unfound eligible unfound => exact .demoted eligible.1
      | unreadable eligible found content => exact .demoted eligible.1
  · rw [done] at ended
    cases ended

theorem enrich_dressed {file dressed : FileRecord}
    (done : enrich team policy batch path file session = (.ok dressed, after)) :
    Dressed file dressed := by
  have enriched : Enriched policy (fun _ => True) file dressed :=
    enrich_enriched (fun _ _ _ _ => trivial) done
  exact enriched.dressed

/-! ## Documents -/

theorem documentOf_isNormal {value : Json} {document : Document}
    (taken : documentOf path value = .ok document) : document.IsNormal := by
  cases value with
  | object members =>
    cases taken
    exact Document.isNormal_normalize members
  | _ => cases taken

theorem ofResult_eq_ok {α : Type} {result : Except ExtractError α} {value : α}
    (taken : ofResult result session = (.ok value, after)) : result = .ok value := by
  cases result with
  | ok found =>
    obtain ⟨rfl, -⟩ := pure_eq_ok_iff.1 taken
    rfl
  | error error => exact absurd taken throw_ne_ok

theorem ask_eq_ok {kind : RequestKind} {payload answer : String}
    (asked : ask team kind payload session = (.ok answer, after)) :
    (team.ask kind payload session.world).1 = .text answer := by
  rw [ask_apply] at asked
  generalize (team.ask kind payload session.world).1 = reply at asked ⊢
  cases reply with
  | text found =>
    cases asked
    rfl
  | failed error => cases asked
  | crashed => cases asked

/-- The document of a file is read from an answer to a request for the file. -/
theorem extractFile_eq_ok {document : Document}
    (extracted : extractFile team path session = (.ok document, after)) :
    ∃ answer world, (team.ask .file (Path.key path) world).1 = .text answer ∧
      readAnswer (Path.key path) answer = .ok document := by
  obtain ⟨reply, last, heard⟩ := exists_heard team (Path.key path) session
  obtain ⟨world, replied⟩ := heard.replied
  rw [extractFile_of_heard heard] at extracted
  cases reply with
  | text answer =>
    unfold documentOfReply at extracted
    dsimp only [ParserReply.result] at extracted
    split at extracted
    · cases extracted
    · cases read : readAnswer (Path.key path) answer with
      | error error =>
        rw [read] at extracted
        cases extracted
      | ok found =>
        rw [read] at extracted
        cases extracted
        exact ⟨answer, world, replied, read⟩
  | failed error => cases extracted
  | crashed => cases extracted

theorem extractFile_isNormal {document : Document}
    (extracted : extractFile team path session = (.ok document, after)) : document.IsNormal := by
  obtain ⟨answer, world, -, read⟩ := extractFile_eq_ok extracted
  unfold readAnswer at read
  split at read
  · cases read
  · exact documentOf_isNormal read

/-- Documents that are filed come from the members of the answer. -/
theorem forall_of_fileAll (good : Document → Prop) {filed structures : Structures}
    {members : Json.Members} (before : ∀ entry ∈ filed.entries, good entry.2)
    (each : ∀ member ∈ members, ∀ path document, documentOf path member.2 = .ok document →
      good document)
    (taken : fileAll filed members = .ok structures) :
    ∀ entry ∈ structures.entries, good entry.2 := by
  induction members generalizing filed with
  | nil =>
    cases taken
    exact before
  | cons member rest ih =>
    obtain ⟨first, others⟩ := List.forall_mem_cons.1 each
    rw [fileAll] at taken
    split at taken
    · cases taken
    · next document taking =>
      refine ih (fun entry within => ?_) others taken
      rcases (Keyed.mem_put _ _ _).1 within with rfl | ⟨there, -⟩
      · exact first _ document taking
      · exact before entry there

/-- The documents of a directory are read from an answer to a request for the directory. -/
theorem extractDirectory_eq_ok {structures : Structures}
    (extracted : extractDirectory team path session = (.ok structures, after)) :
    ∃ answer world, (team.ask .directory (Path.key path) world).1 = .text answer ∧
      readDirectoryAnswer (Path.key path) answer = .ok structures := by
  obtain ⟨answer, between, asked, extracted⟩ := bind_eq_ok_iff.1 extracted
  split at extracted
  · exact absurd extracted throw_ne_ok
  · exact ⟨answer, _, ask_eq_ok asked, ofResult_eq_ok extracted⟩

/-- Documents that are read from the answer for a directory come from the members of an object. -/
theorem forall_of_readDirectoryAnswer (good : Document → Prop) {answer : String}
    {structures : Structures}
    (each : ∀ members, Json.parseObject? answer = some members → ∀ member ∈ members,
      ∀ path document, documentOf path member.2 = .ok document → good document)
    (read : readDirectoryAnswer path answer = .ok structures) :
    ∀ entry ∈ structures.entries, good entry.2 := by
  unfold readDirectoryAnswer at read
  split at read
  · cases read
  · next members parsed =>
    exact forall_of_fileAll good (fun _ within => absurd within List.not_mem_nil)
      (each members parsed) read

theorem extractDirectory_isNormal {structures : Structures}
    (extracted : extractDirectory team path session = (.ok structures, after)) :
    ∀ entry ∈ structures.entries, Document.IsNormal entry.2 := by
  obtain ⟨answer, world, -, read⟩ := extractDirectory_eq_ok extracted
  exact forall_of_readDirectoryAnswer Document.IsNormal
    (fun _ _ _ _ _ _ => documentOf_isNormal) read

theorem attempt_eq_ok {α : Type} {work : Work ε α} {value : α}
    (attempted : attempt work session = (.ok (.ok value), after)) :
    work session = (.ok value, after) := by
  unfold attempt at attempted
  rcases ended : work session with ⟨(error | _) | found, last⟩
  · rw [ended] at attempted
    dsimp only at attempted
    split at attempted <;> cases attempted
  · rw [ended] at attempted
    cases attempted
  · rw [ended] at attempted
    cases attempted
    rfl

/-- The document of a file is normal if those of the batch are. -/
theorem documentFor_isNormal {document : Document}
    (normal : ∀ structures, batch = some structures → ∀ entry ∈ structures.entries,
      Document.IsNormal entry.2)
    (found : documentFor team batch path session = (.ok (.ok document), after)) :
    document.IsNormal := by
  cases taken : batch.bind fun structures => structures.find? (Path.key path) with
  | some entry =>
    rw [documentFor, taken] at found
    obtain ⟨same, -⟩ := pure_eq_ok_iff.1 found
    cases same
    obtain ⟨structures, given, there⟩ := Option.bind_eq_some_iff.1 taken
    exact normal structures given entry ((structures.find?_eq_some_iff _ _).1 there).1
  | none =>
    rw [documentFor, taken] at found
    exact extractFile_isNormal (attempt_eq_ok found)

end Extraction

namespace Sync

open Extraction

variable {team : Collaborators ε} {setup : Setup} {projectId : String}

/-- The records of a plan that was extracted, each with what became of it. -/
theorem preparePlan_dressed {plan prepared : Plan} {session after : Session ε}
    (done : preparePlan (extractRecord team setup projectId) plan session =
      (.ok prepared, after)) : plan.Extracted prepared := by
  have steps : ∀ file dressed (state last : Session ε),
      extractRecord team setup projectId file state = (.ok dressed, last) → Dressed file dressed :=
    fun _ _ _ _ => enrich_dressed
  rw [preparePlan_eq, ← Plan.prepare_eq] at done
  obtain ⟨creates, updates, deletes, unchanged⟩ := Plan.prepare_prepared steps done
  exact ⟨creates, updates, deletes, unchanged⟩

theorem enrichAll_eq (policy : Policy) (structures : Structures) (directory : String)
    (listing : List RemoteFile) :
    enrichAll team policy structures directory projectId listing =
      listing.mapM fun remote => enrich team policy (some structures)
        (Path.join directory remote.path) (FileRecord.ofRemote projectId remote) := by
  induction listing with
  | nil => rfl
  | cons remote rest ih => rw [enrichAll, ih, List.mapM_cons]

theorem enrichAll_dressed {policy : Policy} {structures : Structures} {directory : String}
    {listing : List RemoteFile} {files : List FileRecord} {session after : Session ε}
    (done : enrichAll team policy structures directory projectId listing session =
      (.ok files, after)) :
    List.Forall₂ Dressed (listing.map (FileRecord.ofRemote projectId)) files := by
  rw [enrichAll_eq] at done
  have each := forall₂_of_mapM (fun remote => (pervasive_writeless team).enrich _ _ _ _) done
  refine List.forall₂_map_left_iff.2 (each.imp fun remote file made => ?_)
  obtain ⟨_, _, -, enriched, -⟩ := made
  exact enrich_dressed enriched

/-- A working copy is extracted with its directory first, and then file by file. -/
theorem extractProject_eq_ok {listing : List RemoteFile} {files : List FileRecord}
    {session after : Session ε}
    (done : extractProject team setup projectId listing session = (.ok (some files), after)) :
    ∃ structures between,
      extractDirectory team (setup.localPath projectId) session = (.ok structures, between) ∧
        enrichAll team setup.policy structures (setup.localPath projectId) projectId listing
          between = (.ok files, after) := by
  obtain ⟨result, between, attempted, done⟩ := bind_eq_ok_iff.1 done
  split at done
  · cases (pure_eq_ok_iff.1 done).1
  · exact absurd done throw_ne_ok
  · next structures =>
    split at done
    · cases (pure_eq_ok_iff.1 done).1
    · obtain ⟨found, last, here, done⟩ := bind_eq_ok_iff.1 done
      obtain ⟨same, rfl⟩ := pure_eq_ok_iff.1 done
      cases same
      exact ⟨structures, between, attempt_eq_ok attempted, here⟩

/-- The records of a working copy that was extracted, one for each listed file. -/
theorem extractProject_dressed {listing : List RemoteFile} {files : List FileRecord}
    {session after : Session ε}
    (done : extractProject team setup projectId listing session = (.ok (some files), after)) :
    List.Forall₂ Dressed (listing.map (FileRecord.ofRemote projectId)) files := by
  obtain ⟨structures, between, -, enriched⟩ := extractProject_eq_ok done
  exact enrichAll_dressed enriched

end Sync

end SourceIndex
