import SourceIndex.Proofs.Extraction.Exchanges

/-!
# What extraction asks the parser

Work asks for some files in turn if this is all that it asks, and if it fails just when the parser
was left unusable (`Extraction.AsksFor`). Work that is made of such work asks for the files of its
parts, one part after another (`Extraction.AsksFor.bind`).

Main statements: extraction of a record asks for its file if it is an eligible file that the batch
does not cover, and for nothing otherwise (`Extraction.AsksFor.enrich`); extraction of a plan asks
for the files of its records, those to be created first (`Sync.asksFor_preparePlan`); extraction of
a working copy asks for its directory, and then for what the answer to that does not cover, if it
covers anything (`Sync.extractProject_asks`).
-/

set_option autoImplicit false

namespace SourceIndex

open Fallible

variable {ε α β : Type}

/-! ## Work that asks for files -/

namespace Extraction

variable {team : Collaborators ε}

/-- Work that asks the parser for these files in turn and for nothing else, and that fails if and
only if this leaves the parser unusable. -/
def AsksFor (team : Collaborators ε) (targets : List String) (work : Work ε α) : Prop :=
  ∀ before, ∃ exchanges halt, AboutFiles targets exchanges halt ∧
    before.Talks team exchanges (work before).2 ∧
      ∀ reason, (work before).1 = .error reason ↔ halt = some reason

namespace AsksFor

theorem pure (value : α) : AsksFor team [] (Pure.pure value) :=
  fun before => ⟨[], none, .done, .refl before, fun _ => ⟨nofun, nofun⟩⟩

theorem readSource (team : Collaborators ε) (path : String) :
    AsksFor team [] (readSource team path) :=
  fun before => ⟨[], none, .done, Session.talks_read team path before, fun _ => ⟨nofun, nofun⟩⟩

variable {targets others : List String} {step : Work ε α} {next : α → Work ε β}

/-- What follows a step asks for its files after those of the step. -/
theorem bind (first : AsksFor team targets step)
    (second : ∀ value, AsksFor team others (next value)) :
    AsksFor team (targets ++ others) (step >>= next) := by
  intro before
  obtain ⟨exchanges, halt, about, talks, ends⟩ := first before
  rcases ended : step before with ⟨reason | value, between⟩
  · rw [ended] at talks ends
    obtain rfl : halt = some reason := (ends reason).1 rfl
    rw [bind_apply_of_error ended]
    refine ⟨exchanges, some reason, about.append_of_broken others, talks, fun other => ?_⟩
    simp only [Except.error.injEq, Option.some.injEq]
  · rw [ended] at talks ends
    obtain rfl : halt = none := by
      cases halt with
      | none => rfl
      | some reason => cases (ends reason).2 rfl
    obtain ⟨more, reason, onward, going, ending⟩ := second value between
    rw [bind_apply_of_ok ended]
    exact ⟨exchanges ++ more, reason, about.append onward, talks.trans going, ending⟩

/-- What follows a step may ask for nothing. -/
theorem bind_of_silent (first : AsksFor team targets step)
    (silent : ∀ value, AsksFor team [] (next value)) : AsksFor team targets (step >>= next) := by
  rw [← List.append_nil targets]
  exact first.bind silent

/-- Work for each item in turn asks for the files of the items in turn. -/
theorem mapM {items : List α} {body : α → Work ε β} {wanted : α → Option String}
    (each : ∀ item, AsksFor team (wanted item).toList (body item)) :
    AsksFor team (items.filterMap wanted) (items.mapM body) := by
  induction items with
  | nil => exact pure []
  | cons item rest ih =>
    have split : (item :: rest).filterMap wanted =
        (wanted item).toList ++ rest.filterMap wanted := by
      rw [List.filterMap_cons]
      cases wanted item <;> rfl
    rw [List.mapM_cons, split]
    exact (each item).bind fun first => ih.bind_of_silent fun others => pure (first :: others)

end AsksFor

/-! ## Extraction of a record -/

variable {policy : Policy} {batch : Option Structures} {path target : String}
variable {before after : Session ε}

/-- The batch has an entry for just the files under these keys. -/
def HasJust (batch : Option Structures) (covered : List String) : Prop :=
  ∀ path, batched? batch path = none ↔ Path.key path ∉ covered

theorem hasJust_none : HasJust none [] :=
  fun _ => ⟨fun _ => List.not_mem_nil, fun _ => rfl⟩

theorem Heard.talks {reply : ParserReply} (heard : Heard team target before reply after) :
    ∃ exchanges, AboutFile target exchanges reply ∧ before.Talks team exchanges after := by
  cases heard with
  | first told => exact ⟨_, .once told, Session.talks_asked team .file target before⟩
  | second silent =>
    have earlier := Session.talks_asked team .file target before
    rw [silent] at earlier
    exact ⟨_, .twice _, earlier.trans (Session.talks_asked team .file target _)⟩

/-- The end of work that looks at this result of its first part, if it has to end. -/
def ended? : Except Halt α → Option Halt
  | .ok _ => none
  | .error (.failed error) => if error.isFatal then some (.failed error) else none
  | .error .crashed => some .crashed

theorem attempt_ended {work : Work ε α} {result : Except Halt α}
    (ended : work before = (result, after)) :
    (attempt work before).2 = after ∧
      ∀ reason, (attempt work before).1 = .error reason ↔ ended? result = some reason := by
  rcases result with (error | _) | value
  · cases fatal : error.isFatal with
    | true =>
      rw [attempt_of_fatal ended fatal, ended?, if_pos fatal]
      exact ⟨rfl, fun reason => ⟨fun same => by cases same; rfl, fun same => by cases same; rfl⟩⟩
    | false =>
      rw [attempt_of_failed ended fatal, ended?, fatal]
      exact ⟨rfl, fun reason => ⟨nofun, nofun⟩⟩
  · rw [attempt_of_crashed ended, ended?]
    exact ⟨rfl, fun reason => ⟨fun same => by cases same; rfl, fun same => by cases same; rfl⟩⟩
  · rw [attempt_of_ok ended, ended?]
    exact ⟨rfl, fun reason => ⟨nofun, nofun⟩⟩

/-- An answer that spells no document leaves the parser usable. -/
theorem ended?_documentOfReply (target : String) (reply : ParserReply) :
    ended? (documentOfReply target reply) = reply.halt? := by
  cases reply with
  | text answer =>
    rw [documentOfReply, ParserReply.result]
    dsimp only
    split
    · rfl
    · unfold readAnswer
      split
      · rfl
      · next value _ => cases value <;> rfl
  | failed error => rfl
  | crashed => rfl

theorem AsksFor.attempt_extractFile (team : Collaborators ε) (path : String) :
    AsksFor team [Path.key path] (attempt (extractFile team path)) := by
  intro before
  obtain ⟨reply, after, heard⟩ := exists_heard team (Path.key path) before
  obtain ⟨exchanges, about, talks⟩ := heard.talks
  obtain ⟨same, ends⟩ := attempt_ended (extractFile_of_heard heard)
  rw [ended?_documentOfReply] at ends
  rw [← same] at talks
  exact ⟨exchanges, reply.halt?, .single about, talks, ends⟩

theorem AsksFor.documentFor_of_unbatched (unbatched : batched? batch path = none) :
    AsksFor team [Path.key path] (documentFor team batch path) := by
  rw [batched?] at unbatched
  rw [documentFor, unbatched]
  exact attempt_extractFile team path

theorem AsksFor.documentFor_of_batched {entry : String × Document}
    (there : batched? batch path = some entry) : AsksFor team [] (documentFor team batch path) := by
  rw [batched?] at there
  rw [documentFor, there]
  exact pure _

/-- **Extraction of a record asks for its file if that is an eligible one which is not covered, and
for nothing otherwise.** -/
theorem AsksFor.enrich {covered : List String} (just : HasJust batch covered) (file : FileRecord) :
    AsksFor team (wanted? policy covered path file).toList
      (enrich team policy batch path file) := by
  unfold Extraction.enrich
  by_cases source : policy.isSource file.extension
  · rw [source, if_neg (by simp)]
    by_cases long : policy.maxNameLength < Utf8.size file.name
    · have outside : ¬Eligible policy file := fun eligible => Nat.not_lt.2 eligible.2 long
      rw [if_pos long, wanted?, if_neg fun both => outside both.1]
      exact pure _
    · have eligible : Eligible policy file := ⟨source, Nat.le_of_not_lt long⟩
      rw [if_neg long]
      have documented : AsksFor team (wanted? policy covered path file).toList
          (documentFor team batch path) := by
        cases there : batched? batch path with
        | none =>
          rw [wanted?, if_pos ⟨eligible, (just path).1 there⟩]
          exact documentFor_of_unbatched there
        | some entry =>
          have inside : ¬Path.key path ∉ covered := by
            rw [← just path, there]
            exact nofun
          rw [wanted?, if_neg fun both => inside both.2]
          exact documentFor_of_batched there
      refine documented.bind_of_silent fun found => ?_
      cases found with
      | error _ => exact pure _
      | ok document =>
        refine (readSource team path).bind_of_silent fun text => ?_
        cases text <;> exact pure _
  · have outside : ¬Eligible policy file := fun eligible => source eligible.1
    rw [Bool.not_eq_true] at source
    rw [source, if_pos (by rfl), wanted?, if_neg fun both => outside both.1]
    exact pure _

/-! ## Extraction of a directory -/

/-- Objects are filed under their keys, beside what is filed already. -/
theorem fileAll_of_objects {members : Json.Members}
    (objects : ∀ member ∈ members, ∃ inner, member.2 = .object inner) (filed : Structures) :
    ∃ structures, fileAll filed members = .ok structures ∧ ∀ wanted,
      structures.find? wanted = none ↔
        filed.find? wanted = none ∧ wanted ∉ members.map fun member => Path.key member.1 := by
  induction members generalizing filed with
  | nil => exact ⟨filed, rfl, fun wanted => by simp⟩
  | cons member rest ih =>
    obtain ⟨⟨inner, object⟩, others⟩ := List.forall_mem_cons.1 objects
    obtain ⟨structures, taken, found⟩ :=
      ih others (filed.put (Path.key member.1, Document.normalize inner))
    refine ⟨structures, ?_, fun wanted => ?_⟩
    · rw [fileAll, object]
      exact taken
    · rw [found, Keyed.find?_put, List.map_cons, List.mem_cons]
      split <;> grind

/-- Something that is no object cannot be filed, and the parser stays usable. -/
theorem fileAll_of_other {members : Json.Members}
    (other : ¬∀ member ∈ members, ∃ inner, member.2 = .object inner) (filed : Structures) :
    ∃ error, fileAll filed members = .error error ∧ error.isFatal = false := by
  induction members generalizing filed with
  | nil => exact absurd (fun _ within => absurd within List.not_mem_nil) other
  | cons member rest ih =>
    rw [fileAll]
    cases value : member.2 with
    | object inner =>
      refine ih (fun others => other ?_) _
      exact List.forall_mem_cons.2 ⟨⟨inner, value⟩, others⟩
    | _ => exact ⟨_, rfl, rfl⟩

/-- The structures that the reply to a request for a directory spells. -/
def structuresOfReply (target : String) (reply : ParserReply) : Except Halt Structures :=
  match reply.result with
  | .error halt => .error halt
  | .ok answer =>
    if answer.isEmpty then .error (.failed (.empty target))
    else (readDirectoryAnswer target answer).mapError .failed

theorem extractDirectory_apply (team : Collaborators ε) (path : String) (before : Session ε) :
    extractDirectory team path before =
      (structuresOfReply (Path.key path) (team.ask .directory (Path.key path) before.world).1,
        before.asked team .directory (Path.key path)) := by
  have asking := ask_apply team .directory (Path.key path) before
  unfold extractDirectory
  generalize (team.ask .directory (Path.key path) before.world).1 = reply at asking ⊢
  cases reply with
  | text answer =>
    rw [bind_apply_of_ok asking, structuresOfReply, ParserReply.result]
    dsimp only
    split
    · rfl
    · cases readDirectoryAnswer (Path.key path) answer <;> rfl
  | failed error =>
    rw [bind_apply_of_error asking]
    rfl
  | crashed =>
    rw [bind_apply_of_error asking]
    rfl

/-- An answer that spells no structures leaves the parser usable. -/
theorem ended?_structuresOfReply (target : String) (reply : ParserReply) :
    ended? (structuresOfReply target reply) = reply.halt? := by
  cases reply with
  | text answer =>
    rw [structuresOfReply, ParserReply.result]
    dsimp only
    split
    · rfl
    · unfold readDirectoryAnswer
      split
      · rfl
      · next members _ =>
        by_cases objects : ∀ member ∈ members, ∃ inner, member.2 = .object inner
        · obtain ⟨structures, taken, -⟩ := fileAll_of_objects objects Keyed.empty
          rw [taken]
          rfl
        · obtain ⟨error, refused, usable⟩ := fileAll_of_other objects Keyed.empty
          rw [refused, Except.mapError, ended?, usable]
          rfl
  | failed error => rfl
  | crashed => rfl

/-- A reply that covers files gives a batch that has just these. -/
theorem structuresOfReply_of_covers {reply : ParserReply} {covered : List String}
    (covers : reply.Covers covered) :
    ∃ structures, structuresOfReply target reply = .ok structures ∧
      structures.entries.isEmpty = false ∧ HasJust (some structures) covered := by
  obtain @⟨answer, members, spelled, filled, objects⟩ := covers
  obtain ⟨structures, taken, found⟩ := fileAll_of_objects objects Keyed.empty
  have spoken : ¬answer.isEmpty = true := by
    intro empty
    have silent : Json.parseObject? "" = none := by decide
    rw [String.isEmpty_iff.1 empty, silent] at spelled
    cases spelled
  have just : HasJust (some structures) (members.map fun member => Path.key member.1) := by
    intro path
    rw [batched?, Option.bind_some, found]
    exact and_iff_right rfl
  have read : readDirectoryAnswer target answer = .ok structures := by
    rw [readDirectoryAnswer, spelled]
    exact taken
  refine ⟨structures, ?_, ?_, just⟩
  · rw [structuresOfReply, ParserReply.result]
    dsimp only
    rw [if_neg spoken, read]
    rfl
  · obtain ⟨member, within⟩ := List.exists_mem_of_ne_nil members filled
    rw [← Bool.not_eq_true, List.isEmpty_iff]
    intro empty
    have absent : structures.find? (Path.key member.1) = none := by rw [Keyed.find?, empty]; rfl
    exact ((found _).1 absent).2 (List.mem_map_of_mem within)

/-- A reply that covers nothing gives an empty batch at most. -/
theorem structuresOfReply_of_uncovered {reply : ParserReply} {structures : Structures}
    (uncovered : ∀ covered, ¬reply.Covers covered)
    (spelled : structuresOfReply target reply = .ok structures) :
    structures.entries.isEmpty = true := by
  cases reply with
  | text answer =>
    rw [structuresOfReply, ParserReply.result] at spelled
    dsimp only at spelled
    split at spelled
    · cases spelled
    · unfold readDirectoryAnswer at spelled
      split at spelled
      · cases spelled
      · next members parsed =>
        by_cases objects : ∀ member ∈ members, ∃ inner, member.2 = .object inner
        · have empty : members = [] := by
            by_contra filled
            exact uncovered _ (.intro parsed filled objects)
          subst empty
          cases spelled
          rfl
        · obtain ⟨error, refused, -⟩ := fileAll_of_other objects Keyed.empty
          rw [refused] at spelled
          cases spelled
  | failed error => cases spelled
  | crashed => cases spelled

end Extraction

/-! ## Extraction of a plan and of a working copy -/

namespace Sync

open Extraction

variable {team : Collaborators ε} {setup : Setup} {projectId : String}

/-- **Extraction of a plan asks for the eligible files of its records, those to be created
first.** -/
theorem asksFor_preparePlan (plan : Plan) :
    AsksFor team (wantedBelow setup.policy [] (setup.localPath projectId)
        (plan.toCreate ++ plan.toUpdate))
      (preparePlan (extractRecord team setup projectId) plan) := by
  have each : ∀ file : FileRecord,
      AsksFor team (wanted? setup.policy [] (Path.join (setup.localPath projectId) file.path)
        file).toList (extractRecord team setup projectId file) :=
    fun file => AsksFor.enrich hasJust_none file
  rw [preparePlan_eq, wantedBelow, List.filterMap_append]
  refine (AsksFor.mapM each).bind fun created => ?_
  exact (AsksFor.mapM each).bind_of_silent fun updated => .pure _

theorem asksFor_enrichAll {policy : Policy} {structures : Structures} {covered : List String}
    (just : HasJust (some structures) covered) (directory : String) (listing : List RemoteFile) :
    AsksFor team (wantedBelow policy covered directory
        (listing.map (FileRecord.ofRemote projectId)))
      (enrichAll team policy structures directory projectId listing) := by
  rw [enrichAll_eq, wantedBelow, List.filterMap_map]
  exact AsksFor.mapM fun remote => AsksFor.enrich just (FileRecord.ofRemote projectId remote)

section

variable {before : Session ε} {reply : ParserReply} (listing : List RemoteFile)
  (replied : (team.ask .directory (Path.key (setup.localPath projectId)) before.world).1 = reply)
include replied

/-- If the parser gives nothing for the directory of a working copy, no more is asked. -/
theorem extractProject_of_uncovered (uncovered : ∀ covered, ¬reply.Covers covered) :
    (extractProject team setup projectId listing before).2 =
        before.asked team .directory (Path.key (setup.localPath projectId)) ∧
      ∀ reason, reply.halt? = some reason →
        (extractProject team setup projectId listing before).1 = .error reason := by
  have asked := extractDirectory_apply team (setup.localPath projectId) before
  rw [replied] at asked
  obtain ⟨same, ends⟩ := attempt_ended asked
  rw [ended?_structuresOfReply] at ends
  unfold extractProject
  rcases ended : attempt (extractDirectory team (setup.localPath projectId)) before with
    ⟨reason | result, after⟩
  · rw [ended] at same ends
    rw [bind_apply_of_error ended]
    refine ⟨same, fun other halted => ?_⟩
    cases (ends other).2 halted
    rfl
  · rw [ended] at same ends
    rw [bind_apply_of_ok ended]
    refine ⟨?_, fun other halted => absurd ((ends other).2 halted) nofun⟩
    cases result with
    | error error => cases error <;> exact same
    | ok structures =>
      have spelled := attempt_eq_ok ended
      rw [asked] at spelled
      have empty := structuresOfReply_of_uncovered uncovered (congrArg Prod.fst spelled)
      dsimp only
      rw [if_pos empty]
      exact same

/-- If the parser gives structures for the directory of a working copy, the eligible listed files
that they do not cover are asked for. -/
theorem extractProject_of_covers {covered : List String} (covers : reply.Covers covered) :
    ∃ exchanges halt,
      AboutFiles (wantedBelow setup.policy covered (setup.localPath projectId)
        (listing.map (FileRecord.ofRemote projectId))) exchanges halt ∧
      (before.asked team .directory (Path.key (setup.localPath projectId))).Talks team exchanges
        (extractProject team setup projectId listing before).2 ∧
      ∀ reason, halt = some reason →
        (extractProject team setup projectId listing before).1 = .error reason := by
  obtain ⟨structures, spelled, filled, just⟩ := structuresOfReply_of_covers covers
  have asked := extractDirectory_apply team (setup.localPath projectId) before
  rw [replied, spelled] at asked
  have onward : AsksFor team (wantedBelow setup.policy covered (setup.localPath projectId)
        (listing.map (FileRecord.ofRemote projectId)))
      (do let files ← enrichAll team setup.policy structures (setup.localPath projectId)
            projectId listing
          pure (some files)) :=
    (asksFor_enrichAll just _ listing).bind_of_silent fun files => .pure _
  obtain ⟨exchanges, halt, about, talks, ends⟩ := onward _
  unfold extractProject
  rw [bind_apply_of_ok (attempt_of_ok asked)]
  dsimp only
  rw [filled, if_neg Bool.false_ne_true]
  exact ⟨exchanges, halt, about, talks, fun reason => (ends reason).2⟩

end

/-- **Extraction of a working copy asks for its directory, and then for the eligible listed files
that the answer does not cover, if it covers anything.** -/
theorem extractProject_asks (listing : List RemoteFile) (before : Session ε) :
    ∃ exchanges halt,
      AboutCopy setup.policy (setup.localPath projectId)
        (listing.map (FileRecord.ofRemote projectId)) exchanges halt ∧
      before.Talks team exchanges (extractProject team setup projectId listing before).2 ∧
      ∀ reason, halt = some reason →
        (extractProject team setup projectId listing before).1 = .error reason := by
  have directory := Session.talks_asked team .directory (Path.key (setup.localPath projectId))
    before
  generalize replied : (team.ask .directory (Path.key (setup.localPath projectId))
    before.world).1 = reply at directory
  by_cases covering : ∃ covered, reply.Covers covered
  · obtain ⟨covered, covers⟩ := covering
    obtain ⟨exchanges, halt, about, talks, ends⟩ :=
      extractProject_of_covers listing replied covers
    exact ⟨_, halt, .covered covers about, directory.trans talks, ends⟩
  · have uncovered : ∀ covered, ¬reply.Covers covered := not_exists.1 covering
    obtain ⟨same, ends⟩ := extractProject_of_uncovered listing replied uncovered
    rw [← same] at directory
    exact ⟨_, reply.halt?, .uncovered uncovered, directory, ends⟩

end Sync

end SourceIndex
