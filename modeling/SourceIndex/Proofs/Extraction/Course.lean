import SourceIndex.Extraction
import SourceIndex.Parser.Channel
import SourceIndex.Proofs.Fallible

/-!
# The course of an extraction

Extraction of a record asks the parser for its file at most twice, the second time only after an
empty answer (`Extraction.Heard`). It finds a document in the batch or in an answer (`Found`), or it
does not, for a reason that leaves the parser usable (`Unfound`), or it cannot go on (`Broken`).

Main statement: the record is left alone, documented or demoted, or extraction halts
(`Extraction.enrich_cases`), and each of these says what was asked and read.
-/

set_option autoImplicit false

namespace SourceIndex

open Fallible

/-! ## Requests to the parser -/

variable {ε : Type}

/-- The parser refuses a request for its characters only if a message cannot carry the payload. -/
def Collaborators.RefusesForeign (team : Collaborators ε) : Prop :=
  ∀ kind payload world, (team.ask kind payload world).1 = .failed .nonAscii →
    Channel.isAscii payload = false

/-- The session after a request to the parser. -/
def Session.asked (team : Collaborators ε) (kind : RequestKind) (payload : String)
    (session : Session ε) : Session ε :=
  { (session.record (.asked kind payload)) with
    world := (team.ask kind payload session.world).2 }

/-- A reply as the result of a request. -/
def ParserReply.result : ParserReply → Except Halt String
  | .text answer => .ok answer
  | .failed error => .error (.failed (.parser error))
  | .crashed => .error .crashed

namespace Extraction

variable {team : Collaborators ε} {policy : Policy} {batch : Option Structures}
variable {path : String} {before after : Session ε}

/-! ## What the parser says of a file -/

/-- What is heard of a file in the end: the reply to a request for it, or to a second one if the
first answer was empty. -/
inductive Heard (team : Collaborators ε) (target : String) (before : Session ε) :
    ParserReply → Session ε → Prop where
  | first (told : (team.ask .file target before.world).1 ≠ .text "") :
      Heard team target before (team.ask .file target before.world).1
        (before.asked team .file target)
  | second (silent : (team.ask .file target before.world).1 = .text "") :
      Heard team target before
        (team.ask .file target (before.asked team .file target).world).1
        ((before.asked team .file target).asked team .file target)

theorem exists_heard (team : Collaborators ε) (target : String) (before : Session ε) :
    ∃ reply after, Heard team target before reply after := by
  by_cases silent : (team.ask .file target before.world).1 = .text ""
  · exact ⟨_, _, .second silent⟩
  · exact ⟨_, _, .first silent⟩

/-- What is heard is a reply of the parser about the file. -/
theorem Heard.replied {target : String} {reply : ParserReply}
    (heard : Heard team target before reply after) :
    ∃ world, (team.ask .file target world).1 = reply := by
  cases heard with
  | first told => exact ⟨_, rfl⟩
  | second silent => exact ⟨_, rfl⟩

theorem ask_apply (team : Collaborators ε) (kind : RequestKind) (payload : String)
    (session : Session ε) :
    ask team kind payload session =
      ((team.ask kind payload session.world).1.result, session.asked team kind payload) := by
  rw [ask]
  dsimp only
  cases (team.ask kind payload session.world).1 <;> rfl

/-- The document that the last reply to a request for a file spells. -/
def documentOfReply (target : String) (reply : ParserReply) : Except Halt Document :=
  match reply.result with
  | .error halt => .error halt
  | .ok answer =>
    if answer.isEmpty then .error (.failed (.empty target))
    else (readAnswer target answer).mapError .failed

/-- Takes up the last answer to a request for a file. -/
def takeUp (target answer : String) : Work ε Document :=
  if answer.isEmpty then throw (.failed (.empty target)) else ofResult (readAnswer target answer)

theorem takeUp_apply (target answer : String) (session : Session ε) :
    takeUp target answer session = (documentOfReply target (.text answer), session) := by
  unfold takeUp documentOfReply
  dsimp only [ParserReply.result]
  split
  · rfl
  · cases readAnswer target answer <;> rfl

theorem ask_takeUp_apply (team : Collaborators ε) (target : String) (session : Session ε) :
    (ask team .file target >>= takeUp target) session =
      (documentOfReply target (team.ask .file target session.world).1,
        session.asked team .file target) := by
  have asking := ask_apply team .file target session
  generalize (team.ask .file target session.world).1 = reply at asking ⊢
  cases reply with
  | text answer => rw [bind_apply_of_ok asking, takeUp_apply]
  | failed error =>
    rw [bind_apply_of_error asking]
    rfl
  | crashed =>
    rw [bind_apply_of_error asking]
    rfl

/-- A file is extracted from what is heard of it. -/
theorem extractFile_of_heard {reply : ParserReply}
    (heard : Heard team (Path.key path) before reply after) :
    extractFile team path before = (documentOfReply (Path.key path) reply, after) := by
  have asking := ask_apply team .file (Path.key path) before
  unfold extractFile
  dsimp only
  cases heard with
  | second silent =>
    rw [silent] at asking
    rw [bind_apply_of_ok asking, if_pos (by decide)]
    exact ask_takeUp_apply team (Path.key path) _
  | first told =>
    generalize (team.ask .file (Path.key path) before.world).1 = reply at asking told ⊢
    cases reply with
    | text answer =>
      have spoken : ¬answer.isEmpty = true := fun empty =>
        told (congrArg ParserReply.text (String.isEmpty_iff.1 empty))
      rw [bind_apply_of_ok asking, if_neg spoken]
      exact takeUp_apply (Path.key path) answer _
    | failed error =>
      rw [bind_apply_of_error asking]
      rfl
    | crashed =>
      rw [bind_apply_of_error asking]
      rfl

/-! ## How the search for a document ends -/

/-- The entry of a batch for a file, if there is a batch and it has one. -/
def batched? (batch : Option Structures) (path : String) : Option (String × Document) :=
  batch.bind fun structures => structures.find? (Path.key path)

/-- The document of a file: from the batch without a request, or else from the parser's answer. -/
inductive Found (team : Collaborators ε) (batch : Option Structures) (path : String)
    (before : Session ε) : Document → Session ε → Prop where
  | batched {entry : String × Document} (there : batched? batch path = some entry) :
      Found team batch path before entry.2 before
  | answered {answer : String} {members : Json.Members} {after : Session ε}
      (unbatched : batched? batch path = none)
      (heard : Heard team (Path.key path) before (.text answer) after) (told : answer ≠ "")
      (spelled : Json.parse? answer = some (.object members)) :
      Found team batch path before (Document.normalize members) after

/-- Why there is no document of a file although the parser is still usable. -/
inductive Unfound (team : Collaborators ε) (batch : Option Structures) (path : String)
    (before : Session ε) : ExtractError → Session ε → Prop where
  /-- Both answers were empty. -/
  | empty {after : Session ε} (unbatched : batched? batch path = none)
      (heard : Heard team (Path.key path) before (.text "") after) :
      Unfound team batch path before (.empty (Path.key path)) after
  | malformed {answer : String} {after : Session ε} (unbatched : batched? batch path = none)
      (heard : Heard team (Path.key path) before (.text answer) after) (told : answer ≠ "")
      (garbled : Json.parse? answer = none) :
      Unfound team batch path before (.malformed (Path.key path)) after
  | notAnObject {answer : String} {value : Json} {after : Session ε}
      (unbatched : batched? batch path = none)
      (heard : Heard team (Path.key path) before (.text answer) after) (told : answer ≠ "")
      (spelled : Json.parse? answer = some value) (other : ∀ members, value ≠ .object members) :
      Unfound team batch path before (.notAnObject (Path.key path)) after
  | refused {after : Session ε} (unbatched : batched? batch path = none)
      (heard : Heard team (Path.key path) before (.failed .nonAscii) after)
      (foreign : team.RefusesForeign → Channel.isAscii (Path.key path) = false) :
      Unfound team batch path before (.parser .nonAscii) after

/-- Why extraction cannot go on: a request met an error after which the parser is unusable, or the
task died with it. -/
inductive Broken (team : Collaborators ε) (batch : Option Structures) (path : String)
    (before : Session ε) : Halt → Session ε → Prop where
  | fatal {error : ParserError} {after : Session ε} (unbatched : batched? batch path = none)
      (heard : Heard team (Path.key path) before (.failed error) after)
      (fatal : error.isFatal = true) :
      Broken team batch path before (.failed (.parser error)) after
  | crashed {after : Session ε} (unbatched : batched? batch path = none)
      (heard : Heard team (Path.key path) before .crashed after) :
      Broken team batch path before .crashed after

theorem attempt_of_ok {α : Type} {work : Work ε α} {value : α}
    (ended : work before = (.ok value, after)) :
    attempt work before = (.ok (.ok value), after) := by
  rw [attempt, ended]

theorem attempt_of_failed {α : Type} {work : Work ε α} {error : ExtractError}
    (ended : work before = (.error (.failed error), after)) (usable : error.isFatal = false) :
    attempt work before = (.ok (.error error), after) := by
  simp only [attempt, ended, usable]
  rfl

theorem attempt_of_fatal {α : Type} {work : Work ε α} {error : ExtractError}
    (ended : work before = (.error (.failed error), after)) (fatal : error.isFatal = true) :
    attempt work before = (.error (.failed error), after) := by
  simp only [attempt, ended, fatal, if_true]

theorem attempt_of_crashed {α : Type} {work : Work ε α}
    (ended : work before = (.error .crashed, after)) :
    attempt work before = (.error .crashed, after) := by
  rw [attempt, ended]

/-- An answer spells a document, or it does not, for one of three reasons. -/
theorem documentOfReply_cases {answer : String} (unbatched : batched? batch path = none)
    (heard : Heard team (Path.key path) before (.text answer) after) :
    (∃ document, documentOfReply (Path.key path) (.text answer) = .ok document ∧
        Found team batch path before document after) ∨
      ∃ error, documentOfReply (Path.key path) (.text answer) = .error (.failed error) ∧
        error.isFatal = false ∧ Unfound team batch path before error after := by
  unfold documentOfReply
  dsimp only [ParserReply.result]
  split
  · next silent =>
    cases String.isEmpty_iff.1 silent
    exact .inr ⟨_, rfl, rfl, .empty unbatched heard⟩
  · next told =>
    have spoken : answer ≠ "" := fun empty => told (String.isEmpty_iff.2 empty)
    rw [readAnswer]
    cases spelled : Json.parse? answer with
    | none => exact .inr ⟨_, rfl, rfl, .malformed unbatched heard spoken spelled⟩
    | some value =>
      cases value with
      | object members => exact .inl ⟨_, rfl, .answered unbatched heard spoken spelled⟩
      | _ => exact .inr ⟨_, rfl, rfl, .notAnObject unbatched heard spoken spelled nofun⟩

/-- A document is found, or it is not, or extraction cannot go on. -/
theorem documentFor_cases (team : Collaborators ε) (batch : Option Structures) (path : String)
    (before : Session ε) :
    (∃ document after, documentFor team batch path before = (.ok (.ok document), after) ∧
        Found team batch path before document after) ∨
      (∃ error after, documentFor team batch path before = (.ok (.error error), after) ∧
        Unfound team batch path before error after) ∨
      ∃ halt after, documentFor team batch path before = (.error halt, after) ∧
        Broken team batch path before halt after := by
  cases there : batched? batch path with
  | some entry =>
    refine .inl ⟨entry.2, before, ?_, .batched there⟩
    rw [batched?] at there
    rw [documentFor, there]
    rfl
  | none =>
    have asks : documentFor team batch path before = attempt (extractFile team path) before := by
      rw [batched?] at there
      rw [documentFor, there]
    obtain ⟨reply, after, heard⟩ := exists_heard team (Path.key path) before
    have extracted := extractFile_of_heard heard
    rw [asks]
    cases reply with
    | text answer =>
      rcases documentOfReply_cases there heard with
        ⟨document, read, found⟩ | ⟨error, read, usable, unfound⟩
      · rw [read] at extracted
        exact .inl ⟨document, after, attempt_of_ok extracted, found⟩
      · rw [read] at extracted
        exact .inr (.inl ⟨error, after, attempt_of_failed extracted usable, unfound⟩)
    | failed error =>
      cases fatal : error.isFatal with
      | true =>
        exact .inr (.inr ⟨_, _, attempt_of_fatal extracted fatal, .fatal there heard fatal⟩)
      | false =>
        have foreign : error = .nonAscii := by
          by_contra other
          rw [(ParserError.isFatal_iff error).2 other] at fatal
          cases fatal
        subst foreign
        obtain ⟨world, replied⟩ := heard.replied
        exact .inr (.inl ⟨_, _, attempt_of_failed extracted rfl,
          .refused there heard fun refuses => refuses _ _ _ replied⟩)
    | crashed =>
      exact .inr (.inr ⟨_, _, attempt_of_crashed extracted, .crashed there heard⟩)

/-- A document that is found is handed on. -/
theorem Found.documentFor_eq {document : Document}
    (found : Found team batch path before document after) :
    documentFor team batch path before = (.ok (.ok document), after) := by
  cases found with
  | batched there =>
    rw [batched?] at there
    rw [documentFor, there]
    rfl
  | @answered answer members _ unbatched heard told spelled =>
    have extracted := extractFile_of_heard heard
    have spoken : ¬answer.isEmpty = true := fun empty => told (String.isEmpty_iff.1 empty)
    rw [documentOfReply] at extracted
    dsimp only [ParserReply.result] at extracted
    rw [if_neg spoken, readAnswer, spelled] at extracted
    rw [batched?] at unbatched
    rw [documentFor, unbatched]
    exact attempt_of_ok extracted

/-! ## How extraction of a record ends -/

/-- The file is a source file, and its name is not too long. -/
def Eligible (policy : Policy) (file : FileRecord) : Prop :=
  policy.isSource file.extension = true ∧ Utf8.size file.name ≤ policy.maxNameLength

/-- The file is no source file. Its record stays as it is, and nobody is asked. -/
structure LeftAlone (policy : Policy) (before : Session ε) (file enriched : FileRecord)
    (after : Session ε) : Prop where
  other : policy.isSource file.extension = false
  same : enriched = file
  silent : after = before

/-- The record carries the document that was found, together with the ASCII bytes of the file. -/
inductive Documented (team : Collaborators ε) (policy : Policy) (batch : Option Structures)
    (path : String) (before : Session ε) (file : FileRecord) : FileRecord → Session ε → Prop where
  | intro {document : Document} {between : Session ε} {bytes : Bytes}
      (eligible : Eligible policy file) (found : Found team batch path before document between)
      (content : team.read path between.world = .ok bytes) :
      Documented team policy batch path before file
        (file.attach document (Utf8.asciiPart bytes)) (between.record (.read path))

/-- The record is demoted: for the length of the name, and then nobody is asked, or because there is
no document, or because the file cannot be read. -/
inductive Demoted (team : Collaborators ε) (policy : Policy) (batch : Option Structures)
    (path : String) (before : Session ε) (file : FileRecord) : FileRecord → Session ε → Prop where
  | overlong (source : policy.isSource file.extension = true)
      (long : policy.maxNameLength < Utf8.size file.name) :
      Demoted team policy batch path before file file.demote before
  | unfound {error : ExtractError} {after : Session ε} (eligible : Eligible policy file)
      (unfound : Unfound team batch path before error after) :
      Demoted team policy batch path before file file.demote after
  | unreadable {document : Document} {between : Session ε} {error : DiskError}
      (eligible : Eligible policy file) (found : Found team batch path before document between)
      (content : team.read path between.world = .error error) :
      Demoted team policy batch path before file file.demote (between.record (.read path))

theorem Demoted.same {file enriched : FileRecord}
    (demoted : Demoted team policy batch path before file enriched after) :
    enriched = file.demote := by
  cases demoted <;> rfl

/-- The record is of a source file, and the search for its document broke the parser. -/
inductive Halted (team : Collaborators ε) (policy : Policy) (batch : Option Structures)
    (path : String) (before : Session ε) (file : FileRecord) : Halt → Session ε → Prop where
  | intro {halt : Halt} {after : Session ε} (eligible : Eligible policy file)
      (broken : Broken team batch path before halt after) :
      Halted team policy batch path before file halt after

theorem enrich_cases (team : Collaborators ε) (policy : Policy) (batch : Option Structures)
    (path : String) (file : FileRecord) (before : Session ε) :
    (∃ enriched after, enrich team policy batch path file before = (.ok enriched, after) ∧
        (LeftAlone policy before file enriched after ∨
          Documented team policy batch path before file enriched after ∨
          Demoted team policy batch path before file enriched after)) ∨
      ∃ halt after, enrich team policy batch path file before = (.error halt, after) ∧
        Halted team policy batch path before file halt after := by
  unfold enrich
  cases source : policy.isSource file.extension with
  | false => exact .inl ⟨file, before, rfl, .inl ⟨source, rfl, rfl⟩⟩
  | true =>
    rw [if_neg (by simp)]
    by_cases long : policy.maxNameLength < Utf8.size file.name
    · rw [if_pos long]
      exact .inl ⟨file.demote, before, rfl, .inr (.inr (.overlong source long))⟩
    · rw [if_neg long]
      have eligible : Eligible policy file := ⟨source, Nat.le_of_not_lt long⟩
      rcases documentFor_cases team batch path before with
        ⟨document, between, searched, found⟩ | ⟨error, between, searched, unfound⟩ |
          ⟨halt, after, searched, broken⟩
      · rw [bind_apply_of_ok searched]
        dsimp only
        cases content : team.read path between.world with
        | ok bytes =>
          have read : readSource team path between =
              (.ok (.ok (Utf8.asciiPart bytes)), between.record (.read path)) := by
            rw [readSource, content]
            rfl
          rw [bind_apply_of_ok read]
          exact .inl ⟨_, _, rfl, .inr (.inl (.intro eligible found content))⟩
        | error error =>
          have read : readSource team path between =
              (.ok (.error error), between.record (.read path)) := by
            rw [readSource, content]
            rfl
          rw [bind_apply_of_ok read]
          exact .inl ⟨_, _, rfl, .inr (.inr (.unreadable eligible found content))⟩
      · rw [bind_apply_of_ok searched]
        exact .inl ⟨_, _, rfl, .inr (.inr (.unfound eligible unfound))⟩
      · rw [bind_apply_of_error searched]
        exact .inr ⟨halt, after, rfl, .intro eligible broken⟩

end Extraction

end SourceIndex
