import SourceIndex.Proofs.Parser.Attribution

/-!
# What an answer is read from

A channel hears of its worker a whole line (`Channel.HeardLine`), or what there is of a line when
the output of the worker has ended (`Channel.CutOff`). Either is an answer if it can be read, and the
channel goes on as if the answer were whole. Only what cannot be read has the worker replaced.

So an empty answer does not tell that the worker was replaced: a line of blanks is read as the empty
text (`Channel.request_empty`). And an answer does not tell that the worker wrote a whole line: a
start of its line may be read, too (`Channel.request_cutOff`).
-/

set_option autoImplicit false

namespace SourceIndex

variable {ω ψ : Type}

namespace Frame

/-- Nothing is left to read of an output that ended without a whole line. -/
theorem readLine_of_cutOff {part : Bytes} (unended : lineFeed ∉ part) :
    readLine part true = (if part.isEmpty then .error .closed else read part, []) := by
  rw [readLine, firstLine?_eq_none_iff.2 unended]
  rfl

end Frame

namespace Channel

variable {workers : Workers ω ψ} {link after : Link (Chronicle ω) (Nat × ψ)}

/-! ## Whole lines and parts of lines -/

/-- The worker of a channel got the message and, with what was unread, there is a whole line. -/
inductive HeardLine (workers : Workers ω ψ) (message : String)
    (before : Link (Chronicle ω) (Nat × ψ)) : Bytes → Link (Chronicle ω) (Nat × ψ) → Prop where
  | intro {number : Nat} {process : ψ} {unread output line rest : Bytes} {next : Option ψ}
      {world : ω} (holds : before.channel.worker = some ⟨some (number, process), unread⟩)
      (wrote : workers.receive process (Frame.write message) before.world.world =
        ((output, next), world))
      (whole : Frame.firstLine? (unread ++ output) = some (line, rest)) :
      HeardLine workers message before line
        ⟨{ before.channel with worker := some ⟨next.map fun left => (number, left), rest⟩ },
          before.world.add (.answered number (Frame.write message) output next.isNone) world⟩

/-- The worker of a channel got the message and its output ended before there was a whole line. -/
inductive CutOff (workers : Workers ω ψ) (message : String)
    (before : Link (Chronicle ω) (Nat × ψ)) : Bytes → Link (Chronicle ω) (Nat × ψ) → Prop where
  | intro {number : Nat} {process : ψ} {unread output : Bytes} {world : ω}
      (holds : before.channel.worker = some ⟨some (number, process), unread⟩)
      (wrote : workers.receive process (Frame.write message) before.world.world =
        ((output, none), world))
      (unended : Frame.lineFeed ∉ unread ++ output) :
      CutOff workers message before (unread ++ output)
        ⟨{ before.channel with worker := some ⟨none, []⟩ },
          before.world.add (.answered number (Frame.write message) output true) world⟩

/-- An answer was read from a whole line or from a part of one. -/
theorem Delivered.heard {message reply : String}
    (delivered : Delivered workers message link (.ok reply) after) :
    ∃ line, Frame.read line = .ok reply ∧
      (HeardLine workers message link line after ∨
        CutOff workers message link line after ∧ line ≠ []) := by
  cases delivered with
  | exchanged holds exchanged =>
    cases exchanged with
    | @spoken number process unread output rest next world answer wrote reading =>
      rcases Frame.readLine_eq_ok reading with
        ⟨line, whole, read⟩ | ⟨none, ended, more, read, rfl⟩
      · exact ⟨line, read, .inl (.intro holds wrote whole)⟩
      · obtain rfl : next = Option.none := Option.isNone_iff_eq_none.1 ended
        exact ⟨unread ++ output, read,
          .inr ⟨.intro holds wrote (Frame.firstLine?_eq_none_iff.1 none), more⟩⟩

theorem HeardLine.restarts {message : String} {line : Bytes}
    (heard : HeardLine workers message link line after) :
    after.channel.restarts = link.channel.restarts := by
  cases heard
  rfl

theorem CutOff.restarts {message : String} {line : Bytes}
    (cutOff : CutOff workers message link line after) :
    after.channel.restarts = link.channel.restarts := by
  cases cutOff
  rfl

/-- A whole line ends with a line feed. -/
theorem HeardLine.ends {message : String} {line : Bytes}
    (heard : HeardLine workers message link line after) :
    ∃ start, line = start ++ [Frame.lineFeed] := by
  cases heard with
  | intro holds wrote whole =>
    obtain ⟨-, start, ends, -⟩ := Frame.firstLine?_eq_some whole
    exact ⟨start, ends⟩

theorem Delivered.restarts {message : String} {answer : Except Frame.Fault String}
    (delivered : Delivered workers message link answer after) :
    after.channel.restarts = link.channel.restarts := by
  cases delivered with
  | missing absent => rfl
  | exchanged holds exchanged => rfl

theorem Renewed.restarts (renewed : Renewed workers link after) :
    after.channel.restarts = link.channel.restarts + 1 := by
  cases renewed with
  | intro greeted => rfl

/-! ## Empty answers -/

/-- What an empty answer tells of the worker that got the message. -/
inductive Emptied (workers : Workers ω ψ) (message : String)
    (before : Link (Chronicle ω) (Nat × ψ)) : Link (Chronicle ω) (Nat × ψ) → Prop where
  /-- It gave no answer, and it was replaced for that. -/
  | replaced {fault : Frame.Fault} {lost after : Link (Chronicle ω) (Nat × ψ)}
      (delivered : Delivered workers message before (.error fault) lost)
      (renewed : Renewed workers lost after)
      (restarts : after.channel.restarts = before.channel.restarts + 1) :
      Emptied workers message before after
  /-- It wrote a line of blanks, and it was not replaced. -/
  | kept {line : Bytes} {after : Link (Chronicle ω) (Nat × ψ)} (left : line ≠ [])
      (blank : ∀ byte ∈ line, Frame.isBlank byte)
      (heard : HeardLine workers message before line after ∨
        CutOff workers message before line after)
      (restarts : after.channel.restarts = before.channel.restarts) :
      Emptied workers message before after

/-- **What an empty answer tells.** The worker that got the message gave no answer and was replaced
by one that sent the start message back; or it wrote a line of blanks, which is read as the empty
text and has nobody replaced. -/
theorem request_empty (workers : Workers ω ψ) {link after : Link (Chronicle ω) (Nat × ψ)}
    {kind : RequestKind} {payload : String} (running : link.channel.state = .running)
    (answered : request workers.chronicled kind payload link = (.ok "", after)) :
    after.channel.state = .running ∧ ∃ readied, Readied workers link readied ∧
      Emptied workers (kind.message payload) readied after := by
  obtain ⟨-, requested⟩ := requested_of_ok answered
  refine ⟨requested.running running, ?_⟩
  cases requested with
  | @answered readied _ _ ready delivered =>
    obtain ⟨line, read, heard⟩ := delivered.heard
    have blank := Frame.read_eq_ok_empty_iff.1 read
    refine ⟨readied, ready, ?_⟩
    rcases heard with whole | ⟨part, left⟩
    · obtain ⟨start, ends⟩ := whole.ends
      exact .kept (ends ▸ List.concat_ne_nil _ _) blank (.inl whole) whole.restarts
    · exact .kept left blank (.inr part) part.restarts
  | @renewed readied lost _ fault ready delivered renewed =>
    have restarts := renewed.restarts
    rw [delivered.restarts] at restarts
    exact ⟨readied, ready, .replaced delivered renewed restarts⟩

/-- A worker that writes a blank line is not replaced. -/
theorem request_empty_unreplaced :
    let workers := Workers.scripted fun _ => ([Frame.lineFeed], false)
    let link := run workers.chronicled [.start] ⟨make ⟨"parser", []⟩ 10000, ⟨(), []⟩⟩
    let asked := request workers.chronicled .file "/src/A.java" link
    link.channel.state = .running ∧ asked.1 = .ok "" ∧
      asked.2.channel.restarts = link.channel.restarts ∧
      asked.2.world.launches = link.world.launches := by
  exact ⟨rfl, rfl, rfl, rfl⟩

/-- A worker that writes what is no base64 text is replaced. -/
theorem request_empty_garbled :
    let workers := Workers.scripted fun _ => ([64, Frame.lineFeed], false)
    let link := run workers.chronicled [.start] ⟨make ⟨"parser", []⟩ 10000, ⟨(), []⟩⟩
    let asked := request workers.chronicled .file "/src/A.java" link
    link.channel.state = .running ∧ asked = (.ok "", asked.2) ∧
      asked.2.channel.restarts = link.channel.restarts + 1 ∧
      asked.2.channel.state = .running ∧ ∃ readied, Readied workers link readied ∧
        Emptied workers (RequestKind.file.message "/src/A.java") readied asked.2 := by
  intro workers link asked
  have running : link.channel.state = .running := by rfl
  have answered : asked = (.ok "", asked.2) := by rfl
  exact ⟨running, answered, rfl, request_empty workers running answered⟩

/-! ## Answers that were cut short -/

/-- The answer that is made of a part of a line. -/
theorem CutOff.delivered {message : String} {part : Bytes}
    (cutOff : CutOff workers message link part after) :
    Delivered workers message link
      (if part.isEmpty then .error .closed else Frame.read part) after := by
  cases cutOff with
  | intro holds wrote unended =>
    exact .exchanged holds (.spoken wrote (Frame.readLine_of_cutOff unended))

/-- What a channel makes of a part of a line: it is the answer if it can be read, and else the
worker is replaced, or cannot be. -/
theorem CutOff.outcome {message : String} {part : Bytes} {lost : Link (Chronicle ω) (Nat × ψ)}
    (cutOff : CutOff workers message link part lost) (running : link.channel.state = .running) :
    (∀ reply, part ≠ [] → Frame.read part = .ok reply →
        send workers.chronicled message link = (.ok reply, lost)) ∧
      (part = [] ∨ (∃ fault, Frame.read part = .error fault) →
        ∀ {result}, send workers.chronicled message link = (result, after) →
          (result = .ok "" ∧ Renewed workers lost after) ∨
            ∃ error, result = .error error ∧ error.isBreakdown = true ∧ Abandoned lost after) := by
  have delivered := cutOff.delivered
  constructor
  · intro reply left read
    rw [if_neg (by simpa using left), read] at delivered
    exact delivered.send_eq
  · intro unreadable result ended
    have unanswered : ∃ fault, Delivered workers message link (.error fault) lost := by
      rcases unreadable with rfl | ⟨fault, unreadable⟩
      · exact ⟨_, delivered⟩
      · rw [unreadable] at delivered
        split at delivered
        · exact ⟨_, delivered⟩
        · exact ⟨_, delivered⟩
    obtain ⟨fault, unanswered⟩ := unanswered
    exact unanswered.unanswered running ended

/-- **What is made of a line that was cut short.** An answer that is not empty was read from a whole
line, or from what there was of a line when the output of the worker ended. That is so whenever
there is anything that can be read; otherwise the worker is replaced and the answer is empty, or it
cannot be replaced and the channel is stopped. -/
theorem request_cutOff (workers : Workers ω ψ) {link : Link (Chronicle ω) (Nat × ψ)}
    (running : link.channel.state = .running) (kind : RequestKind) (payload : String) :
    let message := kind.message payload
    let asked := request workers.chronicled kind payload link
    (∀ reply, asked.1 = .ok reply → reply ≠ "" →
        ∃ readied line, Readied workers link readied ∧ Frame.read line = .ok reply ∧
          (HeardLine workers message readied line asked.2 ∨
            CutOff workers message readied line asked.2)) ∧
      ∀ readied part lost, isAscii payload = true →
        ready workers.chronicled link = (.ok (), readied) →
        CutOff workers message readied part lost →
          (∀ reply, part ≠ [] → Frame.read part = .ok reply → asked = (.ok reply, lost)) ∧
          (part = [] ∨ (∃ fault, Frame.read part = .error fault) →
            (asked.1 = .ok "" ∧ Renewed workers lost asked.2) ∨
              ∃ error, asked.1 = .error error ∧ error.isFatal = true ∧ Abandoned lost asked.2) := by
  intro message asked
  constructor
  · rcases ended : asked with ⟨result, after⟩
    rintro reply rfl told
    cases (requested_of_ok ended).2 with
    | renewed ready delivered renewed => exact absurd rfl told
    | @answered readied _ _ ready delivered =>
      obtain ⟨line, read, heard⟩ := delivered.heard
      exact ⟨readied, line, ready, read, heard.imp_right And.left⟩
  · intro readied part lost plain readying cutOff
    have sent : asked = send workers.chronicled message readied := by
      change request _ kind payload link = _
      rw [request_eq _ running plain, readying]
    have readiedRunning : readied.channel.state = .running := by
      rcases ready_cases running readying with ⟨-, ready⟩ | ⟨error, failed, -⟩
      · exact ready.running running
      · cases failed
    obtain ⟨believed, replaced⟩ := cutOff.outcome readiedRunning
    refine ⟨fun reply left read => sent.trans (believed reply left read), ?_⟩
    intro unreadable
    rcases replaced unreadable (sent.symm.trans rfl) with
      renewed | ⟨error, failed, broken, abandoned⟩
    · exact .inl renewed
    · exact .inr ⟨error, failed, ParserError.isFatal_of_isBreakdown broken, abandoned⟩

/-- A worker that ends after four letters of a line is believed, and it is not replaced. -/
theorem request_cutOff_unnoticed :
    let workers := Workers.scripted fun _ => ((Frame.write "ABCDEF").take 4, true)
    let link := run workers.chronicled [.start] ⟨make ⟨"parser", []⟩ 10000, ⟨(), []⟩⟩
    let asked := request workers.chronicled .file "/src/A.java" link
    link.channel.state = .running ∧
      asked.2.world.events = link.world.events ++
        [.answered 0 (Frame.write (RequestKind.file.message "/src/A.java"))
          ((Frame.write "ABCDEF").take 4) true] ∧
      Frame.lineFeed ∉ (Frame.write "ABCDEF").take 4 ∧
      asked.1 = .ok "ABC" ∧ asked.2.channel.restarts = link.channel.restarts := by
  exact ⟨rfl, rfl, by decide, rfl, rfl⟩

/-- A worker that ends after three letters of a line is replaced. -/
theorem request_cutOff_noticed :
    let workers := Workers.scripted fun _ => ((Frame.write "ABCDEF").take 3, true)
    let link := run workers.chronicled [.start] ⟨make ⟨"parser", []⟩ 10000, ⟨(), []⟩⟩
    let asked := request workers.chronicled .file "/src/A.java" link
    link.channel.state = .running ∧ isAscii "/src/A.java" = true ∧
      ready workers.chronicled link = (.ok (), counted link) ∧
      ∃ part lost, CutOff workers (RequestKind.file.message "/src/A.java") (counted link) part
        lost ∧ (∃ fault, Frame.read part = .error fault) ∧
        ((asked.1 = .ok "" ∧ Renewed workers lost asked.2) ∨
          ∃ error, asked.1 = .error error ∧ error.isFatal = true ∧ Abandoned lost asked.2) := by
  intro workers link asked
  have running : link.channel.state = .running := by rfl
  have readying : ready workers.chronicled link = (.ok (), counted link) := by rfl
  have unended : Frame.lineFeed ∉ ([] : Bytes) ++ (Frame.write "ABCDEF").take 3 := by decide
  have cutOff : CutOff workers (RequestKind.file.message "/src/A.java") (counted link)
      ([] ++ (Frame.write "ABCDEF").take 3) _ := .intro rfl rfl unended
  have unreadable : Frame.read ([] ++ (Frame.write "ABCDEF").take 3) =
      .error (.encoding .padding) := by rfl
  obtain ⟨-, outcome⟩ := request_cutOff workers running .file "/src/A.java"
  exact ⟨running, rfl, readying, _, _, cutOff, ⟨_, unreadable⟩,
    (outcome _ _ _ rfl readying cutOff).2 (.inr ⟨_, unreadable⟩)⟩

end Channel

end SourceIndex
