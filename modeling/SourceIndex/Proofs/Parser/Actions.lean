import SourceIndex.Proofs.Parser.Reading

/-!
# What can be done with a channel

A channel is started, stopped, restarted and asked, in any order (`Channel.Action`). A request has
two stages: first the worker is made ready, which replaces it if it was sent enough requests
(`Channel.ready`), then the message is sent (`Channel.request_eq`). A worker that gives no answer to
it is replaced (`Channel.send_of_held`).
-/

set_option autoImplicit false

namespace SourceIndex.Channel

variable {ω ψ : Type}

/-! ## Actions -/

/-- What can be done with a channel. -/
inductive Action where
  | start
  | stop
  | restart (force : Bool)
  | request (kind : RequestKind) (payload : String)
deriving DecidableEq, Repr

/-- What an action comes to: a result without a value, whether the worker confirmed its end, or the
result of a request. -/
inductive Reply where
  | done (result : Except ParserError Unit)
  | stopped (confirmed : Bool)
  | answered (result : Except ParserError String)

/-- Does something with a channel. -/
def Action.perform (workers : Workers ω ψ) : Action → Link ω ψ → Reply × Link ω ψ
  | .start, link => (Channel.start workers link).map .done id
  | .stop, link => (Channel.stop workers link).map .stopped id
  | .restart force, link => (Channel.restart workers force link).map .done id
  | .request kind payload, link => (Channel.request workers kind payload link).map .answered id

/-- What becomes of a channel by actions in order, however each of them ends. -/
def run (workers : Workers ω ψ) (actions : List Action) (link : Link ω ψ) : Link ω ψ :=
  actions.foldl (fun link action => (action.perform workers link).2) link

variable (workers : Workers ω ψ) {link : Link ω ψ}

/-! ## Exchanges -/

/-- A worker that has not ended gets the message, and a line is read from what was unread and what
it wrote. -/
theorem exchange_of_process {message : String} {process : ψ} (unread : Bytes) {output : Bytes}
    {next : Option ψ} {world after : ω}
    (wrote : workers.receive process (Frame.write message) world = ((output, next), after)) :
    exchange workers message ⟨some process, unread⟩ world =
      ((Frame.readLine (unread ++ output) next.isNone).1,
        ⟨next, (Frame.readLine (unread ++ output) next.isNone).2⟩, after) := by
  simp only [exchange, wrote]
  cases found : Frame.firstLine? (unread ++ output) with
  | some parts => simp only [Frame.readLine, found]
  | none =>
    simp only [Frame.readLine, found, Option.not_isNone]
    split
    · rfl
    · rfl

/-! ## Restarts -/

theorem restart_of_not_running {force : Bool} (idle : link.channel.state ≠ .running) :
    restart workers force link = (.error (.notRunning link.channel.state), link) := by
  simp [restart, idle]

/-- A forced restart does not ask the worker. -/
theorem restart_forced (running : link.channel.state = .running) :
    restart workers true link = replace workers link.channel link.world := by
  simp [restart, running]

/-- A restart of a channel without a worker has nobody to ask. -/
theorem restart_of_absent {force : Bool} (running : link.channel.state = .running)
    (absent : link.channel.worker = none) :
    restart workers force link = replace workers link.channel link.world := by
  simp [restart, running, absent]

/-- Any other restart replaces the worker if it confirms that it ends. -/
theorem restart_graceful {held : Held ψ} (running : link.channel.state = .running)
    (holds : link.channel.worker = some held) :
    restart workers false link =
      if (confirmEnd workers held link.world).1 then
        replace workers link.channel (confirmEnd workers held link.world).2
      else
        (.error .unreachable, ⟨{ link.channel with state := .stopped, worker := none },
          (confirmEnd workers held link.world).2⟩) := by
  simp [restart, running, holds]

/-! ## Requests -/

/-- Counts a request, and replaces a worker that was sent enough of them. -/
def ready (link : Link ω ψ) : Except ParserError Unit × Link ω ψ :=
  let counted : Link ω ψ :=
    { link with channel := { link.channel with served := link.channel.served + 1 } }
  if counted.channel.served < link.channel.recycleAfter then (.ok (), counted)
  else restart workers false counted

/-- Replaces a worker that gave no answer; the answer is empty then. -/
def renew (link : Link ω ψ) : Except ParserError String × Link ω ψ :=
  (restart workers true link).map (Except.map fun _ => "") id

theorem send_of_absent {message : String} (absent : link.channel.worker = none) :
    send workers message link = renew workers link := by
  rw [send, absent, renew]
  dsimp only
  rcases restart workers true link with ⟨error | _, after⟩
  · rfl
  · rfl

/-- A message is sent to the worker, which is replaced if it gives no answer. -/
theorem send_of_held {message : String} {held : Held ψ}
    (holds : link.channel.worker = some held) :
    send workers message link =
      match exchange workers message held link.world with
      | (.ok reply, kept, world) =>
        (.ok reply, ⟨{ link.channel with worker := some kept }, world⟩)
      | (.error _, kept, world) =>
        renew workers ⟨{ link.channel with worker := some kept }, world⟩ := by
  rw [send, holds]
  dsimp only
  rcases exchange workers message held link.world with ⟨fault | reply, kept, world⟩
  · dsimp only
    rw [renew]
    rcases restart workers true ⟨{ link.channel with worker := some kept }, world⟩
      with ⟨error | _, after⟩
    · rfl
    · rfl
  · rfl

/-- A request that can be made makes the worker ready and sends the message. -/
theorem request_eq {kind : RequestKind} {payload : String}
    (running : link.channel.state = .running) (plain : isAscii payload = true) :
    request workers kind payload link =
      match ready workers link with
      | (.error error, stopped) => (.error error, stopped)
      | (.ok (), readied) => send workers (kind.message payload) readied := by
  unfold request ready
  dsimp only
  rw [if_neg (not_not_intro running), if_neg (by simp [plain])]
  split
  · rfl
  · rfl

end SourceIndex.Channel
