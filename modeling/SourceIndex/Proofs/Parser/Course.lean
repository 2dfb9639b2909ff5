import SourceIndex.Proofs.Parser.Chronicle

/-!
# The course of an action

Every way that an action on a channel can go, with what the chronicle says of it. A worker that is
launched is sent the start message and kept if it sends it back (`Greeted`). A restart ends with
such a worker in the place of the one before (`Renewed`) or with a channel that is stopped
(`Abandoned`). A request makes the worker ready (`Readied`), sends its message (`Delivered`), and
restarts the channel if the answer cannot be read.

Main statements: what comes of a request (`requested_of_request`) and of any action
(`performed_of_perform`).
-/

set_option autoImplicit false

namespace SourceIndex

variable {ω ψ : Type}

/-! ## Events that were added -/

namespace WorkerEvent

/-- The event has to do with the beginning or the end of a worker. -/
def IsUpkeep (event : WorkerEvent) : Prop :=
  event.isLaunch = true ∨ event.hasLine (Frame.write startMessage) = true ∨
    event.hasLine (Frame.write endMessage) = true

/-- No worker gets the message of a request by upkeep. -/
theorem IsUpkeep.hasLine_message {event : WorkerEvent} (upkeep : event.IsUpkeep)
    (kind : RequestKind) (payload : String) :
    event.hasLine (Frame.write (kind.message payload)) = false := by
  cases event with
  | launched worker => rfl
  | answered worker line output ended =>
    rcases upkeep with launch | start | ending
    · cases launch
    · rw [eq_of_beq start]
      exact beq_false_of_ne (Frame.write_message_ne_start kind payload).symm
    · rw [eq_of_beq ending]
      exact beq_false_of_ne (Frame.write_message_ne_end kind payload).symm

/-- Who gets another line than that of the start message does not send it back. -/
theorem isGreeting_of_line {worker : Nat} {line output : Bytes} {ended : Bool}
    (other : line ≠ Frame.write startMessage) :
    (WorkerEvent.answered worker line output ended).isGreeting = false := by
  rw [isGreeting, beq_false_of_ne other, Bool.false_and]

end WorkerEvent

theorem WorkerEvent.isGreeting_iff (worker : Nat) {output : Bytes} {ended : Bool} :
    (WorkerEvent.answered worker (Frame.write startMessage) output ended).isGreeting = true ↔
      (Frame.readLine output ended).1 = .ok startMessage := by
  rw [isGreeting, beq_self_eq_true, Bool.true_and, beq_iff_eq]
  cases (Frame.readLine output ended).1 with
  | error fault => simp [Except.toOption]
  | ok reply => simp [Except.toOption]

theorem Frame.write_endMessage_ne : Frame.write endMessage ≠ Frame.write startMessage := by
  decide

namespace Chronicle

/-- Between two chronicles only events of a kind were added. -/
def Adds (allowed : WorkerEvent → Prop) (before after : Chronicle ω) : Prop :=
  ∃ events, after.events = before.events ++ events ∧ ∀ event ∈ events, allowed event

namespace Adds

variable {allowed weaker : WorkerEvent → Prop} {before between after : Chronicle ω}

theorem refl (allowed : WorkerEvent → Prop) (chronicle : Chronicle ω) :
    Adds allowed chronicle chronicle :=
  ⟨[], (List.append_nil _).symm, List.forall_mem_nil _⟩

theorem trans (first : Adds allowed before between) (second : Adds allowed between after) :
    Adds allowed before after := by
  obtain ⟨events, grown, all⟩ := first
  obtain ⟨more, grownMore, allMore⟩ := second
  refine ⟨events ++ more, by rw [grownMore, grown, List.append_assoc], ?_⟩
  intro event member
  rcases List.mem_append.1 member with early | late
  · exact all event early
  · exact allMore event late

theorem mono (adds : Adds allowed before after) (weakens : ∀ event, allowed event → weaker event) :
    Adds weaker before after := by
  obtain ⟨events, grown, all⟩ := adds
  exact ⟨events, grown, fun event member => weakens event (all event member)⟩

theorem add {event : WorkerEvent} (isAllowed : allowed event) (chronicle : Chronicle ω)
    (world : ω) : Adds allowed chronicle (chronicle.add event world) :=
  ⟨[event], rfl, fun _ member => List.mem_singleton.1 member ▸ isAllowed⟩

/-- Events that fail a test do not count for it. -/
theorem countP {test : WorkerEvent → Bool}
    (adds : Adds (fun event => test event = false) before after) :
    after.events.countP test = before.events.countP test := by
  obtain ⟨events, grown, all⟩ := adds
  have none : events.countP test = 0 := List.countP_eq_zero.2 fun event member => by
    rw [all event member]
    exact Bool.false_ne_true
  rw [grown, List.countP_append, none, Nat.add_zero]

end Adds

end Chronicle

namespace ParserError

/-- A worker could not be launched, or did not confirm its end. -/
def isBreakdown : ParserError → Bool
  | .spawn .. | .handshake _ | .unreachable => true
  | .notRunning _ | .nonAscii => false

theorem isFatal_of_isBreakdown {error : ParserError} (breakdown : error.isBreakdown = true) :
    error.isFatal = true := by
  cases error with
  | nonAscii => cases breakdown
  | _ => rfl

end ParserError

namespace Channel

open Chronicle

variable {workers : Workers ω ψ}

/-! ## Exchanges -/

/-- How an exchange of messages with a worker can go. One that has ended gets no message. Any other
gets it, and a line is read from what was unread and what it wrote. -/
inductive Exchanged (workers : Workers ω ψ) (message : String) (before : Chronicle ω) :
    Held (Nat × ψ) → Except Frame.Fault String → Held (Nat × ψ) → Chronicle ω → Prop where
  | silent {unread : Bytes} :
      Exchanged workers message before ⟨none, unread⟩ (.error .closed) ⟨none, unread⟩ before
  | spoken {number : Nat} {process : ψ} {unread output rest : Bytes} {next : Option ψ} {world : ω}
      {answer : Except Frame.Fault String}
      (wrote : workers.receive process (Frame.write message) before.world =
        ((output, next), world))
      (reading : Frame.readLine (unread ++ output) next.isNone = (answer, rest)) :
      Exchanged workers message before ⟨some (number, process), unread⟩ answer
        ⟨next.map fun left => (number, left), rest⟩
        (before.add (.answered number (Frame.write message) output next.isNone) world)

theorem exchanged_of_exchange {message : String} {before after : Chronicle ω}
    {held kept : Held (Nat × ψ)} {answer : Except Frame.Fault String}
    (ended : exchange workers.chronicled message held before = (answer, kept, after)) :
    Exchanged workers message before held answer kept after := by
  rcases held with ⟨_ | ⟨number, process⟩, unread⟩
  · cases ended
    exact .silent
  · rcases wrote : workers.receive process (Frame.write message) before.world
      with ⟨⟨output, next⟩, world⟩
    rw [exchange_of_process workers.chronicled _ (workers.chronicled_receive _ wrote),
      Option.isNone_map] at ended
    cases ended
    exact .spoken wrote rfl

/-- An exchange adds at most the event that a worker got the message. -/
theorem Exchanged.adds {allowed : WorkerEvent → Prop} {message : String}
    {before after : Chronicle ω} {held kept : Held (Nat × ψ)}
    {answer : Except Frame.Fault String}
    (exchanged : Exchanged workers message before held answer kept after)
    (all : ∀ worker output ended,
      allowed (.answered worker (Frame.write message) output ended)) :
    before.Adds allowed after := by
  cases exchanged with
  | silent => exact .refl allowed before
  | spoken wrote reading => exact .add (all _ _ _) before _

/-! ## Launches -/

/-- The event is that a worker got the end message. -/
def IsEnding (event : WorkerEvent) : Prop :=
  event.hasLine (Frame.write endMessage) = true

/-- The event belongs to the upkeep of a channel, and no worker sent the start message back. -/
def IsFruitless (event : WorkerEvent) : Prop :=
  event.IsUpkeep ∧ event.isGreeting = false

theorem IsEnding.isFruitless {event : WorkerEvent} (ending : IsEnding event) :
    IsFruitless event := by
  refine ⟨.inr (.inr ending), ?_⟩
  cases event with
  | launched worker => rfl
  | answered worker line output ended =>
    have isEnd : line = Frame.write endMessage := eq_of_beq ending
    rw [isEnd]
    exact WorkerEvent.isGreeting_of_line Frame.write_endMessage_ne

/-- A worker that is launched gets the start message, and writes something. -/
def launchedInto (before : Chronicle ω) (output : Bytes) (ended : Bool) (between last : ω) :
    Chronicle ω :=
  (before.add (.launched before.launches) between).add
    (.answered before.launches (Frame.write startMessage) output ended) last

/-- Between two chronicles a worker was launched, and it sent the start message back. -/
inductive Greeted (workers : Workers ω ψ) (before : Chronicle ω) :
    Held (Nat × ψ) → Chronicle ω → Prop where
  | intro {process : ψ} {output rest : Bytes} {next : Option ψ} {between last : ω}
      (wrote : workers.receive process (Frame.write startMessage) between =
        ((output, next), last))
      (reading : Frame.readLine output next.isNone = (.ok startMessage, rest)) :
      Greeted workers before ⟨next.map fun left => (before.launches, left), rest⟩
        (launchedInto before output next.isNone between last)

/-- What is added is upkeep. -/
theorem adds_launchedInto {allowed : WorkerEvent → Prop} {before : Chronicle ω} {output : Bytes}
    {ended : Bool} {between last : ω} (launch : allowed (.launched before.launches))
    (answer : allowed (.answered before.launches (Frame.write startMessage) output ended)) :
    before.Adds allowed (launchedInto before output ended between last) :=
  (Adds.add launch before between).trans (.add answer _ last)

theorem launch_cases {command : WorkerCommand} {before after : Chronicle ω}
    {result : Except ParserError (Held (Nat × ψ))}
    (ended : launch workers.chronicled command before = (result, after)) :
    (∃ held, result = .ok held ∧ Greeted workers before held after) ∨
      ∃ error, result = .error error ∧ error.isBreakdown = true ∧
        before.Adds IsFruitless after := by
  rcases started : workers.launch command before.world with ⟨reason | process, between⟩
  · rw [launch, workers.chronicled_launch_of_error started] at ended
    cases ended
    exact .inr ⟨_, rfl, rfl, [], (List.append_nil _).symm, List.forall_mem_nil _⟩
  · rw [launch, workers.chronicled_launch_of_ok started] at ended
    dsimp only at ended
    rcases wrote : workers.receive process (Frame.write startMessage) between
      with ⟨⟨output, next⟩, last⟩
    -- The fresh worker has nothing unread, so that what it writes is read from the start.
    rw [exchange_of_process workers.chronicled _ (workers.chronicled_receive _ wrote),
      Option.isNone_map, List.nil_append] at ended
    have fruitless (unlike : (Frame.readLine output next.isNone).1 ≠ .ok startMessage) :
        before.Adds IsFruitless (launchedInto before output next.isNone between last) := by
      refine adds_launchedInto ⟨.inl rfl, rfl⟩ ⟨.inr (.inl (beq_self_eq_true _)), ?_⟩
      rw [← Bool.not_eq_true, WorkerEvent.isGreeting_iff]
      exact unlike
    rcases reading : Frame.readLine output next.isNone with ⟨fault | reply, rest⟩
    · rw [reading] at ended fruitless
      cases ended
      exact .inr ⟨_, rfl, rfl, fruitless fun equal => by cases equal⟩
    · rw [reading] at ended fruitless
      dsimp only at ended
      by_cases same : reply = startMessage
      · rw [if_pos same] at ended
        subst same
        cases ended
        exact .inl ⟨_, rfl, .intro wrote reading⟩
      · rw [if_neg same] at ended
        cases ended
        exact .inr ⟨_, rfl, rfl, fruitless fun equal => same (Except.ok.inj equal)⟩

theorem Greeted.adds {before after : Chronicle ω} {held : Held (Nat × ψ)}
    (greeted : Greeted workers before held after) : before.Adds WorkerEvent.IsUpkeep after := by
  cases greeted with
  | intro wrote reading => exact adds_launchedInto (.inl rfl) (.inr (.inl (beq_self_eq_true _)))

/-- One more worker was launched. -/
theorem Greeted.launches {before after : Chronicle ω} {held : Held (Nat × ψ)}
    (greeted : Greeted workers before held after) : after.launches = before.launches + 1 := by
  cases greeted with
  | intro wrote reading =>
    rw [Chronicle.launches, launchedInto, countP_add, countP_add]
    rfl

/-- The worker that was launched has the number that was next. -/
theorem Greeted.number {before after : Chronicle ω} {held : Held (Nat × ψ)} {process : Nat × ψ}
    (greeted : Greeted workers before held after) (running : held.process = some process) :
    process.1 = before.launches := by
  cases greeted with
  | intro wrote reading =>
    obtain ⟨left, -, rfl⟩ := Option.map_eq_some_iff.1 running
    rfl

/-- One more worker sent the start message back. -/
theorem Greeted.greetings {before after : Chronicle ω} {held : Held (Nat × ψ)}
    (greeted : Greeted workers before held after) : after.greetings = before.greetings + 1 := by
  cases greeted with
  | intro wrote reading =>
    have greeting := (WorkerEvent.isGreeting_iff before.launches).2 (congrArg Prod.fst reading)
    rw [Chronicle.greetings, launchedInto, countP_add, countP_add, if_pos greeting]
    rfl

/-! ## The end of a worker -/

theorem adds_of_confirmEnd (workers : Workers ω ψ) (held : Held (Nat × ψ)) (before : Chronicle ω) :
    before.Adds IsEnding (confirmEnd workers.chronicled held before).2 := by
  rcases exchanging : exchange workers.chronicled endMessage held before with ⟨answer, kept, after⟩
  have adds : before.Adds IsEnding after :=
    (exchanged_of_exchange exchanging).adds fun _ _ _ => beq_self_eq_true _
  rw [confirmEnd, exchanging]
  cases answer with
  | error fault => exact adds
  | ok reply => exact adds

/-! ## Restarts -/

/-- The channel holds a fresh worker in the place of the one before. -/
inductive Renewed (workers : Workers ω ψ) (before : Link (Chronicle ω) (Nat × ψ)) :
    Link (Chronicle ω) (Nat × ψ) → Prop where
  | intro {held : Held (Nat × ψ)} {chronicle : Chronicle ω}
      (greeted : Greeted workers before.world held chronicle) :
      Renewed workers before
        ⟨{ before.channel with
            state := .running, worker := some held, served := 0,
            restarts := before.channel.restarts + 1 },
          chronicle⟩

/-- The channel is stopped and holds no worker. -/
inductive Abandoned (before : Link (Chronicle ω) (Nat × ψ)) :
    Link (Chronicle ω) (Nat × ψ) → Prop where
  | intro {chronicle : Chronicle ω} (adds : before.world.Adds IsFruitless chronicle) :
      Abandoned before
        ⟨{ before.channel with state := .stopped, worker := none }, chronicle⟩

/-- What a restart of a running channel comes to: the worker may have got the end message, and then
it is replaced or the channel is stopped with an error. -/
inductive Restarted (workers : Workers ω ψ) (before : Link (Chronicle ω) (Nat × ψ)) :
    Except ParserError Unit → Link (Chronicle ω) (Nat × ψ) → Prop where
  | renewed {asked : Chronicle ω} {after : Link (Chronicle ω) (Nat × ψ)}
      (ending : before.world.Adds IsEnding asked)
      (renewed : Renewed workers ⟨before.channel, asked⟩ after) :
      Restarted workers before (.ok ()) after
  | abandoned {error : ParserError} {after : Link (Chronicle ω) (Nat × ψ)}
      (broken : error.isBreakdown = true) (abandoned : Abandoned before after) :
      Restarted workers before (.error error) after

theorem replace_cases {channel : Channel (Nat × ψ)} {before : Chronicle ω}
    {result : Except ParserError Unit} {after : Link (Chronicle ω) (Nat × ψ)}
    (ended : replace workers.chronicled channel before = (result, after)) :
    (result = .ok () ∧ Renewed workers ⟨channel, before⟩ after) ∨
      ∃ error, result = .error error ∧ error.isBreakdown = true ∧
        Abandoned ⟨channel, before⟩ after := by
  rcases launching : launch workers.chronicled channel.command before with ⟨outcome, launched⟩
  rw [replace, launching] at ended
  rcases launch_cases launching with ⟨held, rfl, greeted⟩ | ⟨error, rfl, broken, adds⟩
  · cases ended
    exact .inl ⟨rfl, .intro greeted⟩
  · cases ended
    exact .inr ⟨error, rfl, broken, .intro adds⟩

variable {link after : Link (Chronicle ω) (Nat × ψ)}

theorem restarted_of_restart {force : Bool} {result : Except ParserError Unit}
    (running : link.channel.state = .running)
    (ended : restart workers.chronicled force link = (result, after)) :
    Restarted workers link result after := by
  have replaced : ∀ {asked : Chronicle ω}, link.world.Adds IsEnding asked →
      replace workers.chronicled link.channel asked = (result, after) →
        Restarted workers link result after := by
    intro asked ending replacing
    rcases replace_cases replacing with ⟨rfl, renewed⟩ | ⟨error, rfl, broken, ⟨adds⟩⟩
    · exact .renewed ending renewed
    · exact .abandoned broken (.intro ((ending.mono fun _ => IsEnding.isFruitless).trans adds))
  cases force with
  | true =>
    rw [restart_forced _ running] at ended
    exact replaced (.refl _ _) ended
  | false =>
    cases holds : link.channel.worker with
    | none =>
      rw [restart_of_absent _ running holds] at ended
      exact replaced (.refl _ _) ended
    | some held =>
      rw [restart_graceful _ running holds] at ended
      have ending := adds_of_confirmEnd workers held link.world
      split at ended
      · exact replaced ending ended
      · cases ended
        exact .abandoned rfl (.intro (ending.mono fun _ => IsEnding.isFruitless))

theorem renew_cases {result : Except ParserError String}
    (running : link.channel.state = .running)
    (ended : renew workers.chronicled link = (result, after)) :
    (result = .ok "" ∧ Renewed workers link after) ∨
      ∃ error, result = .error error ∧ error.isBreakdown = true ∧ Abandoned link after := by
  rw [renew, restart_forced _ running] at ended
  rcases replacing : replace workers.chronicled link.channel link.world with ⟨outcome, replaced⟩
  rw [replacing] at ended
  rcases replace_cases replacing with ⟨rfl, renewed⟩ | ⟨error, rfl, broken, abandoned⟩
  · cases ended
    exact .inl ⟨rfl, renewed⟩
  · cases ended
    exact .inr ⟨error, rfl, broken, abandoned⟩

/-! ## Requests -/

/-- The request is counted. -/
def counted (link : Link (Chronicle ω) (Nat × ψ)) : Link (Chronicle ω) (Nat × ψ) :=
  { link with channel := { link.channel with served := link.channel.served + 1 } }

/-- The worker of a channel was made ready for a request: it can take one more, or it was due to be
replaced and was. -/
inductive Readied (workers : Workers ω ψ) (before : Link (Chronicle ω) (Nat × ψ)) :
    Link (Chronicle ω) (Nat × ψ) → Prop where
  | spare (below : before.channel.served + 1 < before.channel.recycleAfter) :
      Readied workers before (counted before)
  | recycled {after : Link (Chronicle ω) (Nat × ψ)}
      (due : before.channel.recycleAfter ≤ before.channel.served + 1)
      (restarted : Restarted workers (counted before) (.ok ()) after) :
      Readied workers before after

/-- A message was sent to the worker of a channel, if it holds one, and the answer was read. -/
inductive Delivered (workers : Workers ω ψ) (message : String)
    (before : Link (Chronicle ω) (Nat × ψ)) :
    Except Frame.Fault String → Link (Chronicle ω) (Nat × ψ) → Prop where
  | missing (absent : before.channel.worker = none) :
      Delivered workers message before (.error .closed) before
  | exchanged {held kept : Held (Nat × ψ)} {answer : Except Frame.Fault String}
      {chronicle : Chronicle ω} (holds : before.channel.worker = some held)
      (exchanged : Exchanged workers message before.world held answer kept chronicle) :
      Delivered workers message before answer
        ⟨{ before.channel with worker := some kept }, chronicle⟩

/-- How a request to a running channel can go: its worker cannot be made ready; or the message is
sent and the answer is read; or it cannot be read, and the worker is replaced, or cannot be. -/
inductive Requested (workers : Workers ω ψ) (message : String)
    (before : Link (Chronicle ω) (Nat × ψ)) :
    Except ParserError String → Link (Chronicle ω) (Nat × ψ) → Prop where
  | unready {error : ParserError} {after : Link (Chronicle ω) (Nat × ψ)}
      (due : before.channel.recycleAfter ≤ before.channel.served + 1)
      (broken : error.isBreakdown = true) (abandoned : Abandoned (counted before) after) :
      Requested workers message before (.error error) after
  | answered {readied after : Link (Chronicle ω) (Nat × ψ)} {reply : String}
      (ready : Readied workers before readied)
      (delivered : Delivered workers message readied (.ok reply) after) :
      Requested workers message before (.ok reply) after
  | renewed {readied lost after : Link (Chronicle ω) (Nat × ψ)} {fault : Frame.Fault}
      (ready : Readied workers before readied)
      (delivered : Delivered workers message readied (.error fault) lost)
      (renewed : Renewed workers lost after) :
      Requested workers message before (.ok "") after
  | abandoned {readied lost after : Link (Chronicle ω) (Nat × ψ)} {fault : Frame.Fault}
      {error : ParserError} (ready : Readied workers before readied)
      (delivered : Delivered workers message readied (.error fault) lost)
      (broken : error.isBreakdown = true) (abandoned : Abandoned lost after) :
      Requested workers message before (.error error) after

theorem ready_cases {result : Except ParserError Unit}
    (running : link.channel.state = .running)
    (ended : ready workers.chronicled link = (result, after)) :
    (result = .ok () ∧ Readied workers link after) ∨
      ∃ error, result = .error error ∧ error.isBreakdown = true ∧
        link.channel.recycleAfter ≤ link.channel.served + 1 ∧
        Abandoned (counted link) after := by
  unfold ready at ended
  dsimp only at ended
  split at ended
  · next below =>
    cases ended
    exact .inl ⟨rfl, .spare below⟩
  · next due =>
    have restarted : Restarted workers (counted link) result after :=
      restarted_of_restart running ended
    cases restarted with
    | renewed ending renewed =>
      exact .inl ⟨rfl, .recycled (Nat.not_lt.1 due) (.renewed ending renewed)⟩
    | abandoned broken abandoned =>
      exact .inr ⟨_, rfl, broken, Nat.not_lt.1 due, abandoned⟩

/-- A channel whose worker was made ready is running. -/
theorem Readied.running (ready : Readied workers link after)
    (running : link.channel.state = .running) : after.channel.state = .running := by
  cases ready with
  | spare below => exact running
  | recycled due restarted =>
    cases restarted with
    | renewed ending renewed =>
      cases renewed
      rfl

theorem Delivered.state {message : String} {answer : Except Frame.Fault String}
    (delivered : Delivered workers message link answer after) :
    after.channel.state = link.channel.state := by
  cases delivered with
  | missing absent => rfl
  | exchanged holds exchanged => rfl

/-- A message can always be sent, whoever is there to get it. -/
theorem exists_delivered (workers : Workers ω ψ) (message : String)
    (link : Link (Chronicle ω) (Nat × ψ)) :
    ∃ answer lost, Delivered workers message link answer lost := by
  cases holds : link.channel.worker with
  | none => exact ⟨_, _, .missing holds⟩
  | some held =>
    rcases exchanging : exchange workers.chronicled message held link.world
      with ⟨answer, kept, chronicle⟩
    exact ⟨_, _, .exchanged holds (exchanged_of_exchange exchanging)⟩

/-- A channel goes on with its worker if the answer can be read, and else replaces it. -/
theorem Delivered.send_eq {message : String} {answer : Except Frame.Fault String}
    (delivered : Delivered workers message link answer after) :
    send workers.chronicled message link =
      match answer with
      | .ok reply => (.ok reply, after)
      | .error _ => renew workers.chronicled after := by
  cases delivered with
  | missing absent => exact send_of_absent _ absent
  | exchanged holds exchanged =>
    rw [send_of_held _ holds]
    cases exchanged with
    | silent => rfl
    | spoken wrote reading =>
      rw [exchange_of_process _ _ (workers.chronicled_receive _ wrote), Option.isNone_map, reading]
      cases answer with
      | error fault => rfl
      | ok reply => rfl

/-- A message without an answer: the worker is replaced, or it cannot be. -/
theorem Delivered.unanswered {message : String} {fault : Frame.Fault}
    {lost : Link (Chronicle ω) (Nat × ψ)} {result : Except ParserError String}
    (delivered : Delivered workers message link (.error fault) lost)
    (running : link.channel.state = .running)
    (ended : send workers.chronicled message link = (result, after)) :
    (result = .ok "" ∧ Renewed workers lost after) ∨
      ∃ error, result = .error error ∧ error.isBreakdown = true ∧ Abandoned lost after := by
  rw [delivered.send_eq] at ended
  exact renew_cases (delivered.state.trans running) ended

/-- **What comes of a request** whose payload a message can carry, on a channel that is running. -/
theorem requested_of_request {kind : RequestKind} {payload : String}
    {result : Except ParserError String} (running : link.channel.state = .running)
    (plain : isAscii payload = true)
    (ended : request workers.chronicled kind payload link = (result, after)) :
    Requested workers (kind.message payload) link result after := by
  rw [request_eq _ running plain] at ended
  rcases readying : ready workers.chronicled link with ⟨outcome, readied⟩
  rw [readying] at ended
  rcases ready_cases running readying with ⟨rfl, ready⟩ | ⟨error, rfl, broken, due, abandoned⟩
  · obtain ⟨answer, lost, delivered⟩ :=
      exists_delivered workers (kind.message payload) readied
    cases answer with
    | error fault =>
      rcases delivered.unanswered (ready.running running) ended with
        ⟨rfl, renewed⟩ | ⟨error, rfl, broken, abandoned⟩
      · exact .renewed ready delivered renewed
      · exact .abandoned ready delivered broken abandoned
    | ok reply =>
      cases delivered.send_eq.symm.trans ended
      exact .answered ready delivered
  · cases ended
    exact .unready due broken abandoned

/-! ## Starting and stopping -/

theorem start_of_running (running : link.channel.state = .running) :
    start workers.chronicled link = (.ok (), link) :=
  if_pos running

theorem start_cases {result : Except ParserError Unit} (idle : link.channel.state ≠ .running)
    (ended : start workers.chronicled link = (result, after)) :
    (∃ held chronicle, result = .ok () ∧ Greeted workers link.world held chronicle ∧
        after = ⟨{ link.channel with state := .running, worker := some held, served := 0 },
          chronicle⟩) ∨
      ∃ error chronicle, result = .error error ∧ link.world.Adds IsFruitless chronicle ∧
        after = ⟨link.channel, chronicle⟩ := by
  rcases launching : launch workers.chronicled link.channel.command link.world
    with ⟨outcome, launched⟩
  rw [start, if_neg idle, launching] at ended
  rcases launch_cases launching with ⟨held, rfl, greeted⟩ | ⟨error, rfl, broken, adds⟩
  · cases ended
    exact .inl ⟨held, launched, rfl, greeted, rfl⟩
  · cases ended
    exact .inr ⟨error, launched, rfl, adds, rfl⟩

theorem stop_cases {confirmed : Bool}
    (ended : stop workers.chronicled link = (confirmed, after)) :
    ∃ chronicle, link.world.Adds IsEnding chronicle ∧
      after = ⟨{ link.channel with state := .stopped, worker := none }, chronicle⟩ := by
  cases holds : link.channel.worker with
  | none =>
    rw [stop, holds] at ended
    cases ended
    exact ⟨link.world, .refl _ _, rfl⟩
  | some held =>
    rw [stop, holds] at ended
    cases ended
    exact ⟨_, adds_of_confirmEnd workers held link.world, rfl⟩

/-! ## Actions -/

/-- A request either is refused and changes nothing, or goes its course. -/
theorem request_cases {kind : RequestKind} {payload : String} {result : Except ParserError String}
    (ended : request workers.chronicled kind payload link = (result, after)) :
    (link.channel.state ≠ .running ∧ result = .error (.notRunning link.channel.state) ∧
        after = link) ∨
      (link.channel.state = .running ∧ result = .error .nonAscii ∧ after = link) ∨
      link.channel.state = .running ∧
        Requested workers (kind.message payload) link result after := by
  by_cases running : link.channel.state = .running
  · cases plain : isAscii payload with
    | true => exact .inr (.inr ⟨running, requested_of_request running plain ended⟩)
    | false =>
      rw [request_of_not_ascii _ kind payload _ running plain] at ended
      cases ended
      exact .inr (.inl ⟨running, rfl, rfl⟩)
  · rw [request_of_not_running _ kind payload _ running] at ended
    cases ended
    exact .inl ⟨running, rfl, rfl⟩

/-- A request that was answered was not refused. -/
theorem requested_of_ok {kind : RequestKind} {payload reply : String}
    (ended : request workers.chronicled kind payload link = (.ok reply, after)) :
    link.channel.state = .running ∧
      Requested workers (kind.message payload) link (.ok reply) after := by
  rcases request_cases ended with ⟨-, refused, -⟩ | ⟨-, refused, -⟩ | requested
  · cases refused
  · cases refused
  · exact requested

/-- How an action can go. -/
inductive Performed (workers : Workers ω ψ) (before : Link (Chronicle ω) (Nat × ψ)) :
    Action → Link (Chronicle ω) (Nat × ψ) → Prop where
  /-- There is nothing to do, or the action is refused. -/
  | idle {action : Action} : Performed workers before action before
  | started {held : Held (Nat × ψ)} {chronicle : Chronicle ω}
      (idle : before.channel.state ≠ .running)
      (greeted : Greeted workers before.world held chronicle) :
      Performed workers before .start
        ⟨{ before.channel with state := .running, worker := some held, served := 0 }, chronicle⟩
  | unstarted {chronicle : Chronicle ω} (idle : before.channel.state ≠ .running)
      (adds : before.world.Adds IsFruitless chronicle) :
      Performed workers before .start ⟨before.channel, chronicle⟩
  | stopped {chronicle : Chronicle ω} (adds : before.world.Adds IsEnding chronicle) :
      Performed workers before .stop
        ⟨{ before.channel with state := .stopped, worker := none }, chronicle⟩
  | restarted {force : Bool} {result : Except ParserError Unit}
      {after : Link (Chronicle ω) (Nat × ψ)} (running : before.channel.state = .running)
      (restarted : Restarted workers before result after) :
      Performed workers before (.restart force) after
  | requested {kind : RequestKind} {payload : String} {result : Except ParserError String}
      {after : Link (Chronicle ω) (Nat × ψ)} (running : before.channel.state = .running)
      (requested : Requested workers (kind.message payload) before result after) :
      Performed workers before (.request kind payload) after

/-- **What comes of an action.** -/
theorem performed_of_perform {action : Action} {reply : Reply}
    (performed : action.perform workers.chronicled link = (reply, after)) :
    Performed workers link action after := by
  cases action with
  | start =>
    rcases ended : start workers.chronicled link with ⟨result, last⟩
    rw [Action.perform, ended] at performed
    cases performed
    by_cases running : link.channel.state = .running
    · rw [start_of_running running] at ended
      cases ended
      exact .idle
    · rcases start_cases running ended with
        ⟨held, chronicle, -, greeted, rfl⟩ | ⟨error, chronicle, -, adds, rfl⟩
      · exact .started running greeted
      · exact .unstarted running adds
  | stop =>
    rcases ended : stop workers.chronicled link with ⟨confirmed, last⟩
    rw [Action.perform, ended] at performed
    cases performed
    obtain ⟨chronicle, adds, rfl⟩ := stop_cases ended
    exact .stopped adds
  | restart force =>
    rcases ended : restart workers.chronicled force link with ⟨result, last⟩
    rw [Action.perform, ended] at performed
    cases performed
    by_cases running : link.channel.state = .running
    · exact .restarted running (restarted_of_restart running ended)
    · rw [restart_of_not_running _ running] at ended
      cases ended
      exact .idle
  | request kind payload =>
    rcases ended : request workers.chronicled kind payload link with ⟨result, last⟩
    rw [Action.perform, ended] at performed
    cases performed
    rcases request_cases ended with
      ⟨-, -, rfl⟩ | ⟨-, -, rfl⟩ | ⟨running, requested⟩
    · exact .idle
    · exact .idle
    · exact .requested running requested

end Channel

end SourceIndex
