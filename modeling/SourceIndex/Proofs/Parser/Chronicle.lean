import SourceIndex.Proofs.Parser.Actions

/-!
# A chronicle of workers

What a channel asks of its workers can be told from a chronicle that is kept beside them: every
launch, and every line that a worker got with what it wrote (`Workers.chronicled`). The workers are
numbered in the order of their launch, so that two processes that act the same are told apart.

A channel is used by starting, stopping, restarting and asking it (`Channel.Action`). Main
statement: the chronicle makes no difference to that, so what is proved with a chronicle holds
without it (`Channel.run_plain`, `Channel.Action.perform_plain`).
-/

set_option autoImplicit false

namespace SourceIndex

variable {ω ψ : Type}

/-! ## Events -/

/-- What happened to a worker. -/
inductive WorkerEvent where
  | launched (worker : Nat)
  /-- A worker got a line and wrote an output, which may have ended with that. -/
  | answered (worker : Nat) (line output : Bytes) (ended : Bool)
deriving DecidableEq, Repr

namespace WorkerEvent

/-- The event is the launch of a worker. -/
def isLaunch : WorkerEvent → Bool
  | .launched _ => true
  | .answered .. => false

/-- The event is that a worker got this line. -/
def hasLine (line : Bytes) : WorkerEvent → Bool
  | .launched _ => false
  | .answered _ got _ _ => got == line

/-- The event is that a worker sent the start message back. -/
def isGreeting : WorkerEvent → Bool
  | .launched _ => false
  | .answered _ line output ended =>
    line == Frame.write startMessage &&
      (Frame.readLine output ended).1.toOption == some startMessage

end WorkerEvent

/-- What is around workers, and what happened to them so far. -/
structure Chronicle (ω : Type) where
  world : ω
  events : List WorkerEvent

namespace Chronicle

/-- The number of workers that were launched, which is the number of the next one. -/
def launches (chronicle : Chronicle ω) : Nat :=
  chronicle.events.countP WorkerEvent.isLaunch

/-- The number of workers that sent the start message back. -/
def greetings (chronicle : Chronicle ω) : Nat :=
  chronicle.events.countP WorkerEvent.isGreeting

/-- How many times workers got a line. -/
def deliveries (chronicle : Chronicle ω) (line : Bytes) : Nat :=
  chronicle.events.countP (WorkerEvent.hasLine line)

/-- Adds an event after which the world is another one. -/
def add (chronicle : Chronicle ω) (event : WorkerEvent) (world : ω) : Chronicle ω :=
  ⟨world, chronicle.events ++ [event]⟩

/-- An event counts once for every test that it passes. -/
theorem countP_add (test : WorkerEvent → Bool) (chronicle : Chronicle ω) (event : WorkerEvent)
    (world : ω) :
    (chronicle.add event world).events.countP test =
      chronicle.events.countP test + if test event then 1 else 0 := by
  rw [add, List.countP_append, List.countP_singleton]

end Chronicle

/-- The same workers with a chronicle. -/
def Workers.chronicled (workers : Workers ω ψ) : Workers (Chronicle ω) (Nat × ψ) where
  launch command chronicle :=
    match workers.launch command chronicle.world with
    | (.error reason, world) => (.error reason, { chronicle with world := world })
    | (.ok process, world) =>
      (.ok (chronicle.launches, process), chronicle.add (.launched chronicle.launches) world)
  receive process line chronicle :=
    match workers.receive process.2 line chronicle.world with
    | ((output, next), world) =>
      ((output, next.map fun left => (process.1, left)),
        chronicle.add (.answered process.1 line output next.isNone) world)

namespace Workers

variable (workers : Workers ω ψ)

theorem chronicled_launch_of_error {command : WorkerCommand} {chronicle : Chronicle ω}
    {reason : String} {world : ω}
    (failed : workers.launch command chronicle.world = (.error reason, world)) :
    workers.chronicled.launch command chronicle =
      (.error reason, { chronicle with world := world }) := by
  simp only [chronicled, failed]

theorem chronicled_launch_of_ok {command : WorkerCommand} {chronicle : Chronicle ω}
    {process : ψ} {world : ω}
    (started : workers.launch command chronicle.world = (.ok process, world)) :
    workers.chronicled.launch command chronicle =
      (.ok (chronicle.launches, process),
        chronicle.add (.launched chronicle.launches) world) := by
  simp only [chronicled, started]

theorem chronicled_receive (number : Nat) {process : ψ} {line output : Bytes} {next : Option ψ}
    {chronicle : Chronicle ω} {world : ω}
    (wrote : workers.receive process line chronicle.world = ((output, next), world)) :
    workers.chronicled.receive (number, process) line chronicle =
      ((output, next.map fun left => (number, left)),
        chronicle.add (.answered number line output next.isNone) world) := by
  simp only [chronicled, wrote]

end Workers

/-! ## Without the chronicle -/

/-- A worker without its number. -/
def Held.plain (held : Held (Nat × ψ)) : Held ψ :=
  ⟨held.process.map Prod.snd, held.unread⟩

/-- A channel whose worker has no number. -/
def Channel.plain (channel : Channel (Nat × ψ)) : Channel ψ :=
  { channel with worker := channel.worker.map Held.plain }

/-- A channel and what is around its workers, without a chronicle. -/
def Link.plain (link : Link (Chronicle ω) (Nat × ψ)) : Link ω ψ :=
  ⟨link.channel.plain, link.world.world⟩

/-- A link whose worker has a number, with an empty chronicle. -/
def Link.numbered (link : Link ω ψ) : Link (Chronicle ω) (Nat × ψ) where
  channel := { link.channel with
    worker := link.channel.worker.map fun held =>
      ⟨held.process.map fun process => (0, process), held.unread⟩ }
  world := ⟨link.world, []⟩

theorem Link.plain_numbered (link : Link ω ψ) : link.numbered.plain = link := by
  rcases link with
    ⟨⟨command, state, _ | ⟨_ | process, unread⟩, recycleAfter, served, restarts⟩, world⟩
  · rfl
  · rfl
  · rfl

namespace Channel

variable (workers : Workers ω ψ)

theorem exchange_plain (message : String) (held : Held (Nat × ψ)) (chronicle : Chronicle ω) :
    exchange workers message held.plain chronicle.world =
      (exchange workers.chronicled message held chronicle).map id
        (Prod.map Held.plain Chronicle.world) := by
  rcases held with ⟨_ | ⟨number, process⟩, unread⟩
  · rfl
  · rcases wrote : workers.receive process (Frame.write message) chronicle.world
      with ⟨⟨output, next⟩, world⟩
    have plainly := exchange_of_process workers unread wrote
    have chronicled := exchange_of_process workers.chronicled unread
      (workers.chronicled_receive number wrote)
    change exchange workers message ⟨some process, unread⟩ chronicle.world = _
    rw [plainly, chronicled, Option.isNone_map]
    cases next with
    | none => rfl
    | some left => rfl

theorem launch_plain (command : WorkerCommand) (chronicle : Chronicle ω) :
    launch workers command chronicle.world =
      (launch workers.chronicled command chronicle).map (Except.map Held.plain)
        Chronicle.world := by
  rcases started : workers.launch command chronicle.world with ⟨reason | process, world⟩
  · simp only [launch, started, workers.chronicled_launch_of_error started]
    rfl
  · have same := exchange_plain workers startMessage ⟨some (chronicle.launches, process), []⟩
      (chronicle.add (.launched chronicle.launches) world)
    change exchange workers startMessage ⟨some process, []⟩ world = _ at same
    simp only [launch, started, workers.chronicled_launch_of_ok started, same]
    rcases exchange workers.chronicled startMessage ⟨some (chronicle.launches, process), []⟩
      (chronicle.add (.launched chronicle.launches) world) with ⟨fault | reply, held, done⟩
    · rfl
    · simp only [Prod.map, id]
      split <;> rfl

theorem confirmEnd_plain (held : Held (Nat × ψ)) (chronicle : Chronicle ω) :
    confirmEnd workers held.plain chronicle.world =
      (confirmEnd workers.chronicled held chronicle).map id Chronicle.world := by
  simp only [confirmEnd, exchange_plain]
  rcases exchange workers.chronicled endMessage held chronicle with ⟨fault | reply, kept, after⟩
  · rfl
  · rfl

theorem start_plain (link : Link (Chronicle ω) (Nat × ψ)) :
    start workers link.plain = (start workers.chronicled link).map id Link.plain := by
  by_cases running : link.channel.state = .running
  · have plainly : link.plain.channel.state = .running := running
    rw [start, if_pos plainly, start, if_pos running]
    rfl
  · have plainly : link.plain.channel.state ≠ .running := running
    rw [start, if_neg plainly, start, if_neg running]
    simp only [Link.plain, Channel.plain, launch_plain]
    rcases launch workers.chronicled link.channel.command link.world with ⟨error | held, after⟩
    · rfl
    · rfl

theorem stop_plain (link : Link (Chronicle ω) (Nat × ψ)) :
    stop workers link.plain = (stop workers.chronicled link).map id Link.plain := by
  rcases link with ⟨⟨command, state, _ | held, recycleAfter, served, restarts⟩, chronicle⟩
  · rfl
  · simp only [stop, Link.plain, Channel.plain, Option.map_some, confirmEnd_plain]
    rfl

theorem replace_plain (channel : Channel (Nat × ψ)) (chronicle : Chronicle ω) :
    replace workers channel.plain chronicle.world =
      (replace workers.chronicled channel chronicle).map id Link.plain := by
  simp only [replace, Channel.plain, launch_plain]
  rcases launch workers.chronicled channel.command chronicle with ⟨error | held, after⟩
  · rfl
  · rfl

theorem restart_plain (force : Bool) (link : Link (Chronicle ω) (Nat × ψ)) :
    restart workers force link.plain =
      (restart workers.chronicled force link).map id Link.plain := by
  by_cases running : link.channel.state = .running
  · have plainly : link.plain.channel.state = .running := running
    have replacing := replace_plain workers link.channel link.world
    cases force with
    | true =>
      rw [restart_forced workers plainly, restart_forced workers.chronicled running]
      exact replacing
    | false =>
      cases holds : link.channel.worker with
      | none =>
        have nobody : link.plain.channel.worker = none :=
          congrArg (Option.map Held.plain) holds
        rw [restart_of_absent workers plainly nobody,
          restart_of_absent workers.chronicled running holds]
        exact replacing
      | some held =>
        have plainlyHolds : link.plain.channel.worker = some held.plain :=
          congrArg (Option.map Held.plain) holds
        rw [restart_graceful workers plainly plainlyHolds,
          restart_graceful workers.chronicled running holds]
        have confirming := confirmEnd_plain workers held link.world
        change confirmEnd workers held.plain link.plain.world = _ at confirming
        rw [confirming]
        rcases confirmEnd workers.chronicled held link.world with ⟨_ | _, after⟩
        · rfl
        · exact replace_plain workers link.channel after
  · have plainly : link.plain.channel.state ≠ .running := running
    rw [restart_of_not_running workers plainly, restart_of_not_running workers.chronicled running]
    rfl

theorem renew_plain (link : Link (Chronicle ω) (Nat × ψ)) :
    renew workers link.plain = (renew workers.chronicled link).map id Link.plain := by
  rw [renew, restart_plain, renew]
  rfl

theorem send_plain (message : String) (link : Link (Chronicle ω) (Nat × ψ)) :
    send workers message link.plain =
      (send workers.chronicled message link).map id Link.plain := by
  cases holds : link.channel.worker with
  | none =>
    have nobody : link.plain.channel.worker = none :=
      congrArg (Option.map Held.plain) holds
    rw [send_of_absent workers nobody, send_of_absent workers.chronicled holds]
    exact renew_plain workers link
  | some held =>
    have plainlyHolds : link.plain.channel.worker = some held.plain :=
      congrArg (Option.map Held.plain) holds
    rw [send_of_held workers plainlyHolds, send_of_held workers.chronicled holds]
    have exchanging := exchange_plain workers message held link.world
    change exchange workers message held.plain link.plain.world = _ at exchanging
    rw [exchanging]
    rcases exchange workers.chronicled message held link.world with ⟨fault | reply, kept, world⟩
    · exact renew_plain workers ⟨{ link.channel with worker := some kept }, world⟩
    · rfl

theorem ready_plain (link : Link (Chronicle ω) (Nat × ψ)) :
    ready workers link.plain = (ready workers.chronicled link).map id Link.plain := by
  unfold ready
  dsimp only
  split
  · next spare =>
    have same : link.channel.served + 1 < link.channel.recycleAfter := spare
    rw [if_pos same]
    rfl
  · next due =>
    have same : ¬ link.channel.served + 1 < link.channel.recycleAfter := due
    rw [if_neg same]
    exact restart_plain workers false
      { link with channel := { link.channel with served := link.channel.served + 1 } }

theorem request_plain (kind : RequestKind) (payload : String)
    (link : Link (Chronicle ω) (Nat × ψ)) :
    request workers kind payload link.plain =
      (request workers.chronicled kind payload link).map id Link.plain := by
  by_cases running : link.channel.state = .running
  · have plainly : link.plain.channel.state = .running := running
    cases plain : isAscii payload with
    | true =>
      rw [request_eq workers plainly plain, request_eq workers.chronicled running plain,
        ready_plain]
      rcases ready workers.chronicled link with ⟨error | _, readied⟩
      · rfl
      · exact send_plain workers (kind.message payload) readied
    | false =>
      rw [request_of_not_ascii workers kind payload _ plainly plain,
        request_of_not_ascii workers.chronicled kind payload _ running plain]
      rfl
  · have plainly : link.plain.channel.state ≠ .running := running
    rw [request_of_not_running workers kind payload _ plainly,
      request_of_not_running workers.chronicled kind payload _ running]
    rfl

/-- **The chronicle makes no difference to an action.** -/
theorem Action.perform_plain (action : Action) (link : Link (Chronicle ω) (Nat × ψ)) :
    action.perform workers link.plain =
      (action.perform workers.chronicled link).map id Link.plain := by
  cases action with
  | start => simp only [perform, start_plain, Prod.map_map]; rfl
  | stop => simp only [perform, stop_plain, Prod.map_map]; rfl
  | restart force => simp only [perform, restart_plain, Prod.map_map]; rfl
  | request kind payload => simp only [perform, request_plain, Prod.map_map]; rfl

/-- **The chronicle makes no difference to any number of actions.** -/
theorem run_plain (actions : List Action) (link : Link (Chronicle ω) (Nat × ψ)) :
    run workers actions link.plain = (run workers.chronicled actions link).plain := by
  induction actions generalizing link with
  | nil => rfl
  | cons action rest ih =>
    simp only [run, List.foldl_cons, Action.perform_plain] at ih ⊢
    exact ih _

end Channel

end SourceIndex
