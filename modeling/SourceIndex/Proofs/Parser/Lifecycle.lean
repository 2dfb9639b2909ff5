import SourceIndex.Proofs.Parser.Course

/-!
# The life of a channel

A channel is never left in the middle of a restart, and it holds a worker exactly while it is
running. The requests that it counts stay below the number after which the worker is replaced
(`Channel.Sound`). Every action keeps that (`Channel.Sound.perform`), and every worker that takes
the place of another one is counted (`Channel.Follows`).

Main statement: this is so after any actions on a fresh channel, whatever its workers do, and the
next action treats it as one may expect (`Channel.run_lifecycle`).
-/

set_option autoImplicit false

namespace SourceIndex.Channel

variable {ω ψ : Type} {workers : Workers ω ψ}
variable {link between after : Link (Chronicle ω) (Nat × ψ)}

/-! ## What every action keeps -/

/-- What holds of a channel between two actions. -/
structure Sound (channel : Channel ψ) : Prop where
  settled : channel.state ≠ .restarting
  held_iff : channel.worker.isSome = true ↔ channel.state = .running
  served_lt : channel.state = .running → channel.served < channel.recycleAfter
  recycles : 0 < channel.recycleAfter

theorem sound_make (command : WorkerCommand) (recycleAfter : Nat) :
    Sound (make command recycleAfter : Channel ψ) where
  settled := nofun
  held_iff := ⟨nofun, nofun⟩
  served_lt := nofun
  recycles := Nat.lt_of_lt_of_le Nat.one_pos (Nat.le_max_left 1 recycleAfter)

theorem Renewed.sound (renewed : Renewed workers link after)
    (recycles : 0 < link.channel.recycleAfter) : Sound after.channel := by
  cases renewed with
  | intro greeted => exact ⟨nofun, ⟨fun _ => rfl, fun _ => rfl⟩, fun _ => recycles, recycles⟩

theorem Abandoned.sound (abandoned : Abandoned link after)
    (recycles : 0 < link.channel.recycleAfter) : Sound after.channel := by
  cases abandoned with
  | intro adds => exact ⟨nofun, ⟨nofun, nofun⟩, nofun, recycles⟩

theorem Restarted.sound {result : Except ParserError Unit}
    (restarted : Restarted workers link result after)
    (recycles : 0 < link.channel.recycleAfter) : Sound after.channel := by
  cases restarted with
  | renewed ending renewed => exact renewed.sound recycles
  | abandoned broken abandoned => exact abandoned.sound recycles

/-- A count that has reached the threshold does not outlive the restart. -/
theorem Sound.ready (sound : Sound link.channel) (readied : Readied workers link after) :
    Sound after.channel := by
  cases readied with
  | spare below => exact ⟨sound.settled, sound.held_iff, fun _ => below, sound.recycles⟩
  | recycled due restarted => exact restarted.sound sound.recycles

theorem Sound.delivered {message : String} {answer : Except Frame.Fault String}
    (sound : Sound link.channel) (delivered : Delivered workers message link answer after) :
    Sound after.channel := by
  cases delivered with
  | missing absent => exact sound
  | exchanged holds exchanged =>
    have holding : link.channel.worker.isSome = true := by rw [holds]; rfl
    exact ⟨sound.settled, ⟨fun _ => sound.held_iff.1 holding, fun _ => rfl⟩, sound.served_lt,
      sound.recycles⟩

theorem Sound.requested {message : String} {result : Except ParserError String}
    (sound : Sound link.channel) (requested : Requested workers message link result after) :
    Sound after.channel := by
  cases requested with
  | unready due broken abandoned => exact abandoned.sound sound.recycles
  | answered readied delivered => exact (sound.ready readied).delivered delivered
  | renewed readied delivered renewed =>
    exact renewed.sound ((sound.ready readied).delivered delivered).recycles
  | abandoned readied delivered broken abandoned =>
    exact abandoned.sound ((sound.ready readied).delivered delivered).recycles

/-- **Every action keeps a channel sound.** -/
theorem Sound.perform (sound : Sound link.channel) (action : Action) :
    Sound (action.perform workers.chronicled link).2.channel := by
  rcases ended : action.perform workers.chronicled link with ⟨reply, after⟩
  cases performed_of_perform ended with
  | idle => exact sound
  | started idle greeted =>
    exact ⟨nofun, ⟨fun _ => rfl, fun _ => rfl⟩, fun _ => sound.recycles, sound.recycles⟩
  | unstarted idle adds => exact sound
  | stopped adds => exact ⟨nofun, ⟨nofun, nofun⟩, nofun, sound.recycles⟩
  | restarted running restarted => exact restarted.sound sound.recycles
  | requested running requested => exact sound.requested requested

/-- What every action keeps, any number of actions keep. -/
theorem Sound.run (sound : Sound link.channel) (actions : List Action) :
    Sound (run workers.chronicled actions link).channel := by
  induction actions generalizing link with
  | nil => exact sound
  | cons action rest ih => exact ih (sound.perform action)

/-! ## Replaced workers are counted -/

/-- The threshold stays, and every worker that sent the start message back took the place of
another one and was counted for that. -/
structure Follows (before after : Link (Chronicle ω) (Nat × ψ)) : Prop where
  recycleAfter : after.channel.recycleAfter = before.channel.recycleAfter
  restarts : ∃ count, after.world.greetings = before.world.greetings + count ∧
    after.channel.restarts = before.channel.restarts + count

namespace Follows

theorem refl (link : Link (Chronicle ω) (Nat × ψ)) : Follows link link :=
  ⟨rfl, 0, rfl, rfl⟩

theorem trans (first : Follows link between) (second : Follows between after) :
    Follows link after := by
  obtain ⟨threshold, count, greetings, restarts⟩ := first
  obtain ⟨thresholdLater, more, greetingsLater, restartsLater⟩ := second
  refine ⟨thresholdLater.trans threshold, count + more, ?_, ?_⟩
  · rw [greetingsLater, greetings, Nat.add_assoc]
  · rw [restartsLater, restarts, Nat.add_assoc]

/-- Nothing is counted where nobody sends the start message back. -/
theorem of_adds (adds : link.world.Adds (fun event => event.isGreeting = false) after.world)
    (recycleAfter : after.channel.recycleAfter = link.channel.recycleAfter)
    (restarts : after.channel.restarts = link.channel.restarts) : Follows link after :=
  ⟨recycleAfter, 0, adds.countP, restarts⟩

end Follows

theorem Renewed.follows (renewed : Renewed workers link after) : Follows link after := by
  cases renewed with
  | intro greeted => exact ⟨rfl, 1, greeted.greetings, rfl⟩

theorem Abandoned.follows (abandoned : Abandoned link after) : Follows link after := by
  cases abandoned with
  | intro adds => exact .of_adds (adds.mono fun _ => And.right) rfl rfl

theorem Restarted.follows {result : Except ParserError Unit}
    (restarted : Restarted workers link result after) : Follows link after := by
  cases restarted with
  | renewed ending renewed =>
    have asking : Follows link ⟨link.channel, _⟩ :=
      .of_adds (ending.mono fun _ isEnd => isEnd.isFruitless.2) rfl rfl
    exact asking.trans renewed.follows
  | abandoned broken abandoned => exact abandoned.follows

theorem Readied.follows (readied : Readied workers link after) : Follows link after := by
  cases readied with
  | spare below => exact ⟨rfl, 0, rfl, rfl⟩
  | recycled due restarted =>
    have here := restarted.follows
    exact ⟨here.recycleAfter, here.restarts⟩

theorem Delivered.follows {kind : RequestKind} {payload : String}
    {answer : Except Frame.Fault String}
    (delivered : Delivered workers (kind.message payload) link answer after) :
    Follows link after := by
  cases delivered with
  | missing absent => exact .refl link
  | exchanged holds exchanged =>
    have other := Frame.write_message_ne_start kind payload
    exact .of_adds (exchanged.adds fun _ _ _ => WorkerEvent.isGreeting_of_line other) rfl rfl

theorem Requested.follows {kind : RequestKind} {payload : String}
    {result : Except ParserError String}
    (requested : Requested workers (kind.message payload) link result after) :
    Follows link after := by
  cases requested with
  | unready due broken abandoned =>
    have here := abandoned.follows
    exact ⟨here.recycleAfter, here.restarts⟩
  | answered readied delivered => exact readied.follows.trans delivered.follows
  | renewed readied delivered renewed =>
    exact (readied.follows.trans delivered.follows).trans renewed.follows
  | abandoned readied delivered broken abandoned =>
    exact (readied.follows.trans delivered.follows).trans abandoned.follows

/-- The actions that may replace a worker. -/
def Action.replaces : Action → Bool
  | .start | .stop => false
  | .restart _ | .request .. => true

/-- How often a worker was replaced in the course of actions: how many workers were launched by a
restart or a request and sent the start message back. -/
def replacements (workers : Workers ω ψ) :
    List Action → Link (Chronicle ω) (Nat × ψ) → Nat
  | [], _ => 0
  | action :: rest, link =>
    let after := (action.perform workers.chronicled link).2
    (if action.replaces then after.world.greetings - link.world.greetings else 0) +
      replacements workers rest after

theorem restarts_perform (workers : Workers ω ψ) (action : Action)
    (link : Link (Chronicle ω) (Nat × ψ)) :
    (action.perform workers.chronicled link).2.channel.recycleAfter = link.channel.recycleAfter ∧
      (action.perform workers.chronicled link).2.channel.restarts = link.channel.restarts +
        if action.replaces then
          (action.perform workers.chronicled link).2.world.greetings - link.world.greetings
        else 0 := by
  have counted : ∀ {after : Link (Chronicle ω) (Nat × ψ)}, Follows link after →
      after.channel.recycleAfter = link.channel.recycleAfter ∧
        after.channel.restarts =
          link.channel.restarts + (after.world.greetings - link.world.greetings) := by
    rintro after ⟨threshold, count, greetings, restarts⟩
    rw [greetings, Nat.add_sub_cancel_left]
    exact ⟨threshold, restarts⟩
  rcases ended : action.perform workers.chronicled link with ⟨reply, after⟩
  cases performed_of_perform ended with
  | idle =>
    rw [Nat.sub_self, ite_self]
    exact ⟨rfl, rfl⟩
  | started idle greeted => exact ⟨rfl, rfl⟩
  | unstarted idle adds => exact ⟨rfl, rfl⟩
  | stopped adds => exact ⟨rfl, rfl⟩
  | restarted running restarted => exact counted restarted.follows
  | requested running requested => exact counted requested.follows

/-- The restarts of a channel are the workers that were replaced. -/
theorem restarts_run (workers : Workers ω ψ) (actions : List Action)
    (link : Link (Chronicle ω) (Nat × ψ)) :
    (run workers.chronicled actions link).channel.recycleAfter = link.channel.recycleAfter ∧
      (run workers.chronicled actions link).channel.restarts =
        link.channel.restarts + replacements workers actions link := by
  induction actions generalizing link with
  | nil => exact ⟨rfl, rfl⟩
  | cons action rest ih =>
    obtain ⟨threshold, restarts⟩ := restarts_perform workers action link
    obtain ⟨thresholdLater, restartsLater⟩ := ih (action.perform workers.chronicled link).2
    refine ⟨thresholdLater.trans threshold, restartsLater.trans ?_⟩
    rw [restarts, Nat.add_assoc]
    rfl

/-! ## How requests end -/

theorem Renewed.state (renewed : Renewed workers link after) :
    after.channel.state = .running := by
  cases renewed with
  | intro greeted => rfl

theorem Abandoned.state (abandoned : Abandoned link after) :
    after.channel.state = .stopped := by
  cases abandoned with
  | intro adds => rfl

/-- A channel that gave an answer is running. -/
theorem Requested.running {message reply : String}
    (requested : Requested workers message link (.ok reply) after)
    (running : link.channel.state = .running) :
    after.channel.state = .running := by
  cases requested with
  | answered readied delivered => exact delivered.state.trans (readied.running running)
  | renewed readied delivered renewed => exact renewed.state

/-- A channel whose worker broke down is stopped. -/
theorem Requested.stopped {message : String} {error : ParserError}
    (requested : Requested workers message link (.error error) after) :
    error.isBreakdown = true ∧ after.channel.state = .stopped := by
  cases requested with
  | unready due broken abandoned => exact ⟨broken, abandoned.state⟩
  | abandoned readied delivered broken abandoned => exact ⟨broken, abandoned.state⟩

theorem Requested.left {message : String} {result : Except ParserError String}
    (requested : Requested workers message link result after)
    (running : link.channel.state = .running) : after.channel.state ≠ .notStarted := by
  cases result with
  | ok reply => exact requested.running running ▸ nofun
  | error error => exact requested.stopped.2 ▸ nofun

/-- A channel refuses a request for its characters only if the payload is not ASCII. -/
theorem isAscii_of_nonAscii {kind : RequestKind} {payload : String}
    {link after : Link ω ψ}
    (refused : request workers kind payload link = (.error .nonAscii, after)) :
    isAscii payload = false := by
  rw [Bool.eq_false_iff]
  intro plain
  rw [← link.plain_numbered, request_plain] at refused
  rcases ended : request workers.chronicled kind payload link.numbered with ⟨result, last⟩
  rw [ended] at refused
  cases refused
  by_cases running : link.numbered.channel.state = .running
  · cases (requested_of_request running plain ended).stopped.1
  · rw [request_of_not_running _ kind payload _ running] at ended
    cases ended

/-- What may be expected of the next action on a channel. -/
structure Dependable (workers : Workers ω ψ) (link : Link (Chronicle ω) (Nat × ψ)) : Prop where
  /-- Once it was started, a channel is never again as if it was not. -/
  left : link.channel.state ≠ .notStarted → ∀ action : Action,
    (action.perform workers.chronicled link).2.channel.state ≠ .notStarted
  /-- Starting and stopping replace no worker. -/
  start_restarts : (start workers.chronicled link).2.channel.restarts = link.channel.restarts
  stop_restarts : (stop workers.chronicled link).2.channel.restarts = link.channel.restarts
  /-- A start that fails changes nothing about the channel. -/
  start_failed : ∀ error, (start workers.chronicled link).1 = .error error →
    (start workers.chronicled link).2.channel = link.channel
  /-- A restart of a channel that is not running is refused, and no worker notices. -/
  restart_refused : link.channel.state ≠ .running → ∀ force,
    restart workers.chronicled force link = (.error (.notRunning link.channel.state), link)
  request_ok : ∀ kind payload reply, (request workers.chronicled kind payload link).1 = .ok reply →
    (request workers.chronicled kind payload link).2.channel.state = .running
  request_error : ∀ kind payload error,
    (request workers.chronicled kind payload link).1 = .error error →
      (error.isFatal = true ↔
        (request workers.chronicled kind payload link).2.channel.state ≠ .running)
  /-- A request that is refused changes nothing, and no worker gets anything. -/
  request_refused : ∀ kind payload error,
    (request workers.chronicled kind payload link).1 = .error error →
      (error = .nonAscii ∨ ∃ state, error = .notRunning state) →
        (request workers.chronicled kind payload link).2 = link

theorem dependable (workers : Workers ω ψ) (link : Link (Chronicle ω) (Nat × ψ)) :
    Dependable workers link where
  left := by
    intro begun action
    rcases ended : action.perform workers.chronicled link with ⟨reply, after⟩
    cases performed_of_perform ended with
    | idle => exact begun
    | started idle greeted => exact nofun
    | unstarted idle adds => exact begun
    | stopped adds => exact nofun
    | restarted running restarted =>
      cases restarted with
      | renewed ending renewed => exact renewed.state ▸ nofun
      | abandoned broken abandoned => exact abandoned.state ▸ nofun
    | requested running requested => exact requested.left running
  start_restarts := (restarts_perform workers .start link).2
  stop_restarts := (restarts_perform workers .stop link).2
  start_failed := by
    intro error
    rcases ended : start workers.chronicled link with ⟨result, after⟩
    rintro rfl
    by_cases running : link.channel.state = .running
    · rw [start_of_running running] at ended
      cases ended
    · rcases start_cases running ended with
        ⟨held, chronicle, done, -, -⟩ | ⟨_, chronicle, -, -, rfl⟩
      · cases done
      · rfl
  restart_refused := fun idle force => restart_of_not_running _ idle
  request_ok := by
    intro kind payload reply
    rcases ended : request workers.chronicled kind payload link with ⟨result, after⟩
    rintro rfl
    obtain ⟨running, requested⟩ := requested_of_ok ended
    exact requested.running running
  request_error := by
    intro kind payload error
    rcases ended : request workers.chronicled kind payload link with ⟨result, after⟩
    rintro rfl
    rcases request_cases ended with
      ⟨idle, refused, rfl⟩ | ⟨running, refused, rfl⟩ | ⟨running, requested⟩
    · cases refused
      exact ⟨fun _ => idle, fun _ => rfl⟩
    · cases refused
      exact ⟨nofun, fun idle => absurd running idle⟩
    · obtain ⟨broken, stopped⟩ := requested.stopped
      exact ⟨fun _ => stopped ▸ nofun, fun _ => ParserError.isFatal_of_isBreakdown broken⟩
  request_refused := by
    intro kind payload error
    rcases ended : request workers.chronicled kind payload link with ⟨result, after⟩
    rintro rfl refusal
    rcases request_cases ended with ⟨-, -, rfl⟩ | ⟨-, -, rfl⟩ | ⟨running, requested⟩
    · rfl
    · rfl
    · obtain ⟨broken, -⟩ := requested.stopped
      rcases refusal with rfl | ⟨state, rfl⟩
      · cases broken
      · cases broken

/-! ## The main statement -/

/-- **The life of a channel.** After any actions on a channel that was made with a threshold of 32
bits, whatever its workers do, it is sound, the next request can be counted in 32 bits, its restarts
are the workers that were replaced, and the next action is as may be expected. The chronicle makes
no difference to any of this. -/
theorem run_lifecycle (workers : Workers ω ψ) (command : WorkerCommand) (recycleAfter : UInt32)
    (world : ω) (actions : List Action) :
    let opening : Link (Chronicle ω) (Nat × ψ) :=
      ⟨make command recycleAfter.toNat, ⟨world, []⟩⟩
    let link := run workers.chronicled actions opening
    run workers actions ⟨make command recycleAfter.toNat, world⟩ = link.plain ∧
      Sound link.channel ∧
      (link.channel.state = .running → link.channel.served + 1 < UInt32.size) ∧
      link.channel.restarts = replacements workers actions opening ∧
      Dependable workers link := by
  intro opening link
  have sound : Sound link.channel := (sound_make command recycleAfter.toNat).run actions
  obtain ⟨threshold, restarts⟩ := restarts_run workers actions opening
  refine ⟨run_plain workers actions opening, sound, ?_, restarts.trans (Nat.zero_add _),
    dependable workers link⟩
  intro running
  have below := sound.served_lt running
  have small := recycleAfter.toNat_lt_size
  have same : link.channel.recycleAfter = max 1 recycleAfter.toNat := threshold
  have size : 1 < UInt32.size := by decide
  omega

end SourceIndex.Channel
