import SourceIndex.Proofs.Parser.Attribution

/-!
# When workers are replaced

A channel counts the requests to its worker and replaces the worker when the count reaches the
threshold. The request that makes it reach the threshold is not counted for the fresh worker that
gets it, so that a worker gets as many requests as the threshold says, and the first one, which took
nobody's place, one less. Every action keeps the count of the requests to the worker that is held
(`Channel.Rationed`).

Since when a count began is told without looking at it (`Channel.Schedule`): a count begins when the
channel is started or restarted, whether that was asked for or came of a request without an answer,
and every answered request adds to it. The channel keeps to this schedule (`Channel.OnSchedule`).

Main statement: after any actions on a fresh channel, whatever its workers do, no worker got more
requests than the threshold, and the next request restarts the channel exactly if the threshold
divides its number (`Channel.run_recycles`).
-/

set_option autoImplicit false

namespace SourceIndex

variable {ω ψ : Type}

/-! ## Requests in a chronicle -/

/-- The event is that the worker got the message of a request. -/
def WorkerEvent.isRequestTo (worker : Nat) : WorkerEvent → Bool
  | .launched _ => false
  | .answered number line _ _ =>
    number == worker && line != Frame.write startMessage && line != Frame.write endMessage

/-- The line that a worker got, if the event is not a launch. -/
def WorkerEvent.line? : WorkerEvent → Option Bytes
  | .launched _ => none
  | .answered _ line _ _ => some line

theorem WorkerEvent.IsUpkeep.isRequestTo {event : WorkerEvent} (upkeep : event.IsUpkeep)
    (worker : Nat) : event.isRequestTo worker = false := by
  cases event with
  | launched number => rfl
  | answered number line output ended =>
    rcases upkeep with launch | start | ending
    · cases launch
    · rw [WorkerEvent.isRequestTo, eq_of_beq start]
      simp
    · rw [WorkerEvent.isRequestTo, eq_of_beq ending]
      simp

namespace Chronicle

variable {before after : Chronicle ω}

/-- How many requests a worker got. -/
def requestsTo (chronicle : Chronicle ω) (worker : Nat) : Nat :=
  chronicle.events.countP (WorkerEvent.isRequestTo worker)

/-- The launches and the lines that workers got, in order. -/
def lines (chronicle : Chronicle ω) : List (Option Bytes) :=
  chronicle.events.map WorkerEvent.line?

theorem lines_add (chronicle : Chronicle ω) (event : WorkerEvent) (world : ω) :
    (chronicle.add event world).lines = chronicle.lines ++ [event.line?] :=
  List.map_append

theorem requestsTo_of_adds (adds : before.Adds WorkerEvent.IsUpkeep after) (worker : Nat) :
    after.requestsTo worker = before.requestsTo worker :=
  (adds.mono fun _ upkeep => upkeep.isRequestTo worker).countP

theorem launches_le_of_adds {allowed : WorkerEvent → Prop} (adds : before.Adds allowed after) :
    before.launches ≤ after.launches := by
  obtain ⟨events, grown, -⟩ := adds
  rw [launches, launches, grown, List.countP_append]
  exact Nat.le_add_right _ _

/-- What a worker gets does not count for another one. -/
theorem requestsTo_add_of_ne {worker number : Nat} (apart : worker ≠ number)
    (chronicle : Chronicle ω) (line output : Bytes) (ended : Bool) (world : ω) :
    (chronicle.add (.answered number line output ended) world).requestsTo worker =
      chronicle.requestsTo worker := by
  rw [requestsTo, countP_add, if_neg]
  · rfl
  · simp [WorkerEvent.isRequestTo, apart.symm]

theorem requestsTo_add_le (chronicle : Chronicle ω) (event : WorkerEvent) (world : ω)
    (worker : Nat) :
    (chronicle.add event world).requestsTo worker ≤ chronicle.requestsTo worker + 1 := by
  rw [requestsTo, countP_add]
  refine Nat.add_le_add_left ?_ _
  split
  · exact Nat.le_refl 1
  · exact Nat.zero_le 1

end Chronicle

namespace Channel

open Chronicle

variable {workers : Workers ω ψ} {link after : Link (Chronicle ω) (Nat × ψ)}

/-! ## What a worker gets -/

/-- No worker got more requests than the threshold. The worker that a channel holds got those that
are counted and at most a margin more, and a worker that was not launched yet got none. -/
structure Rationed (margin : Nat) (link : Link (Chronicle ω) (Nat × ψ)) : Prop where
  limited : ∀ worker, link.world.requestsTo worker ≤ link.channel.recycleAfter
  unlaunched : ∀ worker, link.world.launches ≤ worker → link.world.requestsTo worker = 0
  counted : ∀ held, link.channel.worker = some held → ∀ process, held.process = some process →
    process.1 < link.world.launches ∧
      link.world.requestsTo process.1 ≤ link.channel.served + margin

namespace Rationed

variable {margin : Nat}

theorem mono (rationed : Rationed 0 link) : Rationed margin link where
  limited := rationed.limited
  unlaunched := rationed.unlaunched
  counted := fun held holds process running =>
    (rationed.counted held holds process running).imp_right fun few =>
      Nat.le_trans few (Nat.le_add_right _ _)

/-- Upkeep gives no worker a request. -/
theorem upkeep (rationed : Rationed margin link) {chronicle : Chronicle ω}
    (adds : link.world.Adds WorkerEvent.IsUpkeep chronicle) :
    Rationed margin ⟨link.channel, chronicle⟩ where
  limited := fun worker => (requestsTo_of_adds adds worker).trans_le (rationed.limited worker)
  unlaunched := fun worker later => (requestsTo_of_adds adds worker).trans
    (rationed.unlaunched worker (Nat.le_trans (launches_le_of_adds adds) later))
  counted := by
    intro held holds process running
    obtain ⟨early, few⟩ := rationed.counted held holds process running
    exact ⟨Nat.lt_of_lt_of_le early (launches_le_of_adds adds),
      (requestsTo_of_adds adds process.1).trans_le few⟩

/-- A channel that drops its worker counts for nobody. -/
theorem dropped {channel : Channel (Nat × ψ)} {other : Nat} (rationed : Rationed margin link)
    (absent : channel.worker = none)
    (threshold : channel.recycleAfter = link.channel.recycleAfter) :
    Rationed other ⟨channel, link.world⟩ where
  limited := fun worker => (rationed.limited worker).trans_eq threshold.symm
  unlaunched := rationed.unlaunched
  counted := by
    intro held holds
    rw [absent] at holds
    cases holds

/-- A fresh worker got no request yet. -/
theorem greeted {channel : Channel (Nat × ψ)} {held : Held (Nat × ψ)} {chronicle : Chronicle ω}
    (rationed : Rationed margin link) (greeted : Greeted workers link.world held chronicle)
    (holds : channel.worker = some held)
    (threshold : channel.recycleAfter = link.channel.recycleAfter) :
    Rationed 0 ⟨channel, chronicle⟩ := by
  have kept := rationed.upkeep greeted.adds
  refine ⟨fun worker => (kept.limited worker).trans_eq threshold.symm, kept.unlaunched,
    fun other same process running => ?_⟩
  rw [holds] at same
  cases same
  have number := greeted.number running
  have fresh : chronicle.requestsTo process.1 = 0 :=
    (requestsTo_of_adds greeted.adds process.1).trans
      (rationed.unlaunched process.1 (Nat.le_of_eq number.symm))
  refine ⟨?_, fresh.trans_le (Nat.zero_le _)⟩
  rw [greeted.launches, number]
  exact Nat.lt_succ_self _

end Rationed

theorem Renewed.rationed {margin : Nat} (renewed : Renewed workers link after)
    (rationed : Rationed margin link) : Rationed 0 after := by
  cases renewed with
  | intro greeted => exact rationed.greeted greeted rfl rfl

theorem Abandoned.rationed {margin other : Nat} (abandoned : Abandoned link after)
    (rationed : Rationed margin link) : Rationed other after := by
  cases abandoned with
  | intro adds => exact (rationed.upkeep (adds.mono fun _ => And.left)).dropped rfl rfl

theorem Restarted.rationed {margin : Nat} {result : Except ParserError Unit}
    (restarted : Restarted workers link result after) (rationed : Rationed margin link) :
    Rationed 0 after := by
  cases restarted with
  | renewed ending renewed =>
    exact renewed.rationed (rationed.upkeep (ending.mono fun _ isEnd => isEnd.isFruitless.1))
  | abandoned broken abandoned => exact abandoned.rationed rationed

/-- The request that a worker is made ready for is counted, unless the worker is a fresh one. -/
theorem Readied.rationed (readied : Readied workers link after) (rationed : Rationed 1 link) :
    Rationed 0 after := by
  have counting : Rationed 0 (Channel.counted link) :=
    ⟨rationed.limited, rationed.unlaunched, rationed.counted⟩
  cases readied with
  | spare below => exact counting
  | recycled due restarted => exact restarted.rationed counting

theorem Delivered.rationed {message : String} {answer : Except Frame.Fault String}
    (delivered : Delivered workers message link answer after) (rationed : Rationed 0 link)
    (below : link.channel.served < link.channel.recycleAfter) : Rationed 1 after := by
  cases delivered with
  | missing absent => exact rationed.mono
  | exchanged holds exchanged =>
    cases exchanged with
    | silent =>
      refine ⟨rationed.limited, rationed.unlaunched, ?_⟩
      rintro held same process running
      cases same
      cases running
    | @spoken number process unread output rest next world answer wrote reading =>
      obtain ⟨early, few⟩ := rationed.counted _ holds (number, process) rfl
      have more := link.world.requestsTo_add_le
        (.answered number (Frame.write message) output next.isNone) world number
      refine ⟨fun worker => ?_, fun worker later => ?_, ?_⟩
      · by_cases same : worker = number
        · subst same
          exact Nat.le_trans more (Nat.le_trans (Nat.succ_le_succ few) below)
        · rw [requestsTo_add_of_ne same]
          exact rationed.limited worker
      · rw [launches_add_answered] at later
        rw [requestsTo_add_of_ne (Nat.ne_of_gt (Nat.lt_of_lt_of_le early later))]
        exact rationed.unlaunched worker later
      · rintro held same left running
        cases same
        obtain ⟨_, -, rfl⟩ := Option.map_eq_some_iff.1 running
        rw [launches_add_answered]
        exact ⟨early, Nat.le_trans more (Nat.succ_le_succ few)⟩

theorem Requested.rationed {message : String} {result : Except ParserError String}
    (requested : Requested workers message link result after) (sound : Sound link.channel)
    (running : link.channel.state = .running) (rationed : Rationed 1 link) : Rationed 1 after := by
  have delivering : ∀ {readied lost : Link (Chronicle ω) (Nat × ψ)}
      {answer : Except Frame.Fault String}, Readied workers link readied →
        Delivered workers message readied answer lost → Rationed 1 lost :=
    fun readied delivered => delivered.rationed (readied.rationed rationed)
      ((sound.ready readied).served_lt (readied.running running))
  cases requested with
  | unready due broken abandoned =>
    have counting : Rationed 0 (Channel.counted link) :=
      ⟨rationed.limited, rationed.unlaunched, rationed.counted⟩
    exact abandoned.rationed counting
  | answered readied delivered => exact delivering readied delivered
  | renewed readied delivered renewed =>
    exact (renewed.rationed (delivering readied delivered)).mono
  | abandoned readied delivered broken abandoned =>
    exact abandoned.rationed (delivering readied delivered)

/-- **Every action keeps to the rations.** -/
theorem Rationed.perform (rationed : Rationed 1 link) (sound : Sound link.channel)
    (action : Action) : Rationed 1 (action.perform workers.chronicled link).2 := by
  rcases ended : action.perform workers.chronicled link with ⟨reply, after⟩
  cases performed_of_perform ended with
  | idle => exact rationed
  | started idle greeted => exact Rationed.mono (rationed.greeted greeted rfl rfl)
  | unstarted idle adds => exact rationed.upkeep (adds.mono fun _ => And.left)
  | stopped adds =>
    exact (rationed.upkeep (adds.mono fun _ isEnd => isEnd.isFruitless.1)).dropped rfl rfl
  | restarted running restarted => exact (restarted.rationed rationed).mono
  | requested running requested => exact requested.rationed sound running rationed

theorem Rationed.run (rationed : Rationed 1 link) (sound : Sound link.channel)
    (actions : List Action) : Rationed 1 (run workers.chronicled actions link) := by
  induction actions generalizing link with
  | nil => exact rationed
  | cons action rest ih => exact ih (rationed.perform sound action) (sound.perform action)

/-! ## Schedules -/

/-- The message of a request is answered: the worker can be made ready for it, and its answer can be
read. -/
def answers (workers : Workers ω ψ) (message : String) (link : Link ω ψ) : Bool :=
  match ready workers link with
  | (.error _, _) => false
  | (.ok (), readied) =>
    readied.channel.worker.any fun held => (exchange workers message held readied.world).1.isOk

/-- The requests that were answered since a count began, and the restarts at its beginning. -/
structure Schedule where
  requests : Nat
  restarts : Nat

/-- The schedule after an action. A channel that is started or restarted begins a new count, and so
does one that is restarted because a request has no answer. A request that is refused does not
count. -/
def Schedule.next (workers : Workers ω ψ) (link : Link ω ψ) (schedule : Schedule)
    (action : Action) : Schedule :=
  let anew : Schedule := ⟨0, (action.perform workers link).2.channel.restarts⟩
  match action with
  | .start => if link.channel.state = .running then schedule else anew
  | .stop => schedule
  | .restart _ => if link.channel.state = .running then anew else schedule
  | .request kind payload =>
    if link.channel.state = .running ∧ isAscii payload = true then
      if answers workers (kind.message payload) link then
        { schedule with requests := schedule.requests + 1 }
      else anew
    else schedule

/-- The schedule after actions in order. -/
def Schedule.along (workers : Workers ω ψ) (schedule : Schedule) :
    List Action → Link ω ψ → Schedule
  | [], _ => schedule
  | action :: rest, link =>
    (schedule.next workers link action).along workers rest (action.perform workers link).2

/-- A channel restarts whenever its threshold divides the number of a request. -/
structure OnSchedule (schedule : Schedule) (channel : Channel ψ) : Prop where
  served : channel.served = schedule.requests % channel.recycleAfter
  restarts : channel.restarts = schedule.restarts + schedule.requests / channel.recycleAfter

/-- Either the next number is no multiple, and the remainder grows, or it is one, and the quotient
does. -/
theorem next_multiple (number : Nat) {limit : Nat} (positive : 0 < limit) :
    (number % limit + 1 < limit ∧ ¬limit ∣ number + 1 ∧
        (number + 1) % limit = number % limit + 1 ∧ (number + 1) / limit = number / limit) ∨
      (number % limit + 1 = limit ∧ limit ∣ number + 1 ∧
        (number + 1) % limit = 0 ∧ (number + 1) / limit = number / limit + 1) := by
  have small := Nat.mod_lt number positive
  have split : number + 1 = limit * (number / limit) + (number % limit + 1) := by
    rw [← Nat.add_assoc, Nat.div_add_mod]
  rcases Nat.lt_or_eq_of_le small with below | reached
  · have remainder : (number + 1) % limit = number % limit + 1 := by
      rw [split, Nat.mul_add_mod, Nat.mod_eq_of_lt below]
    refine .inl ⟨below, fun divides => ?_, remainder, ?_⟩
    · rw [Nat.mod_eq_zero_of_dvd divides] at remainder
      cases remainder
    · rw [split, Nat.mul_add_div positive, Nat.div_eq_of_lt below, Nat.add_zero]
  · have whole : number + 1 = limit * (number / limit + 1) := by
      rw [split, Nat.mul_add, Nat.mul_one]
      exact congrArg _ reached
    refine .inr ⟨reached, ⟨_, whole⟩, ?_, ?_⟩
    · rw [whole, Nat.mul_mod_right]
    · rw [whole, Nat.mul_div_cancel_left _ positive]

namespace OnSchedule

variable {schedule : Schedule}

/-- A count that just began is on schedule. -/
theorem anew {channel : Channel ψ} {restarts : Nat} (uncounted : channel.served = 0)
    (begins : channel.restarts = restarts) : OnSchedule ⟨0, restarts⟩ channel := by
  refine ⟨?_, ?_⟩
  · rw [uncounted, Nat.zero_mod]
  · rw [Nat.zero_div, begins, Nat.add_zero]

theorem readied (scheduled : OnSchedule schedule link.channel) (sound : Sound link.channel)
    (readied : Readied workers link after) :
    OnSchedule { schedule with requests := schedule.requests + 1 } after.channel := by
  obtain ⟨served, restarts⟩ := scheduled
  rcases next_multiple schedule.requests sound.recycles with
    ⟨below, -, remainder, quotient⟩ | ⟨reached, -, remainder, quotient⟩
  · cases readied with
    | spare below =>
      exact ⟨(congrArg (· + 1) served).trans remainder.symm,
        restarts.trans (congrArg (schedule.restarts + ·) quotient.symm)⟩
    | recycled due restarted =>
      rw [served] at due
      exact absurd below (Nat.not_lt.2 due)
  · have grown : schedule.restarts + (schedule.requests + 1) / link.channel.recycleAfter =
        link.channel.restarts + 1 := by
      rw [quotient, ← Nat.add_assoc, ← restarts]
    cases readied with
    | spare below =>
      rw [served] at below
      exact absurd reached (Nat.ne_of_lt below)
    | recycled due restarted =>
      cases restarted with
      | renewed ending renewed =>
        cases renewed with
        | intro greeted => exact ⟨remainder.symm, grown.symm⟩

/-- The next request restarts the channel exactly if the threshold divides its number. -/
theorem ready_eq (scheduled : OnSchedule schedule link.channel) (sound : Sound link.channel) :
    ready workers.chronicled link =
      if link.channel.recycleAfter ∣ schedule.requests + 1 then
        restart workers.chronicled false (Channel.counted link)
      else (.ok (), Channel.counted link) := by
  unfold ready
  dsimp only
  rcases next_multiple schedule.requests sound.recycles with
    ⟨below, undivided, -, -⟩ | ⟨reached, divided, -, -⟩
  · rw [← scheduled.served] at below
    rw [if_pos below, if_neg undivided]
    rfl
  · rw [← scheduled.served] at reached
    rw [if_neg (Nat.not_lt.2 (Nat.le_of_eq reached.symm)), if_pos divided]
    rfl

end OnSchedule

/-! ## Requests that are answered -/

theorem answers_of_ready {message : String} {readied lost : Link (Chronicle ω) (Nat × ψ)}
    {answer : Except Frame.Fault String}
    (ready : Channel.ready workers.chronicled link = (.ok (), readied))
    (delivered : Delivered workers message readied answer lost) :
    answers workers.chronicled message link = answer.isOk := by
  rw [answers, ready]
  dsimp only
  cases delivered with
  | missing absent =>
    rw [absent]
    rfl
  | exchanged holds exchanged =>
    rw [holds, Option.any_some]
    cases exchanged with
    | silent => rfl
    | spoken wrote reading =>
      rw [exchange_of_process _ _ (workers.chronicled_receive _ wrote), Option.isNone_map, reading]

variable {kind : RequestKind} {payload : String}

/-- An answered request goes to the worker that was made ready, and its answer is returned. -/
theorem request_of_answers (running : link.channel.state = .running)
    (plain : isAscii payload = true)
    (answered : answers workers.chronicled (kind.message payload) link = true) :
    ∃ readied reply last, ready workers.chronicled link = (.ok (), readied) ∧
      Delivered workers (kind.message payload) readied (.ok reply) last ∧
        request workers.chronicled kind payload link = (.ok reply, last) := by
  rcases readying : ready workers.chronicled link with ⟨error | _, readied⟩
  · rw [answers, readying] at answered
    cases answered
  · obtain ⟨answer, last, delivered⟩ := exists_delivered workers (kind.message payload) readied
    rw [answers_of_ready readying delivered] at answered
    cases answer with
    | error fault => cases answered
    | ok reply =>
      refine ⟨readied, reply, last, rfl, delivered, ?_⟩
      rw [request_eq _ running plain, readying]
      exact delivered.send_eq

/-- After any other request the channel is stopped, or holds a fresh worker. -/
theorem served_of_unanswered (running : link.channel.state = .running)
    (plain : isAscii payload = true)
    (unanswered : answers workers.chronicled (kind.message payload) link = false)
    (still : (request workers.chronicled kind payload link).2.channel.state = .running) :
    (request workers.chronicled kind payload link).2.channel.served = 0 := by
  rcases ended : request workers.chronicled kind payload link with ⟨result, after⟩
  rw [ended] at still
  rcases readying : ready workers.chronicled link with ⟨outcome, readied⟩
  rcases ready_cases running readying with ⟨rfl, ready⟩ | ⟨error, rfl, -, -, abandoned⟩
  · obtain ⟨answer, lost, delivered⟩ := exists_delivered workers (kind.message payload) readied
    rw [answers_of_ready readying delivered] at unanswered
    rw [request_eq _ running plain, readying] at ended
    cases answer with
    | ok reply => cases unanswered
    | error fault =>
      rcases delivered.unanswered (ready.running running) ended with
        ⟨-, renewed⟩ | ⟨error, -, -, abandoned⟩
      · cases renewed
        rfl
      · rw [abandoned.state] at still
        cases still
  · rw [request_eq _ running plain, readying] at ended
    cases ended
    rw [abandoned.state] at still
    cases still

namespace OnSchedule

variable {schedule : Schedule}

theorem delivered {message : String} {answer : Except Frame.Fault String}
    (scheduled : OnSchedule schedule link.channel)
    (delivered : Delivered workers message link answer after) :
    OnSchedule schedule after.channel := by
  cases delivered with
  | missing absent => exact scheduled
  | exchanged holds exchanged => exact ⟨scheduled.served, scheduled.restarts⟩

theorem request (scheduled : OnSchedule schedule link.channel) (sound : Sound link.channel)
    (running : link.channel.state = .running)
    (still : (Channel.request workers.chronicled kind payload link).2.channel.state = .running) :
    OnSchedule (schedule.next workers.chronicled link (.request kind payload))
      (Channel.request workers.chronicled kind payload link).2.channel := by
  unfold Schedule.next
  dsimp only
  cases plain : isAscii payload with
  | false =>
    rw [if_neg (by simp), request_of_not_ascii _ kind payload _ running plain]
    exact scheduled
  | true =>
    rw [if_pos ⟨running, rfl⟩]
    cases answered : answers workers.chronicled (kind.message payload) link with
    | false =>
      rw [if_neg Bool.false_ne_true]
      exact .anew (served_of_unanswered running plain answered still) rfl
    | true =>
      obtain ⟨readied, reply, last, readying, delivered, ended⟩ :=
        request_of_answers running plain answered
      rcases ready_cases running readying with ⟨-, ready⟩ | ⟨error, failed, -⟩
      · rw [if_pos rfl, ended]
        exact (scheduled.readied sound ready).delivered delivered
      · cases failed

/-- **Every action keeps to the schedule.** -/
theorem perform (scheduled : link.channel.state = .running → OnSchedule schedule link.channel)
    (sound : Sound link.channel) (action : Action)
    (still : (action.perform workers.chronicled link).2.channel.state = .running) :
    OnSchedule (schedule.next workers.chronicled link action)
      (action.perform workers.chronicled link).2.channel := by
  cases action with
  | start =>
    unfold Schedule.next
    dsimp only
    by_cases running : link.channel.state = .running
    · rw [if_pos running, Action.perform, start_of_running running]
      exact scheduled running
    · rw [if_neg running]
      refine .anew ?_ rfl
      rcases ended : start workers.chronicled link with ⟨result, last⟩
      rw [Action.perform, ended] at still ⊢
      rcases start_cases running ended with
        ⟨held, chronicle, -, -, rfl⟩ | ⟨error, chronicle, -, -, rfl⟩
      · rfl
      · exact absurd still running
  | stop =>
    rcases ended : stop workers.chronicled link with ⟨confirmed, last⟩
    rw [Action.perform, ended] at still
    obtain ⟨chronicle, -, rfl⟩ := stop_cases ended
    cases still
  | restart force =>
    unfold Schedule.next
    dsimp only
    rcases ended : restart workers.chronicled force link with ⟨result, last⟩
    rw [Action.perform, ended] at still ⊢
    by_cases running : link.channel.state = .running
    · rw [if_pos running]
      refine .anew ?_ rfl
      cases restarted_of_restart running ended with
      | renewed ending renewed =>
        cases renewed
        rfl
      | abandoned broken abandoned =>
        change last.channel.state = .running at still
        rw [abandoned.state] at still
        cases still
    · rw [restart_of_not_running _ running] at ended
      cases ended
      exact absurd still running
  | request kind payload =>
    by_cases running : link.channel.state = .running
    · exact (scheduled running).request sound running still
    · rw [Action.perform, request_of_not_running _ kind payload _ running] at still
      exact absurd still running

theorem run (scheduled : link.channel.state = .running → OnSchedule schedule link.channel)
    (sound : Sound link.channel) (actions : List Action)
    (still : (Channel.run workers.chronicled actions link).channel.state = .running) :
    OnSchedule (schedule.along workers.chronicled actions link)
      (Channel.run workers.chronicled actions link).channel := by
  induction actions generalizing link schedule with
  | nil => exact scheduled still
  | cons action rest ih =>
    exact ih (perform scheduled sound action) (sound.perform action) still

end OnSchedule

/-! ## What workers get in a restart -/

/-- What workers get when one confirms its end and another one is launched. -/
def recyclingLines : List (Option Bytes) :=
  [some (Frame.write endMessage), none, some (Frame.write startMessage)]

theorem Exchanged.lines {message reply : String} {before last : Chronicle ω}
    {held kept : Held (Nat × ψ)}
    (exchanged : Exchanged workers message before held (.ok reply) kept last) :
    last.lines = before.lines ++ [some (Frame.write message)] := by
  cases exchanged with
  | spoken wrote reading => exact lines_add _ _ _

theorem Delivered.lines {message reply : String}
    (delivered : Delivered workers message link (.ok reply) after) :
    after.world.lines = link.world.lines ++ [some (Frame.write message)] := by
  cases delivered with
  | exchanged holds exchanged => exact exchanged.lines

theorem Greeted.lines {before last : Chronicle ω} {held : Held (Nat × ψ)}
    (greeted : Greeted workers before held last) :
    last.lines = before.lines ++ [none, some (Frame.write startMessage)] := by
  cases greeted with
  | intro wrote reading =>
    rw [launchedInto, lines_add, lines_add, List.append_assoc]
    rfl

theorem lines_of_confirmEnd {held : Held (Nat × ψ)} {before : Chronicle ω}
    (confirmed : (confirmEnd workers.chronicled held before).1 = true) :
    (confirmEnd workers.chronicled held before).2.lines =
      before.lines ++ [some (Frame.write endMessage)] := by
  rcases exchanging : exchange workers.chronicled endMessage held before with ⟨answer, kept, last⟩
  rw [confirmEnd, exchanging] at confirmed ⊢
  cases answer with
  | error fault => cases confirmed
  | ok reply => exact (exchanged_of_exchange exchanging).lines

/-- In a graceful restart the worker gets the end message, and a fresh one the start message. -/
theorem lines_of_restart (link : Link (Chronicle ω) (Nat × ψ)) {held : Held (Nat × ψ)}
    (running : link.channel.state = .running)
    (holds : link.channel.worker = some held)
    (ended : restart workers.chronicled false link = (.ok (), after)) :
    after.world.lines = link.world.lines ++ recyclingLines := by
  rw [restart_graceful _ running holds] at ended
  split at ended
  · next confirmed =>
    have asked := lines_of_confirmEnd confirmed
    rcases replace_cases ended with ⟨-, ⟨greeted⟩⟩ | ⟨error, failed, -⟩
    · rw [greeted.lines, asked, List.append_assoc]
      rfl
    · cases failed
  · cases ended

/-! ## The main statement -/

/-- How a running channel goes on after a number of requests. It was restarted once for every
multiple of the threshold, and the next request restarts it gracefully before its message is sent
exactly if its number is one. -/
structure Recycles (workers : Workers ω ψ) (limit requests before : Nat)
    (link : Link (Chronicle ω) (Nat × ψ)) : Prop where
  restarts : link.channel.restarts = before + requests / limit
  ready : ready workers.chronicled link =
    if limit ∣ requests + 1 then restart workers.chronicled false (counted link)
    else (.ok (), counted link)
  /-- If the request is answered, this is all that workers get. -/
  lines : ∀ kind payload, isAscii payload = true →
    answers workers.chronicled (RequestKind.message kind payload) link = true →
      (request workers.chronicled kind payload link).2.world.lines =
        link.world.lines ++ (if limit ∣ requests + 1 then recyclingLines else []) ++
          [some (Frame.write (kind.message payload))]

theorem OnSchedule.recycles {schedule : Schedule} (scheduled : OnSchedule schedule link.channel)
    (sound : Sound link.channel) (running : link.channel.state = .running) :
    Recycles workers link.channel.recycleAfter schedule.requests schedule.restarts link where
  restarts := scheduled.restarts
  ready := scheduled.ready_eq sound
  lines := by
    intro kind payload plain answered
    obtain ⟨readied, reply, last, readying, delivered, ended⟩ :=
      request_of_answers running plain answered
    rw [ended]
    refine delivered.lines.trans (congrArg (· ++ _) ?_)
    rw [scheduled.ready_eq sound] at readying
    split at readying
    · next divided =>
      obtain ⟨held, holds⟩ := Option.isSome_iff_exists.1 (sound.held_iff.2 running)
      rw [if_pos divided]
      exact lines_of_restart (counted link) running holds readying
    · next undivided =>
      cases readying
      rw [if_neg undivided, List.append_nil]
      rfl

/-- No exchange fails in the course of requests: each one whose payload is ASCII is answered, by a
worker that could be launched if one was due. -/
def Undisturbed (workers : Workers ω ψ) : List (RequestKind × String) → Link ω ψ → Prop
  | [], _ => True
  | (kind, payload) :: rest, link =>
    (isAscii payload = true → answers workers (kind.message payload) link = true) ∧
      Undisturbed workers rest (request workers kind payload link).2

/-- The actions of asking for each of a list. -/
def asking (requests : List (RequestKind × String)) : List Action :=
  requests.map fun request => .request request.1 request.2

/-- A request that is answered counts, and one that is refused does not. -/
theorem Schedule.next_of_answered (running : link.channel.state = .running)
    (answered : isAscii payload = true →
      answers workers.chronicled (kind.message payload) link = true) (schedule : Schedule) :
    (request workers.chronicled kind payload link).2.channel.state = .running ∧
      schedule.next workers.chronicled link (.request kind payload) =
        ⟨schedule.requests + (if isAscii payload then 1 else 0), schedule.restarts⟩ := by
  unfold Schedule.next
  dsimp only
  cases plain : isAscii payload with
  | false =>
    rw [request_of_not_ascii _ kind payload _ running plain]
    exact ⟨running, if_neg (by simp)⟩
  | true =>
    obtain ⟨readied, reply, last, readying, delivered, ended⟩ :=
      request_of_answers running plain (answered plain)
    rw [ended, if_pos ⟨running, rfl⟩, if_pos (answered plain)]
    rcases ready_cases running readying with ⟨-, ready⟩ | ⟨error, failed, -⟩
    · exact ⟨delivered.state.trans (ready.running running), rfl⟩
    · cases failed

/-- Requests without a disturbance each count, but for those that are refused. -/
theorem Undisturbed.along {requests : List (RequestKind × String)}
    (undisturbed : Undisturbed workers.chronicled requests link)
    (running : link.channel.state = .running) (schedule : Schedule) :
    (run workers.chronicled (asking requests) link).channel.state = .running ∧
      schedule.along workers.chronicled (asking requests) link =
        ⟨schedule.requests + requests.countP fun request => isAscii request.2,
          schedule.restarts⟩ := by
  induction requests generalizing link schedule with
  | nil => exact ⟨running, rfl⟩
  | cons request rest ih =>
    obtain ⟨here, later⟩ := undisturbed
    obtain ⟨kept, counts⟩ := schedule.next_of_answered running here
    obtain ⟨still, counting⟩ := ih later kept
      (schedule.next workers.chronicled link (.request request.1 request.2))
    refine ⟨still, counting.trans ?_⟩
    rw [counts, List.countP_cons, Nat.add_comm (List.countP _ rest), ← Nat.add_assoc]

/-- A channel that is started begins a count. -/
theorem OnSchedule.of_start (sound : Sound link.channel) (idle : link.channel.state ≠ .running)
    (begun : start workers.chronicled link = (.ok (), after)) :
    after.channel.state = .running ∧ Sound after.channel ∧
      OnSchedule ⟨0, link.channel.restarts⟩ after.channel := by
  rcases start_cases idle begun with
    ⟨held, chronicle, -, -, rfl⟩ | ⟨error, chronicle, failed, -⟩
  · exact ⟨rfl, ⟨nofun, ⟨fun _ => rfl, fun _ => rfl⟩, fun _ => sound.recycles, sound.recycles⟩,
      .anew rfl rfl⟩
  · cases failed

/-- **When workers are replaced.** After any actions on a fresh channel, whatever its workers do, no
worker got more requests than the threshold says, and a running channel keeps to its schedule. From
a start on, as long as no exchange fails, the requests are numbered without those that are refused.
The chronicle makes no difference to any of this. -/
theorem run_recycles (workers : Workers ω ψ) (command : WorkerCommand) (recycleAfter : Nat)
    (world : ω) (actions : List Action) :
    let limit := max 1 recycleAfter
    let opening : Link (Chronicle ω) (Nat × ψ) := ⟨make command recycleAfter, ⟨world, []⟩⟩
    let link := run workers.chronicled actions opening
    let schedule := Schedule.along workers.chronicled ⟨0, 0⟩ actions opening
    run workers actions ⟨make command recycleAfter, world⟩ = link.plain ∧
      (∀ worker, link.world.requestsTo worker ≤ limit) ∧
      (link.channel.state = .running →
        Recycles workers limit schedule.requests schedule.restarts link) ∧
      ∀ started, link.channel.state ≠ .running →
        start workers.chronicled link = (.ok (), started) →
        ∀ requests, Undisturbed workers.chronicled requests started →
          let last := run workers.chronicled (asking requests) started
          last.channel.state = .running ∧
            Recycles workers limit (requests.countP fun request => isAscii request.2)
              link.channel.restarts last := by
  intro limit opening link schedule
  have fresh : Sound opening.channel := sound_make command recycleAfter
  have sound : Sound link.channel := fresh.run actions
  have threshold : link.channel.recycleAfter = limit := (restarts_run workers actions opening).1
  have rationed : Rationed 1 link :=
    Rationed.run ⟨fun _ => Nat.zero_le _, fun _ _ => rfl, fun _ holds => by cases holds⟩ fresh
      actions
  refine ⟨run_plain workers actions opening, ?_, ?_, ?_⟩
  · rw [← threshold]
    exact rationed.limited
  · intro running
    rw [← threshold]
    exact (OnSchedule.run (fun started => by cases started) fresh actions running).recycles sound
      running
  · intro started idle begun requests undisturbed last
    obtain ⟨running, begins, scheduled⟩ := OnSchedule.of_start sound idle begun
    obtain ⟨still, counting⟩ := undisturbed.along running ⟨0, link.channel.restarts⟩
    have lasting := OnSchedule.run (fun _ => scheduled) begins (asking requests) still
    rw [counting, Nat.zero_add] at lasting
    have kept : last.channel.recycleAfter = limit := by
      have starting := (restarts_perform workers .start link).1
      rw [Action.perform, begun] at starting
      exact ((restarts_run workers (asking requests) started).1.trans starting).trans threshold
    rw [← kept]
    exact ⟨still, lasting.recycles (begins.run (asking requests)) still⟩

/-- Of three requests one is refused, so that it is the third that restarts the channel. -/
theorem run_recycles_refusing :
    let workers := Workers.scripted fun line => (line, false)
    let opening : Link (Chronicle Unit) (Nat × Unit) := ⟨make ⟨"parser", []⟩ 2, ⟨(), []⟩⟩
    let last := run workers.chronicled (asking [(.file, "/1"), (.file, "/é"), (.file, "/2")])
      (start workers.chronicled opening).2
    Recycles workers 2 2 0 last ∧ last.channel.restarts = 1 ∧
      last.world.requestsTo 0 = 1 ∧ last.world.requestsTo 1 = 1 := by
  intro workers opening last
  have undisturbed : Undisturbed workers.chronicled
      [(.file, "/1"), (.file, "/é"), (.file, "/2")] (start workers.chronicled opening).2 := by
    refine ⟨fun _ => ?_, fun plain => absurd plain (by decide), fun _ => ?_, trivial⟩
    · decide +kernel
    · decide +kernel
  obtain ⟨-, -, -, starting⟩ := run_recycles workers ⟨"parser", []⟩ 2 () []
  refine ⟨(starting _ nofun rfl _ undisturbed).2, ?_⟩
  decide +kernel

end Channel

end SourceIndex
