import SourceIndex.Proofs.Parser.Lifecycle

/-!
# Which worker an answer is from

Messages and answers carry no numbers, so an answer belongs to a request only by its place. Workers
that write at most one line for each line that they get (`Workers.AnswersOnce`) leave nothing unread
behind, since a worker is replaced as soon as an answer is missing. Every action keeps it so, and
the worker that a channel holds is the one that was launched last (`Channel.Aligned`).

Main statement: after any actions on a fresh channel, a request sends its message at most once, and
an answer that is not empty is what the worker that the channel holds wrote when it got the message
(`Channel.request_attributed`).
-/

set_option autoImplicit false

namespace SourceIndex

variable {ω ψ : Type}

/-- Workers write at most one line for each line that they get, whatever is in it. -/
def Workers.AnswersOnce (workers : Workers ω ψ) : Prop :=
  ∀ process message world,
    Frame.IsSingle (workers.receive process (Frame.write message) world).1.1

theorem Workers.AnswersOnce.single {workers : Workers ω ψ} (once : workers.AnswersOnce)
    {process : ψ} {message : String} {world after : ω} {output : Bytes} {next : Option ψ}
    (wrote : workers.receive process (Frame.write message) world = ((output, next), after)) :
    Frame.IsSingle output := by
  have here := once process message world
  rwa [wrote] at here

/-- Workers that send the start and the end message back. For any other line they write what they
are told to, and end then if they are. -/
def Workers.scripted (respond : Bytes → Bytes × Bool) : Workers Unit Unit where
  launch _ world := (.ok (), world)
  receive process line world :=
    if line = Frame.write startMessage ∨ line = Frame.write endMessage then
      ((line, some process), world)
    else (((respond line).1, if (respond line).2 then none else some process), world)

theorem Workers.scripted_answersOnce {respond : Bytes → Bytes × Bool}
    (single : ∀ line, Frame.IsSingle (respond line).1) : (scripted respond).AnswersOnce := by
  intro process message world
  have start : Frame.IsSingle (Frame.write startMessage) := by decide
  have ending : Frame.IsSingle (Frame.write endMessage) := by decide
  simp only [scripted]
  split
  · next sentinel =>
    rcases sentinel with same | same
    · exact same ▸ start
    · exact same ▸ ending
  · exact single _

/-- Of a single line nothing stays unread, whatever is read. -/
theorem Frame.IsSingle.readLine_rest {output : Bytes} (single : IsSingle output) (ended : Bool) :
    (Frame.readLine output ended).2 = [] := by
  unfold Frame.readLine
  split
  · next line rest found => exact (single.firstLine? found).2
  · rfl

namespace Channel

variable {workers : Workers ω ψ} {link after : Link (Chronicle ω) (Nat × ψ)}

/-! ## Nothing stays unread -/

/-- Nothing that the worker wrote is unread, and no worker was launched after it. -/
def IsAligned (held : Held (Nat × ψ)) (chronicle : Chronicle ω) : Prop :=
  held.unread = [] ∧
    ∀ process, held.process = some process → process.1 + 1 = chronicle.launches

/-- The worker that a channel holds, if it holds one, has nothing unread and is the last one. -/
def Aligned (link : Link (Chronicle ω) (Nat × ψ)) : Prop :=
  ∀ held, link.channel.worker = some held → IsAligned held link.world

/-- A channel that holds no worker is aligned. -/
theorem aligned_of_absent (absent : link.channel.worker = none) : Aligned link := by
  intro held holds
  rw [absent] at holds
  cases holds

/-- Nobody is launched by an answer. -/
theorem launches_add_answered (chronicle : Chronicle ω) (worker : Nat) (line output : Bytes)
    (ended : Bool) (world : ω) :
    (chronicle.add (.answered worker line output ended) world).launches = chronicle.launches := by
  rw [Chronicle.launches, Chronicle.countP_add]
  rfl

theorem Exchanged.aligned {message : String} {before after : Chronicle ω}
    {held kept : Held (Nat × ψ)} {answer : Except Frame.Fault String}
    (once : workers.AnswersOnce)
    (exchanged : Exchanged workers message before held answer kept after)
    (aligned : IsAligned held before) : IsAligned kept after := by
  cases exchanged with
  | silent => exact aligned
  | @spoken number process unread output rest next world answer wrote reading =>
    obtain ⟨nothing, last⟩ := aligned
    have single := once.single wrote
    dsimp only at nothing
    rw [nothing, List.nil_append] at reading
    refine ⟨(congrArg Prod.snd reading).symm.trans (single.readLine_rest _), ?_⟩
    intro left kept
    obtain ⟨later, -, rfl⟩ := Option.map_eq_some_iff.1 kept
    rw [launches_add_answered]
    exact last (number, process) rfl

theorem Greeted.aligned {before after : Chronicle ω} {held : Held (Nat × ψ)}
    (once : workers.AnswersOnce) (greeted : Greeted workers before held after) :
    IsAligned held after := by
  refine ⟨?_, fun process running => by rw [greeted.number running, greeted.launches]⟩
  cases greeted with
  | intro wrote reading =>
    exact (congrArg Prod.snd reading).symm.trans ((once.single wrote).readLine_rest _)

theorem Renewed.aligned (once : workers.AnswersOnce) (renewed : Renewed workers link after) :
    Aligned after := by
  cases renewed with
  | intro greeted =>
    rintro held same
    cases same
    exact greeted.aligned once

theorem Abandoned.aligned (abandoned : Abandoned link after) : Aligned after := by
  cases abandoned with
  | intro adds => exact aligned_of_absent rfl

theorem Restarted.aligned {result : Except ParserError Unit} (once : workers.AnswersOnce)
    (restarted : Restarted workers link result after) : Aligned after := by
  cases restarted with
  | renewed ending renewed => exact renewed.aligned once
  | abandoned broken abandoned => exact abandoned.aligned

theorem Readied.aligned (once : workers.AnswersOnce) (readied : Readied workers link after)
    (aligned : Aligned link) : Aligned after := by
  cases readied with
  | spare below => exact aligned
  | recycled due restarted => exact restarted.aligned once

theorem Delivered.aligned {message : String} {answer : Except Frame.Fault String}
    (once : workers.AnswersOnce) (delivered : Delivered workers message link answer after)
    (aligned : Aligned link) : Aligned after := by
  cases delivered with
  | missing absent => exact aligned
  | exchanged holds exchanged =>
    rintro held same
    cases same
    exact exchanged.aligned once (aligned _ holds)

/-- **Every action leaves nothing unread.** -/
theorem Aligned.perform (once : workers.AnswersOnce) (sound : Sound link.channel)
    (aligned : Aligned link) (action : Action) :
    Aligned (action.perform workers.chronicled link).2 := by
  rcases ended : action.perform workers.chronicled link with ⟨reply, after⟩
  cases performed_of_perform ended with
  | idle => exact aligned
  | started idle greeted =>
    rintro held same
    cases same
    exact greeted.aligned once
  | unstarted idle adds =>
    -- A worker that was launched in vain came after none that is still held.
    intro held holds
    exact absurd (sound.held_iff.1 (Option.isSome_of_eq_some holds)) idle
  | stopped adds => exact aligned_of_absent rfl
  | restarted running restarted => exact restarted.aligned once
  | requested running requested =>
    cases requested with
    | unready due broken abandoned => exact abandoned.aligned
    | answered readied delivered => exact delivered.aligned once (readied.aligned once aligned)
    | renewed readied delivered renewed => exact renewed.aligned once
    | abandoned readied delivered broken abandoned => exact abandoned.aligned

theorem Aligned.run (once : workers.AnswersOnce) (sound : Sound link.channel)
    (aligned : Aligned link) (actions : List Action) :
    Aligned (run workers.chronicled actions link) := by
  induction actions generalizing link with
  | nil => exact aligned
  | cons action rest ih => exact ih (sound.perform action) (aligned.perform once sound action)

/-! ## What a request sends -/

theorem Abandoned.adds (abandoned : Abandoned link after) :
    link.world.Adds WorkerEvent.IsUpkeep after.world := by
  cases abandoned with
  | intro adds => exact adds.mono fun _ => And.left

theorem Renewed.adds (renewed : Renewed workers link after) :
    link.world.Adds WorkerEvent.IsUpkeep after.world := by
  cases renewed with
  | intro greeted => exact greeted.adds

theorem Readied.adds (readied : Readied workers link after) :
    link.world.Adds WorkerEvent.IsUpkeep after.world := by
  cases readied with
  | spare below => exact .refl _ _
  | recycled due restarted =>
    cases restarted with
    | renewed ending renewed =>
      exact (ending.mono fun _ isEnd => isEnd.isFruitless.1).trans renewed.adds

/-- A message of a request is sent to one worker at most. -/
theorem Delivered.deliveries {message : String} {answer : Except Frame.Fault String}
    (delivered : Delivered workers message link answer after) :
    after.world.deliveries (Frame.write message) ≤
      link.world.deliveries (Frame.write message) + 1 := by
  cases delivered with
  | missing absent => exact Nat.le_succ _
  | exchanged holds exchanged =>
    cases exchanged with
    | silent => exact Nat.le_succ _
    | spoken wrote reading =>
      rw [Chronicle.deliveries, Chronicle.countP_add]
      refine Nat.add_le_add_left ?_ _
      split
      · exact Nat.le_refl 1
      · exact Nat.zero_le 1

theorem deliveries_of_adds (kind : RequestKind) (payload : String) {before after : Chronicle ω}
    (adds : before.Adds WorkerEvent.IsUpkeep after) :
    after.deliveries (Frame.write (kind.message payload)) =
      before.deliveries (Frame.write (kind.message payload)) :=
  (adds.mono fun _ upkeep => upkeep.hasLine_message kind payload).countP

/-- A request sends its message once at most. -/
theorem Requested.deliveries {kind : RequestKind} {payload : String}
    {result : Except ParserError String}
    (requested : Requested workers (kind.message payload) link result after) :
    after.world.deliveries (Frame.write (kind.message payload)) ≤
      link.world.deliveries (Frame.write (kind.message payload)) + 1 := by
  cases requested with
  | unready due broken abandoned =>
    have unsent := deliveries_of_adds kind payload abandoned.adds
    exact Nat.le_succ_of_le (Nat.le_of_eq unsent)
  | answered readied delivered =>
    rw [← deliveries_of_adds kind payload readied.adds]
    exact delivered.deliveries
  | renewed readied delivered renewed =>
    rw [← deliveries_of_adds kind payload readied.adds,
      deliveries_of_adds kind payload renewed.adds]
    exact delivered.deliveries
  | abandoned readied delivered broken abandoned =>
    rw [← deliveries_of_adds kind payload readied.adds,
      deliveries_of_adds kind payload abandoned.adds]
    exact delivered.deliveries

/-! ## The main statement -/

/-- An answer is what the worker that a channel holds wrote for a message. No worker was launched
after that one. From `before` on there was nothing but upkeep, then the worker got the message, and
what it wrote is the answer as a line. -/
inductive Attributed (message reply : String) (before : Chronicle ω)
    (after : Link (Chronicle ω) (Nat × ψ)) : Prop where
  | intro {held : Held (Nat × ψ)} {number : Nat} {output bytes : Bytes} {ended : Bool}
      {upkeep : List WorkerEvent} (holds : after.channel.worker = some held)
      (nothingUnread : held.unread = [])
      (numbered : ∀ process, held.process = some process → process.1 = number)
      (newest : number + 1 = after.world.launches)
      (events : after.world.events =
        before.events ++ upkeep ++ [.answered number (Frame.write message) output ended])
      (isUpkeep : ∀ event ∈ upkeep, event.IsUpkeep)
      (decoded : Base64.decode (Frame.trim output) = .ok bytes)
      (characters : Utf8.decode bytes = .ok reply.toList) :
      Attributed message reply before after

theorem Requested.attributed {message reply : String} (once : workers.AnswersOnce)
    (aligned : Aligned link) (requested : Requested workers message link (.ok reply) after)
    (told : reply ≠ "") : Attributed message reply link.world after := by
  cases requested with
  | renewed readied delivered renewed => exact absurd rfl told
  | @answered between _ _ readied delivered =>
    obtain ⟨upkeep, grown, all⟩ := readied.adds
    have ready := readied.aligned once aligned
    have last := delivered.aligned once ready
    cases delivered with
    | exchanged holds exchanged =>
      cases exchanged with
      | @spoken number process unread output rest next world answer wrote reading =>
        obtain ⟨nothing, newest⟩ := ready _ holds
        dsimp only at nothing
        rw [nothing, List.nil_append] at reading
        obtain ⟨read, -⟩ := (once.single wrote).readLine reading
        obtain ⟨bytes, decoded, characters⟩ := Frame.read_eq_ok_iff.1 read
        have events : (between.world.add
            (.answered number (Frame.write message) output next.isNone) world).events =
            link.world.events ++ upkeep ++
              [.answered number (Frame.write message) output next.isNone] := by
          rw [Chronicle.add, grown]
        refine .intro rfl (last _ rfl).1 ?_ ?_ events all decoded characters
        · intro left kept
          obtain ⟨later, -, rfl⟩ := Option.map_eq_some_iff.1 kept
          rfl
        · rw [launches_add_answered]
          exact newest (number, process) rfl

/-- **An answer is from the worker that was asked.** After any actions on a fresh channel whose
workers write at most one line for each line, a request sends its message to one worker at most, and
an answer that is not empty is what the worker that the channel holds wrote for this very message.
The chronicle makes no difference to any of this. -/
theorem request_attributed (workers : Workers ω ψ) (once : workers.AnswersOnce)
    (command : WorkerCommand) (recycleAfter : Nat) (world : ω) (actions : List Action)
    (kind : RequestKind) (payload : String) :
    let link := run workers.chronicled actions ⟨make command recycleAfter, ⟨world, []⟩⟩
    let asked := request workers.chronicled kind payload link
    request workers kind payload (run workers actions ⟨make command recycleAfter, world⟩) =
        (asked.1, asked.2.plain) ∧
      asked.2.world.deliveries (Frame.write (kind.message payload)) ≤
        link.world.deliveries (Frame.write (kind.message payload)) + 1 ∧
      ∀ reply, asked.1 = .ok reply → reply ≠ "" →
        Attributed (kind.message payload) reply link.world asked.2 := by
  intro link asked
  have aligned : Aligned link :=
    Aligned.run once (sound_make command recycleAfter) (aligned_of_absent rfl) actions
  have plainly : request workers kind payload (run workers actions
      ⟨make command recycleAfter, world⟩) = (asked.1, asked.2.plain) := by
    have same := run_plain workers actions ⟨make command recycleAfter, ⟨world, []⟩⟩
    exact (congrArg (request workers kind payload) same).trans
      (request_plain workers kind payload link)
  refine ⟨plainly, ?_⟩
  rcases ended : asked with ⟨result, after⟩
  rcases request_cases ended with ⟨-, rfl, rfl⟩ | ⟨-, rfl, rfl⟩ | ⟨running, requested⟩
  · exact ⟨Nat.le_succ _, nofun⟩
  · exact ⟨Nat.le_succ _, nofun⟩
  · refine ⟨requested.deliveries, ?_⟩
    rintro reply rfl told
    exact requested.attributed once aligned told

/-- The worker is replaced twice before it answers, once for an answer that cannot be read. -/
theorem request_attributed_garbled :
    let workers := Workers.scripted fun line =>
      (if line = Frame.write (RequestKind.file.message "/a") then [64, Frame.lineFeed]
        else Frame.write "\x7b\x7d", false)
    let link := run workers.chronicled
      [.start, .request .file "/a", .request .file "/b"] ⟨make ⟨"parser", []⟩ 2, ⟨(), []⟩⟩
    let asked := request workers.chronicled .file "/c" link
    workers.AnswersOnce ∧ asked.1 = .ok "\x7b\x7d" ∧ asked.2.channel.restarts = 2 ∧
      Attributed (RequestKind.file.message "/c") "\x7b\x7d" link.world asked.2 := by
  intro workers link asked
  have once : workers.AnswersOnce := by
    refine Workers.scripted_answersOnce fun line => ?_
    dsimp only
    split
    · decide
    · decide
  have told : asked.1 = .ok "\x7b\x7d" := by rfl
  have attributed := request_attributed workers once ⟨"parser", []⟩ 2 ()
    [.start, .request .file "/a", .request .file "/b"] .file "/c"
  exact ⟨once, told, rfl, attributed.2.2 _ told (by decide)⟩

end Channel

end SourceIndex
