import SourceIndex.Host.Client

/-!
# The journal of a client

What a client does over a network can be told from a journal that is kept beside the network: every
request with what became of it and the time on the clock afterwards, and every wait
(`Network.journaled`). The journal makes no difference to the client.

The client takes turns at a request. A turn leaves in the journal the wait before it, unless it is
the first one, the request, and the wait that the answer asks for (`Pass.deeds`). What a request
would meet if it were sent again and again is a sequence of turns, which the network determines
(`Client.turnAt`). A turn leaves its request open if it fails and the client does not stop
(`Turn.isOpen`). Main statements: a request takes the turns of this sequence up to the first one that
does not leave it open, as far as the limit allows, and no others (`Client.get_journaled`), and a
lookup takes turns at the URLs of its three requests only (`Client.resolve_journaled`).
-/

set_option autoImplicit false

namespace SourceIndex.Host

variable {ν α : Type}

/-! ## Journals -/

/-- What a client did over a network. -/
inductive Deed where
  /-- A request was sent, and this was the time afterwards. -/
  | sent (request : Request) (delivery : Delivery) (time : Int)
  | waited (seconds : Nat)
deriving DecidableEq, Repr

/-- A network's state, and what was done over the network so far. -/
structure Journal (ν : Type) where
  world : ν
  deeds : List Deed

/-- What a pause leaves in a journal. -/
def Pause.deeds : Pause → List Deed
  | .wait seconds => [.waited seconds]
  | .none | .stop => []

theorem Pause.isStop_iff {pause : Pause} : pause.isStop = true ↔ pause = .stop := by
  cases pause <;> simp [isStop]

/-- Adds a deed after which the world is another one. -/
def Journal.add (journal : Journal ν) (deed : Deed) (world : ν) : Journal ν :=
  ⟨world, journal.deeds ++ [deed]⟩

/-- The same network with a journal. -/
def Network.journaled (network : Network ν) : Network (Journal ν) where
  send request journal :=
    match network.send request journal.world with
    | (delivery, world) =>
      (delivery, journal.add (.sent request delivery (network.now world)) world)
  now journal := network.now journal.world
  wait seconds journal := journal.add (.waited seconds) (network.wait seconds journal.world)

/-! ## Turns -/

/-- What came of one turn at a request. -/
inductive Turn where
  /-- No request could be made of the URL. -/
  | unmade (chain : Chain)
  | made (request : Request) (delivery : Delivery) (time : Int)
deriving DecidableEq, Repr

namespace Turn

/-- The pause that the answer asks for. -/
def pause (client : Client) (url : String) : Turn → Pause
  | .made _ (.answered response) time => client.pause url response.headers time
  | .made _ (.lost _) _ | .unmade _ => .none

/-- The client stops after the answer. -/
def stops (client : Client) (url : String) (turn : Turn) : Bool :=
  (turn.pause client url).isStop

/-- The request got no answer, or one that says that the service failed. -/
def fails : Turn → Bool
  | .unmade _ | .made _ (.lost _) _ => true
  | .made _ (.answered response) _ => Status.isServerError response.status

/-- The request may be sent again. -/
def isOpen (client : Client) (url : String) (turn : Turn) : Bool :=
  turn.fails && !turn.stops client url

/-- What the request got means for it, if the client goes on. -/
def verdict (decode : Answer → Option α) (url : String) : Turn → Client.Attempt α
  | .unmade chain => .failed chain
  | .made request (.lost reasons) _ =>
    .failed (("error sending request for url (" ++ request.url.text ++ ")") :: reasons)
  | .made _ (.answered response) _ => Client.judge decode url response

/-- What a turn means for its request. -/
def outcome (client : Client) (decode : Answer → Option α) (url : String) (turn : Turn) :
    Client.Attempt α :=
  match turn.stops client url with
  | true => .stopped
  | false => turn.verdict decode url

/-- How a request ends whose last turn this is. -/
def ending (client : Client) (decode : Answer → Option α) (url : String) (turn : Turn) :
    Ending (Except Chain (Option α)) :=
  match turn.outcome client decode url with
  | .settled result => .returned result
  | .failed chain => .returned (.error chain)
  | .stopped => .stopped

/-- What a turn leaves in the journal. -/
def deeds (client : Client) (url : String) (turn : Turn) : List Deed :=
  match turn with
  | .unmade _ => []
  | .made request delivery time => .sent request delivery time :: (turn.pause client url).deeds

/-- The turn is taken with the request of the URL, or there is no such request. -/
def Asks (client : Client) (url : String) : Turn → Prop
  | .unmade chain => client.request url = .error chain
  | .made request _ _ => client.request url = .ok request

variable {client : Client} {decode : Answer → Option α} {url : String} {turn : Turn}

/-- The client stops after an answer exactly if the answer asks for it. -/
theorem stops_iff {request : Request} {response : Response} {time : Int} :
    stops client url (.made request (.answered response) time) = true ↔
      client.pause url response.headers time = .stop :=
  Pause.isStop_iff

theorem goesOn_iff {request : Request} {response : Response} {time : Int} :
    stops client url (.made request (.answered response) time) = false ↔
      client.pause url response.headers time ≠ .stop := by
  rw [← Bool.not_eq_true, stops_iff]

/-- Of the answers only one that says that the service failed leaves the request unsettled. -/
theorem isFailed_judge_iff (response : Response) :
    (∃ chain, Client.judge decode url response = .failed chain) ↔
      Status.isServerError response.status = true := by
  unfold Client.judge
  dsimp only
  split
  · next success =>
    refine iff_of_false nofun fun failed => ?_
    simp only [Status.isSuccess, Status.isServerError, Bool.and_eq_true, decide_eq_true_eq]
      at success failed
    omega
  · split
    · next missing =>
      refine iff_of_false nofun fun failed => ?_
      simp only [Status.isMissing, Status.isServerError, Bool.and_eq_true, decide_eq_true_eq,
        beq_iff_eq] at missing failed
      omega
    · split
      · next failed => exact iff_of_true ⟨_, rfl⟩ failed
      · next other => exact iff_of_false nofun other

/-- What a request got leaves it unsettled exactly if the turn fails. -/
theorem isFailed_verdict_iff :
    (∃ chain, turn.verdict decode url = .failed chain) ↔ turn.fails = true := by
  cases turn with
  | unmade chain => exact iff_of_true ⟨chain, rfl⟩ rfl
  | made request delivery time =>
    cases delivery with
    | lost reasons => exact iff_of_true ⟨_, rfl⟩ rfl
    | answered response => exact isFailed_judge_iff response

/-- Only a turn that leaves its request open has a failure that is not final. -/
theorem isFailed_outcome_iff :
    (∃ chain, turn.outcome client decode url = .failed chain) ↔
      turn.isOpen client url = true := by
  rw [outcome, isOpen]
  cases turn.stops client url with
  | true => simp
  | false => simpa using isFailed_verdict_iff

end Turn

/-- A turn is the last one that is taken: it is the first one that does not leave its request open,
or no more are allowed after it. -/
structure IsLast (isOpen : Nat → Bool) (limit last : Nat) : Prop where
  bounded : last ≤ limit
  earlier : ∀ turn < last, isOpen turn = true
  ended : last = limit ∨ isOpen last = false

theorem IsLast.unique {isOpen : Nat → Bool} {limit last other : Nat}
    (isLast : IsLast isOpen limit last) (otherIs : IsLast isOpen limit other) : last = other := by
  have noLess {first second : Nat} (isFirst : IsLast isOpen limit first)
      (isSecond : IsLast isOpen limit second) : ¬first < second := fun less => by
    rcases isFirst.ended with rfl | settled
    · exact absurd isSecond.bounded (Nat.not_le.2 less)
    · rw [isSecond.earlier first less] at settled
      cases settled
  exact Nat.le_antisymm (Nat.not_lt.1 (noLess otherIs isLast))
    (Nat.not_lt.1 (noLess isLast otherIs))

/-- One turn at a request, which was sent a number of times before. -/
structure Pass where
  url : String
  sent : Nat
  turn : Turn
deriving DecidableEq, Repr

/-- What a pass leaves in the journal. A request that was sent before is not sent again without a
wait. -/
def Pass.deeds (client : Client) (pass : Pass) : List Deed :=
  (if pass.sent = 0 then [] else [.waited (Client.backoff pass.sent)]) ++
    pass.turn.deeds client pass.url

namespace Client

/-- Waits if there is something to wait for. -/
def rest (network : Network ν) : Pause → ν → ν
  | .wait seconds, state => network.wait seconds state
  | .none, state | .stop, state => state

/-- Takes a turn at a request. -/
def take (network : Network ν) (client : Client) (url : String) (state : ν) : Turn × ν :=
  match client.request url with
  | .error chain => (.unmade chain, state)
  | .ok request =>
    let delivered := network.send request state
    (.made request delivered.1 (network.now delivered.2), delivered.2)

/-- Takes a turn at a request that was sent a number of times before, with the waits around it. -/
def pass (network : Network ν) (client : Client) (url : String) (sent : Nat) (state : ν) :
    Turn × ν :=
  let ready := if sent = 0 then state else network.wait (backoff sent) state
  let taken := take network client url ready
  (taken.1, rest network (taken.1.pause client url) taken.2)

/-- The state after a number of turns at a request, whatever came of them. -/
def stateAt (network : Network ν) (client : Client) (url : String) (state : ν) : Nat → ν
  | 0 => state
  | sent + 1 => (pass network client url sent (stateAt network client url state sent)).2

/-- What would come of a request if it were sent again and again. -/
def turnAt (network : Network ν) (client : Client) (url : String) (state : ν) (sent : Nat) : Turn :=
  (pass network client url sent (stateAt network client url state sent)).1

/-- The turns that would leave the request open. -/
def openAt (network : Network ν) (client : Client) (url : String) (state : ν) (sent : Nat) : Bool :=
  (turnAt network client url state sent).isOpen client url

section

variable (network : Network ν) (client : Client) (decode : Answer → Option α)
variable (url : String)

theorem attempt_eq (state : ν) :
    attempt network client decode url state =
      ((take network client url state).1.outcome client decode url,
        rest network ((take network client url state).1.pause client url)
          (take network client url state).2) := by
  unfold attempt take
  cases client.request url with
  | error chain => rfl
  | ok request =>
    dsimp only
    rcases network.send request state with ⟨response | reasons, after⟩
    · dsimp only [Turn.outcome, Turn.stops, Turn.pause, Turn.verdict]
      cases client.pause url response.headers (network.now after) <;> rfl
    · rfl

theorem attempts_succ (sent : Nat) (failure : Chain) (left : Nat) (state : ν) :
    attempts network client decode url sent failure (left + 1) state =
      match (pass network client url sent state).1.outcome client decode url with
      | .settled result => (.returned result, (pass network client url sent state).2)
      | .failed chain =>
        attempts network client decode url (sent + 1) chain left
          (pass network client url sent state).2
      | .stopped => (.stopped, (pass network client url sent state).2) := by
  rw [attempts, attempt_eq, pass]
  dsimp only
  cases (take network client url _).1.outcome client decode url <;> rfl

/-- A turn that does not leave the request open is the last one. -/
theorem attempts_succ_of_closed {sent : Nat} {state : ν}
    (closed : (pass network client url sent state).1.isOpen client url = false) (failure : Chain)
    (left : Nat) :
    attempts network client decode url sent failure (left + 1) state =
      ((pass network client url sent state).1.ending client decode url,
        (pass network client url sent state).2) := by
  rw [attempts_succ, Turn.ending]
  cases meant : (pass network client url sent state).1.outcome client decode url with
  | settled result => rfl
  | failed chain =>
    have isOpen := Turn.isFailed_outcome_iff.1 ⟨chain, meant⟩
    rw [closed] at isOpen
    cases isOpen
  | stopped => rfl

/-- Of the turns that are allowed, those up to the first one that does not leave the request open are
taken, and the last one decides. -/
theorem attempts_eq (state : ν) (left sent : Nat) (failure : Chain) :
    ∃ last, IsLast (fun turn => openAt network client url state (sent + turn)) left last ∧
      attempts network client decode url sent failure (left + 1)
          (stateAt network client url state sent) =
        ((turnAt network client url state (sent + last)).ending client decode url,
          stateAt network client url state (sent + last + 1)) := by
  induction left generalizing sent failure with
  | zero =>
    refine ⟨0, ⟨Nat.le_refl 0, nofun, .inl rfl⟩, ?_⟩
    rw [attempts_succ, ← turnAt, ← stateAt, Turn.ending]
    cases (turnAt network client url state (sent + 0)).outcome client decode url <;> rfl
  | succ left ih =>
    cases fate : openAt network client url state sent with
    | false =>
      exact ⟨0, ⟨Nat.zero_le _, nofun, .inr fate⟩,
        attempts_succ_of_closed network client decode url fate failure (left + 1)⟩
    | true =>
      obtain ⟨chain, failed⟩ :
          ∃ chain, (turnAt network client url state sent).outcome client decode url =
            .failed chain := Turn.isFailed_outcome_iff.2 fate
      obtain ⟨last, isLast, goesOn⟩ := ih (sent + 1) chain
      have shift : ∀ turn, sent + (turn + 1) = sent + 1 + turn := fun turn => by omega
      refine ⟨last + 1, ⟨Nat.succ_le_succ isLast.bounded, ?_, ?_⟩, ?_⟩
      · rintro (_ | turn) early
        · exact fate
        · rw [shift]
          exact isLast.earlier turn (Nat.lt_of_succ_lt_succ early)
      · rw [shift]
        exact isLast.ended.imp (congrArg (· + 1)) id
      · rw [attempts_succ, ← turnAt, ← stateAt, failed]
        dsimp only
        rw [shift last]
        exact goesOn

/-- **A request takes the turns up to the first one that does not leave it open**, as far as the
limit allows, and the last of them decides. -/
theorem get_eq (state : ν) :
    ∃ last, IsLast (openAt network client url state) client.settings.maxRetries last ∧
      get network client decode url state =
        ((turnAt network client url state last).ending client decode url,
          stateAt network client url state (last + 1)) := by
  obtain ⟨last, isLast, course⟩ := attempts_eq network client decode url state
    client.settings.maxRetries 0 ["GitHub request failed after retries"]
  simp only [Nat.zero_add] at isLast course
  exact ⟨last, isLast, course⟩

end

/-! ## Without the journal -/

section

variable (network : Network ν) (client : Client) (url : String) (journal : Journal ν)

theorem take_plain :
    (take network.journaled client url journal).map id Journal.world =
      take network client url journal.world := by
  unfold take
  cases client.request url <;> rfl

theorem rest_plain (pause : Pause) :
    (rest network.journaled pause journal).world = rest network pause journal.world := by
  cases pause <;> rfl

theorem pass_plain (sent : Nat) :
    (pass network.journaled client url sent journal).map id Journal.world =
      pass network client url sent journal.world := by
  have ready : (if sent = 0 then journal else network.journaled.wait (backoff sent) journal).world =
      if sent = 0 then journal.world else network.wait (backoff sent) journal.world := by
    split <;> rfl
  unfold pass
  dsimp only
  rw [← ready, ← take_plain]
  generalize take network.journaled client url _ = taken
  exact congrArg (Prod.mk taken.1) (rest_plain network taken.2 _)

theorem stateAt_plain (sent : Nat) :
    (stateAt network.journaled client url journal sent).world =
      stateAt network client url journal.world sent := by
  induction sent with
  | zero => rfl
  | succ sent ih =>
    rw [stateAt, stateAt, ← ih]
    exact congrArg Prod.snd (pass_plain network client url _ sent)

theorem turnAt_plain (sent : Nat) :
    turnAt network.journaled client url journal sent =
      turnAt network client url journal.world sent := by
  rw [turnAt, turnAt, ← stateAt_plain]
  exact congrArg Prod.fst (pass_plain network client url _ sent)

theorem openAt_plain :
    openAt network.journaled client url journal = openAt network client url journal.world := by
  funext sent
  rw [openAt, openAt, turnAt_plain]

end

/-! ## What is in the journal -/

section

variable (network : Network ν) (client : Client)

/-- The turns that a request takes if it is sent a number of times, whatever comes of it. -/
def passes (url : String) (state : ν) (count : Nat) : List Pass :=
  (List.range count).map fun sent => ⟨url, sent, turnAt network client url state sent⟩

variable (url : String) (journal : Journal ν)

theorem deeds_take :
    (take network.journaled client url journal).2.deeds =
      journal.deeds ++ match (take network.journaled client url journal).1 with
        | .unmade _ => []
        | .made request delivery time => [.sent request delivery time] := by
  unfold take
  cases client.request url with
  | error chain => exact (List.append_nil _).symm
  | ok request => rfl

theorem deeds_rest (pause : Pause) :
    (rest network.journaled pause journal).deeds = journal.deeds ++ pause.deeds := by
  cases pause with
  | wait seconds => rfl
  | none | stop => exact (List.append_nil _).symm

theorem deeds_pass (sent : Nat) :
    (pass network.journaled client url sent journal).2.deeds = journal.deeds ++
      Pass.deeds client ⟨url, sent, (pass network.journaled client url sent journal).1⟩ := by
  have ready : (if sent = 0 then journal else
      network.journaled.wait (backoff sent) journal).deeds = journal.deeds ++
        if sent = 0 then [] else [.waited (backoff sent)] := by
    split
    · exact (List.append_nil _).symm
    · rfl
  rw [pass, deeds_rest, deeds_take, ready, Pass.deeds, List.append_assoc, List.append_assoc]
  congr 2
  cases (take network.journaled client url _).1 with
  | unmade chain => rfl
  | made request delivery time => rfl

/-- After a number of turns the journal holds these turns. -/
theorem deeds_stateAt (count : Nat) :
    (stateAt network.journaled client url journal count).deeds = journal.deeds ++
      (passes network client url journal.world count).flatMap (Pass.deeds client) := by
  induction count with
  | zero => exact (List.append_nil _).symm
  | succ count ih =>
    rw [stateAt, deeds_pass, ih, ← turnAt, turnAt_plain, passes, passes, List.range_succ]
    simp

/-- A turn is taken with the request of the URL, if there is one. -/
theorem request_of_turnAt (state : ν) (sent : Nat) :
    (turnAt network client url state sent).Asks client url := by
  rw [turnAt, pass, take]
  dsimp only
  cases asked : client.request url with
  | error chain => exact asked
  | ok request => exact asked

/-- **A request takes the turns up to the first one that does not leave it open**, as far as the
limit allows; these and no others are in the journal, and the last of them decides. -/
theorem get_journaled (decode : Answer → Option α) :
    ∃ last, IsLast (openAt network client url journal.world) client.settings.maxRetries last ∧
      get network.journaled client decode url journal =
        ((turnAt network client url journal.world last).ending client decode url,
          ⟨stateAt network client url journal.world (last + 1), journal.deeds ++
            (passes network client url journal.world (last + 1)).flatMap (Pass.deeds client)⟩) := by
  obtain ⟨last, isLast, got⟩ := get_eq network.journaled client decode url journal
  rw [openAt_plain] at isLast
  refine ⟨last, isLast, got.trans ?_⟩
  rw [turnAt_plain, ← stateAt_plain, ← deeds_stateAt]

/-- **A request ends the same way without a journal.** -/
theorem get_plain (decode : Answer → Option α) :
    (get network.journaled client decode url journal).map id Journal.world =
      get network client decode url journal.world := by
  obtain ⟨last, isLast, got⟩ := get_journaled network client url journal decode
  obtain ⟨other, otherIs, plain⟩ := get_eq network client decode url journal.world
  rw [got, plain, isLast.unique otherIs]
  rfl

end

/-! ## The journal of a lookup -/

/-- A request of a lookup. -/
inductive Step where
  | repository
  | branch (name : String)
  | tree (head : String)
deriving DecidableEq, Repr

/-- The URL of a request, after the one of the repository. -/
def Step.url (repositoryUrl : String) : Step → String
  | .repository => repositoryUrl
  | .branch name => repositoryUrl ++ "/branches/" ++ name
  | .tree head => repositoryUrl ++ "/git/trees/" ++ head ++ "?recursive=1"

/-- The URL is the one of a request when an address is looked up. -/
def IsStepUrl (settings : HostSettings) (address url : String) : Prop :=
  ∃ base step, repositoryUrl? settings address = some base ∧ url = Step.url base step

/-- Nothing but turns at some URLs was added to a journal. -/
def Goes (client : Client) (allowed : String → Prop) (before after : Journal ν) : Prop :=
  ∃ taken : List Pass,
    after.deeds = before.deeds ++ taken.flatMap (Pass.deeds client) ∧
      ∀ pass ∈ taken, allowed pass.url ∧ pass.turn.Asks client pass.url

namespace Goes

variable {client : Client} {allowed : String → Prop} {before between after : Journal ν}

theorem refl (journal : Journal ν) : Goes client allowed journal journal :=
  ⟨[], (List.append_nil _).symm, nofun⟩

theorem trans (first : Goes client allowed before between)
    (second : Goes client allowed between after) : Goes client allowed before after := by
  obtain ⟨earlier, earlierDeeds, earlierAllowed⟩ := first
  obtain ⟨later, laterDeeds, laterAllowed⟩ := second
  refine ⟨earlier ++ later, ?_, ?_⟩
  · rw [laterDeeds, earlierDeeds, List.append_assoc, List.flatMap_append]
  · exact List.forall_mem_append.2 ⟨earlierAllowed, laterAllowed⟩

end Goes

section

variable (network : Network ν) (client : Client) {allowed : String → Prop}

/-- A request takes turns at its URL only. -/
theorem goes_of_get {decode : Answer → Option α} {url : String}
    {ending : Ending (Except Chain (Option α))} {journal after : Journal ν} (allows : allowed url)
    (got : get network.journaled client decode url journal = (ending, after)) :
    Goes client allowed journal after := by
  obtain ⟨last, -, course⟩ := get_journaled network client url journal decode
  rw [course] at got
  cases got
  refine ⟨_, rfl, fun pass taken => ?_⟩
  obtain ⟨sent, -, rfl⟩ := List.mem_map.1 taken
  exact ⟨allows, request_of_turnAt network client url journal.world sent⟩

theorem goes_resolveTree {projectId base head : String} (repository : Repository)
    (allows : allowed (Step.url base (.tree head))) (journal : Journal ν) :
    Goes client allowed journal
      (resolveTree network.journaled client projectId base head repository journal).2 := by
  unfold resolveTree
  dsimp only
  split
  · next got => exact goes_of_get network client allows got
  · next got => exact goes_of_get network client allows got
  · next got => exact goes_of_get network client allows got
  · next got => exact goes_of_get network client allows got

theorem goes_resolveBranch {projectId base : String} (repository : Repository)
    (allows : ∀ step, allowed (Step.url base step)) (journal : Journal ν) :
    Goes client allowed journal
      (resolveBranch network.journaled client projectId base repository journal).2 := by
  have allowsBranch := allows (.branch repository.defaultBranch)
  unfold resolveBranch
  dsimp only
  split
  · next got => exact goes_of_get network client allowsBranch got
  · next got => exact goes_of_get network client allowsBranch got
  · next got => exact goes_of_get network client allowsBranch got
  · next head after got =>
    exact (goes_of_get network client allowsBranch got).trans
      (goes_resolveTree network client repository (allows (.tree head)) after)

/-- **A lookup takes turns at the URLs of its requests only.** -/
theorem resolve_journaled (address : String) (journal : Journal ν) :
    Goes client (IsStepUrl client.settings address) journal
      (resolve network.journaled client address journal).2 := by
  unfold resolve
  split
  · next projectId base spelled located =>
    have allows (step : Step) : IsStepUrl client.settings address (Step.url base step) :=
      ⟨base, step, located, rfl⟩
    split
    · next got => exact goes_of_get network client (allows .repository) got
    · next got => exact goes_of_get network client (allows .repository) got
    · next got => exact goes_of_get network client (allows .repository) got
    · next repository after got =>
      exact (goes_of_get network client (allows .repository) got).trans
        (goes_resolveBranch network client repository allows after)
  · exact .refl journal

end

end Client

end SourceIndex.Host
