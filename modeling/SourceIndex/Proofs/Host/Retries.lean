import SourceIndex.Proofs.Host.Journal

/-!
# Sending a request again

A request that got no answer, or an answer that says that the service failed, is sent again as long
as the settings allow it. How often it is sent depends on the position of the first turn that does
not fail, in the sequence of turns that the network has for it (`IsFirst`), and the last turn that
is taken decides how the request ends (`Decides`). A client that stops after an answer ends the
request then and there (`StopsAt`). Any deliveries can follow each other in such a sequence
(`Client.turnAt_scripted`).

Main statement: as long as the client does not stop, a request whose first turn that does not fail is
the `d`-th is made `min d (M + 1)` times, where `M` is the number of retries that are allowed, it
waits `2 ^ min (i - 1) 5` seconds before the `i`-th retry and not before the first turn, and it gives
what the last turn decides (`Client.get_retries`). An answer after which the client stops takes its
request with it, whatever it says (`Client.get_retries_stopped`).
-/

set_option autoImplicit false

namespace SourceIndex.Host

variable {ν α : Type}

/-! ## What a turn decides -/

/-- A request that ends with a turn ends in a certain way. -/
inductive Decides (client : Client) (decode : Answer → Option α) (url : String) :
    Turn → Ending (Except Chain (Option α)) → Prop
  | decoded (request : Request) (response : Response) (time : Int) {value : Answer} {read : α}
      (goesOn : client.pause url response.headers time ≠ .stop)
      (success : 200 ≤ response.status ∧ response.status < 300)
      (parsed : Answer.parse? response.body = some value) (decodes : decode value = some read) :
      Decides client decode url (.made request (.answered response) time)
        (.returned (.ok (some read)))
  | undecodable (request : Request) (response : Response) (time : Int)
      (goesOn : client.pause url response.headers time ≠ .stop)
      (success : 200 ≤ response.status ∧ response.status < 300)
      (odd : ∀ value read, Answer.parse? response.body = some value → decode value ≠ some read) :
      Decides client decode url (.made request (.answered response) time)
        (.returned (.error ["error decoding response body"]))
  | missing (request : Request) (response : Response) (time : Int)
      (goesOn : client.pause url response.headers time ≠ .stop)
      (absent : response.status = 404) :
      Decides client decode url (.made request (.answered response) time) (.returned (.ok none))
  | refused (request : Request) (response : Response) (time : Int)
      (goesOn : client.pause url response.headers time ≠ .stop)
      (unsuccessful : ¬(200 ≤ response.status ∧ response.status < 300))
      (present : response.status ≠ 404)
      (alive : ¬(500 ≤ response.status ∧ response.status < 600)) :
      Decides client decode url (.made request (.answered response) time)
        (.returned (.error
          ["GitHub API error " ++ Status.text response.status ++ " for " ++ url ++ ": " ++
            Utf8.toStringLossy response.body]))
  | down (request : Request) (response : Response) (time : Int)
      (goesOn : client.pause url response.headers time ≠ .stop)
      (dead : 500 ≤ response.status ∧ response.status < 600) :
      Decides client decode url (.made request (.answered response) time)
        (.returned (.error ["GitHub API error " ++ Status.text response.status ++ ": " ++
          Utf8.toStringLossy response.body]))
  | lost (request : Request) (reasons : Chain) (time : Int) :
      Decides client decode url (.made request (.lost reasons) time)
        (.returned (.error
          (("error sending request for url (" ++ request.url.text ++ ")") :: reasons)))
  | unmade (chain : Chain) : Decides client decode url (.unmade chain) (.returned (.error chain))
  | stopped (request : Request) (response : Response) (time : Int)
      (stops : client.pause url response.headers time = .stop) :
      Decides client decode url (.made request (.answered response) time) .stopped

variable {client : Client} {decode : Answer → Option α} {url : String}

/-- The body of an answer that says that the request succeeded decides. -/
theorem decides_readBody (request : Request) (response : Response) (time : Int)
    (goesOn : client.pause url response.headers time ≠ .stop)
    (success : 200 ≤ response.status ∧ response.status < 300) :
    Decides client decode url (.made request (.answered response) time)
      (.returned (Client.readBody decode response.body)) := by
  unfold Client.readBody
  split
  · next read readable =>
    obtain ⟨value, parsed, decodes⟩ := Option.bind_eq_some_iff.1 readable
    exact .decoded request response time goesOn success parsed decodes
  · next unreadable =>
    refine .undecodable request response time goesOn success fun value read parsed decodes => ?_
    rw [parsed, Option.bind_some, decodes] at unreadable
    cases unreadable

/-- An answer after which the client goes on decides by its status and its body. -/
theorem decides_judge (request : Request) (response : Response) (time : Int)
    (goesOn : client.pause url response.headers time ≠ .stop) :
    Decides client decode url (.made request (.answered response) time)
      (match Client.judge decode url response with
      | .settled result => .returned result
      | .failed chain => .returned (.error chain)
      | .stopped => .stopped) := by
  simp only [Client.judge, Status.isSuccess, Status.isMissing, Status.isServerError,
    Bool.and_eq_true, decide_eq_true_eq, beq_iff_eq]
  by_cases success : 200 ≤ response.status ∧ response.status < 300
  · rw [if_pos success]
    exact decides_readBody request response time goesOn success
  · rw [if_neg success]
    by_cases missing : response.status = 404
    · rw [if_pos missing]
      exact .missing request response time goesOn missing
    · rw [if_neg missing]
      by_cases dead : 500 ≤ response.status ∧ response.status < 600
      · rw [if_pos dead]
        exact .down request response time goesOn dead
      · rw [if_neg dead]
        exact .refused request response time goesOn success missing dead

/-- **Every turn decides how a request ends that ends with it.** -/
theorem decides_ending (turn : Turn) :
    Decides client decode url turn (turn.ending client decode url) := by
  rcases turn with chain | ⟨request, response | reasons, time⟩
  · exact .unmade chain
  · rw [Turn.ending, Turn.outcome]
    cases stops : Turn.stops client url (.made request (.answered response) time) with
    | true => exact .stopped request response time (Turn.stops_iff.1 stops)
    | false => exact decides_judge request response time (Turn.goesOn_iff.1 stops)
  · exact .lost request reasons time

/-- A request ends with the client exactly if the client stops after its last turn. -/
theorem Turn.ending_eq_stopped_iff {turn : Turn} :
    turn.ending client decode url = .stopped ↔ turn.stops client url = true := by
  constructor
  · intro ended
    have decides : Decides client decode url turn (turn.ending client decode url) :=
      decides_ending turn
    rw [ended] at decides
    cases decides with
    | stopped request response time stops => exact Turn.stops_iff.2 stops
  · intro stops
    rw [Turn.ending, Turn.outcome, stops]

/-! ## How often a request is made -/

/-- The position, counted from one, of the first turn that does not fail. -/
structure IsFirst (turns : Nat → Turn) (position : Nat) : Prop where
  positive : 0 < position
  earlier : ∀ turn < position - 1, (turns turn).fails = true
  settles : (turns (position - 1)).fails = false

/-- The client stops after a turn, and the turns before it leave the request open. -/
structure StopsAt (client : Client) (url : String) (turns : Nat → Turn) (turn : Nat) : Prop where
  earlier : ∀ before < turn, (turns before).isOpen client url = true
  stops : (turns turn).stops client url = true

section

variable {turns : Nat → Turn} {limit last : Nat}

/-- A turn that fails leaves its request open if the client goes on. -/
theorem Turn.isOpen_of_fails {turn : Turn} (failed : turn.fails = true)
    (goesOn : turn.stops client url = false) : turn.isOpen client url = true := by
  rw [isOpen, failed, goesOn]
  rfl

theorem IsFirst.isLast {position : Nat} (isFirst : IsFirst turns position)
    (goesOn : ∀ turn < min position (limit + 1), (turns turn).stops client url = false) :
    IsLast (fun turn => (turns turn).isOpen client url) limit (min position (limit + 1) - 1) := by
  have positive := isFirst.positive
  refine ⟨by omega, fun turn early => ?_, ?_⟩
  · exact Turn.isOpen_of_fails (isFirst.earlier turn (by omega)) (goesOn turn (by omega))
  · rcases Nat.lt_or_ge limit position with short | long
    · exact .inl (by omega)
    · refine .inr ?_
      rw [Nat.min_eq_left (by omega), Turn.isOpen, isFirst.settles]
      rfl

theorem isLast_of_fails
    (hopeless : ∀ turn ≤ limit, (turns turn).fails = true ∧ (turns turn).stops client url = false) :
    IsLast (fun turn => (turns turn).isOpen client url) limit limit where
  bounded := Nat.le_refl limit
  earlier turn early :=
    Turn.isOpen_of_fails (hopeless turn (Nat.le_of_lt early)).1
      (hopeless turn (Nat.le_of_lt early)).2
  ended := .inl rfl

theorem StopsAt.isLast (stopsAt : StopsAt client url turns last) (within : last ≤ limit) :
    IsLast (fun turn => (turns turn).isOpen client url) limit last where
  bounded := within
  earlier := stopsAt.earlier
  ended := .inr (by rw [Turn.isOpen, stopsAt.stops, Bool.not_true, Bool.and_false])

end

/-! ## The course of a request -/

/-- A request was sent. -/
def Deed.isSent : Deed → Bool
  | .sent _ _ _ => true
  | .waited _ => false

namespace Client

/-- A request that starts with a journal is made a number of times. -/
structure Repeats (network : Network ν) (client : Client) (decode : Answer → Option α)
    (url : String) (journal : Journal ν) (made : Nat) : Prop where
  /-- The journal has these turns and the waits around them, and no more. -/
  deeds : (get network.journaled client decode url journal).2.deeds = journal.deeds ++
    (List.range made).flatMap fun retry =>
      (if retry = 0 then [] else [.waited (Nat.pow 2 (min (retry - 1) 5))]) ++
        (turnAt network client url journal.world retry).deeds client url
  /-- As many requests are sent, if a request can be made of the URL at all. -/
  sent : ∀ request, client.request url = .ok request →
    (get network.journaled client decode url journal).2.deeds.countP Deed.isSent =
      journal.deeds.countP Deed.isSent + made
  /-- The last of these turns decides how the request ends. -/
  ending : (get network.journaled client decode url journal).1 =
    (turnAt network client url journal.world (made - 1)).ending client decode url
  decides : Decides client decode url (turnAt network client url journal.world (made - 1))
    (get network.journaled client decode url journal).1
  /-- The journal makes no difference. -/
  plain : (get network client decode url journal.world).1 =
    (get network.journaled client decode url journal).1

variable (network : Network ν) (client : Client) (decode : Answer → Option α)
variable (url : String) (journal : Journal ν)

/-- A pause sends nothing. -/
theorem countP_isSent_pause (pause : Pause) : pause.deeds.countP Deed.isSent = 0 := by
  cases pause <;> rfl

/-- A turn with a request sends it once. -/
theorem countP_isSent_deeds {turn : Turn} {request : Request} (asks : turn.Asks client url)
    (built : client.request url = .ok request) :
    (turn.deeds client url).countP Deed.isSent = 1 := by
  cases turn with
  | unmade chain =>
    have refused : client.request url = .error chain := asks
    rw [built] at refused
    cases refused
  | made request delivery time =>
    rw [Turn.deeds, List.countP_cons_of_pos rfl, countP_isSent_pause]

/-- A number of turns sends as many requests. -/
theorem countP_isSent_passes {request : Request} (built : client.request url = .ok request)
    (state : ν) (count : Nat) :
    ((passes network client url state count).flatMap (Pass.deeds client)).countP
      Deed.isSent = count := by
  induction count with
  | zero => rfl
  | succ count ih =>
    have asks := request_of_turnAt network client url state count
    rw [passes, List.range_succ, List.map_append, List.flatMap_append, ← passes, List.countP_append,
      ih, List.map_singleton, List.flatMap_singleton, Pass.deeds, List.countP_append,
      countP_isSent_deeds client url asks built]
    split <;> rfl

theorem repeats_of_isLast {last : Nat}
    (isLast : IsLast (openAt network client url journal.world) client.settings.maxRetries last) :
    Repeats network client decode url journal (last + 1) := by
  obtain ⟨found, foundLast, got⟩ := get_journaled network client url journal decode
  obtain rfl := foundLast.unique isLast
  have deeds := congrArg (fun ended => ended.2.deeds) got
  refine ⟨?_, fun request built => ?_, congrArg Prod.fst got, ?_, ?_⟩
  · rw [deeds, passes, List.flatMap_map]
    rfl
  · rw [deeds, List.countP_append, countP_isSent_passes network client url built]
  · rw [congrArg Prod.fst got]
    exact decides_ending _
  · exact (congrArg Prod.fst (get_plain network client url journal decode)).symm

/-- **A request is made up to the first turn that does not fail, as often as the limit allows**, and
the last turn that it takes decides, as long as the client goes on after these turns. If every turn
fails the request is made as often as the limit allows. If the client stops after a turn, the request
was made up to this turn, and ends with the client; it ends so in no other way. -/
theorem get_retries :
    (∀ position, IsFirst (turnAt network client url journal.world) position →
      (∀ turn < min position (client.settings.maxRetries + 1),
        (turnAt network client url journal.world turn).stops client url = false) →
      Repeats network client decode url journal
        (min position (client.settings.maxRetries + 1))) ∧
      ((∀ turn ≤ client.settings.maxRetries,
        (turnAt network client url journal.world turn).fails = true ∧
          (turnAt network client url journal.world turn).stops client url = false) →
        Repeats network client decode url journal (client.settings.maxRetries + 1)) ∧
      (∀ turn ≤ client.settings.maxRetries,
        StopsAt client url (turnAt network client url journal.world) turn →
        Repeats network client decode url journal (turn + 1)) ∧
      ((get network client decode url journal.world).1 = .stopped ↔
        ∃ turn ≤ client.settings.maxRetries,
          StopsAt client url (turnAt network client url journal.world) turn) := by
  have along {last : Nat} (isLast : IsLast (openAt network client url journal.world)
      client.settings.maxRetries last) : Repeats network client decode url journal (last + 1) :=
    repeats_of_isLast network client decode url journal isLast
  refine ⟨fun position isFirst goesOn => ?_, fun hopeless => along (isLast_of_fails hopeless),
    fun turn within stopsAt => along (stopsAt.isLast within), ?_, ?_⟩
  · have positive := isFirst.positive
    have repeats := along (isFirst.isLast goesOn)
    rwa [Nat.sub_add_cancel (by omega)] at repeats
  · intro stopped
    obtain ⟨last, isLast, -⟩ := get_journaled network client url journal decode
    have repeats := along isLast
    rw [repeats.plain, repeats.ending, Turn.ending_eq_stopped_iff] at stopped
    exact ⟨last, isLast.bounded, isLast.earlier, stopped⟩
  · rintro ⟨turn, within, stopsAt⟩
    have repeats := along (stopsAt.isLast within)
    rw [repeats.plain, repeats.ending, Turn.ending_eq_stopped_iff]
    exact stopsAt.stops

/-! ## Any sequence of deliveries -/

section

variable (deliveries : Nat → Delivery) {request : Request}

/-- A network that has its deliveries in a fixed order. Its state is the number of requests. -/
def scripted : Network Nat where
  send _ count := (deliveries count, count + 1)
  now _ := 0
  wait _ count := count

theorem pass_scripted (built : client.request url = .ok request) (sent count : Nat) :
    pass (scripted deliveries) client url sent count =
      (.made request (deliveries count) 0, count + 1) := by
  have ready : (if sent = 0 then count else (scripted deliveries).wait (backoff sent) count) =
      count := ite_self count
  rw [pass, ready, take, built]
  dsimp only
  cases Turn.pause client url _ <;> rfl

theorem stateAt_scripted (built : client.request url = .ok request) (sent : Nat) :
    stateAt (scripted deliveries) client url 0 sent = sent := by
  induction sent with
  | zero => rfl
  | succ sent ih => rw [stateAt, ih, pass_scripted client url deliveries built]

/-- Whatever the deliveries are, there is a network on which a request meets them in turn. -/
theorem turnAt_scripted (built : client.request url = .ok request) (sent : Nat) :
    turnAt (scripted deliveries) client url 0 sent = .made request (deliveries sent) 0 := by
  rw [turnAt, stateAt_scripted client url deliveries built,
    pass_scripted client url deliveries built]

end

/-! ## Three requests -/

/-- A body that tells the head of a branch. -/
def headBody : Bytes :=
  Utf8.ofString "\x7b\"commit\":\x7b\"sha\":\"abc\"\x7d\x7d"

theorem readBody_headBody : readBody headOf? headBody = .ok (some "abc") := by
  have reads : (Answer.parse? headBody).bind headOf? = some "abc" := by decide +kernel
  rw [readBody, reads]

/-- The service fails, the next request is lost, and then there is the head of a branch. -/
def recovering : Nat → Delivery
  | 0 => .answered ⟨503, [], []⟩
  | 1 => .lost []
  | _ => .answered ⟨200, [], headBody⟩

/-- No requests are left until a time that is beyond the calendar. -/
def endless : Headers :=
  [("x-ratelimit-remaining", Utf8.ofString "0"),
    ("x-ratelimit-reset", Utf8.ofString "10000000000000")]

/-- The service fails and sets such a limit, and then there is the head of a branch. -/
def exhausting : Nat → Delivery
  | 0 => .answered ⟨503, endless, []⟩
  | _ => .answered ⟨200, [], headBody⟩

/-- A client with the usual settings. -/
def standard : Client :=
  ⟨HostSettings.standard, none, .standard⟩

/-- A request that is answered with it ends with the head of the branch. -/
theorem ending_headBody (request : Request) (url : String) :
    Turn.ending standard headOf? url (.made request (.answered ⟨200, [], headBody⟩) 0) =
      .returned (.ok (some "abc")) :=
  congrArg Ending.returned readBody_headBody

theorem request_standard : ∃ request, standard.request "http://127.0.0.1/x" = .ok request := by
  have isMade : (standard.request "http://127.0.0.1/x").isOk = true := by decide +kernel
  cases built : standard.request "http://127.0.0.1/x" with
  | error chain =>
    rw [built] at isMade
    cases isMade
  | ok request => exact ⟨request, rfl⟩

/-- The head of the branch is there after two retries, before which the client waits one second and
two. Where every request is lost it is sent four times. -/
theorem get_retries_recovering :
    let url := "http://127.0.0.1/x"
    let recovered := get (scripted recovering).journaled standard headOf? url ⟨0, []⟩
    let given := get (scripted fun _ => .lost []).journaled standard headOf? url ⟨0, []⟩
    recovered.1 = .returned (.ok (some "abc")) ∧
      recovered.2.deeds.filter (fun deed => !deed.isSent) = [.waited 1, .waited 2] ∧
      recovered.2.deeds.countP Deed.isSent = 3 ∧
      (∃ chain, given.1 = .returned (.error chain)) ∧ given.2.deeds.countP Deed.isSent = 4 := by
  intro url recovered given
  obtain ⟨request, built⟩ := request_standard
  have turns (deliveries : Nat → Delivery) (sent : Nat) :
      turnAt (scripted deliveries) standard url 0 sent = .made request (deliveries sent) 0 :=
    turnAt_scripted standard url deliveries built sent
  have third : Repeats (scripted recovering) standard headOf? url ⟨0, []⟩ 3 := by
    refine (get_retries (scripted recovering) standard headOf? url ⟨0, []⟩).1 3 ⟨?_, ?_, ?_⟩ ?_
    · decide
    · simp only [turns]
      rintro (_ | _ | turn) early
      · rfl
      · rfl
      · omega
    · rw [turns]
      rfl
    · simp only [turns]
      rintro (_ | _ | _ | turn) early
      · rfl
      · rfl
      · rfl
      · omega
  have never : Repeats (scripted fun _ => .lost []) standard headOf? url ⟨0, []⟩ 4 := by
    refine (get_retries (scripted fun _ => .lost []) standard headOf? url ⟨0, []⟩).2.1 ?_
    intro turn _
    rw [turns]
    exact ⟨rfl, rfl⟩
  refine ⟨?_, ?_, ?_, ?_, ?_⟩
  · rw [third.ending, turns]
    exact ending_headBody request url
  · rw [third.deeds]
    simp only [turns]
    rfl
  · rw [third.sent request built]
    rfl
  · rw [never.ending, turns]
    exact ⟨_, rfl⟩
  · rw [never.sent request built]
    rfl

/-- **A limit that is beyond the calendar ends a request with the client.** The second turn at the
request is the first one that does not fail, and two turns are allowed, but the client stops after
the first one. -/
theorem get_retries_stopped :
    let url := "http://127.0.0.1/x"
    let turns := turnAt (scripted exhausting) standard url 0
    let given := get (scripted exhausting).journaled standard headOf? url ⟨0, []⟩
    IsFirst turns 2 ∧ (turns 1).ending standard headOf? url = .returned (.ok (some "abc")) ∧
      2 ≤ standard.settings.maxRetries + 1 ∧
      given.1 = .stopped ∧ given.2.deeds.countP Deed.isSent = 1 := by
  intro url turns given
  obtain ⟨request, built⟩ := request_standard
  have spelled (sent : Nat) : turns sent = .made request (exhausting sent) 0 :=
    turnAt_scripted standard url exhausting built sent
  have stops : (turns 0).stops standard url = true := by
    rw [spelled]
    show (standard.pause url endless 0).isStop = true
    decide +kernel
  have stopsAt : StopsAt standard url turns 0 := ⟨nofun, stops⟩
  have first : Repeats (scripted exhausting) standard headOf? url ⟨0, []⟩ 1 :=
    repeats_of_isLast _ _ _ _ _ (stopsAt.isLast (Nat.zero_le _))
  refine ⟨⟨by decide, ?_, ?_⟩, ?_, by decide, ?_, ?_⟩
  · rintro (_ | turn) early
    · rw [spelled]
      rfl
    · omega
  · rw [spelled]
    rfl
  · rw [spelled]
    exact ending_headBody request url
  · rw [first.ending]
    exact Turn.ending_eq_stopped_iff.2 stops
  · rw [first.sent request built]
    rfl

end Client

end SourceIndex.Host
