import SourceIndex.Proofs.Address.Canonical
import SourceIndex.Proofs.Host.Retries
import SourceIndex.Rehearsal.Server

/-!
# The waits of a lookup

After an answer the client waits if too few requests are left (`Budget.Asks`), by one budget for the
search endpoints and by another one for all the others (`Budget.Keeps`). It stops instead if the time
at which it would go on cannot be told (`Calendar.Tells`); for numbers far from the limits of their
words it can be told if the calendar has it (`Calendar.tells_iff`).

Which budget it is depends on the text of the URL: one that has the word `search` between two slashes
counts as that of a search endpoint. None of the three requests of a lookup goes to one, but their
URLs are made of the URL of the service, of the names of the owner and the project, and of the name
of a branch or its head, and any of these can bring the word in (`Client.Step.ShowsSearch`).

Main statement: the requests of a lookup keep the budget of the other endpoints, unless one of these
names makes the URL one of a search endpoint; then they keep that of the search endpoints
(`Client.resolve_pauses`, `Client.resolve_pauses_search`).
-/

set_option autoImplicit false

namespace SourceIndex

/-! ## Words between slashes -/

namespace Text

/-- A word stands between two slashes of a text. -/
def HasPart (word text : List Char) : Prop :=
  '/' :: (word ++ ['/']) <:+: text

variable {word segment before after text : List Char}

/-- Two slashes with a word between them are on one side of a third one, which may be one of
them. -/
theorem hasPart_cut (whole : '/' ∉ word) :
    HasPart word (before ++ '/' :: after) ↔
      HasPart word (before ++ ['/']) ∨ HasPart word ('/' :: after) := by
  constructor
  · rintro ⟨front, back, cut⟩
    rw [List.append_assoc, List.append_eq_append_iff] at cut
    rcases cut with ⟨between, rfl, cut⟩ | ⟨between, -, cut⟩
    · rw [List.append_eq_append_iff] at cut
      rcases cut with ⟨rest, rfl, -⟩ | ⟨rest, spelled, cut⟩
      · exact .inl ⟨front, rest ++ ['/'], by simp⟩
      · -- The third slash is within the pattern or just behind it.
        rcases rest with _ | ⟨slash, rest⟩
        · rw [List.append_nil] at spelled
          exact .inl ⟨front, ['/'], by rw [spelled]⟩
        · obtain ⟨rfl, rfl⟩ := List.cons.inj cut
          rcases between with _ | ⟨first, between⟩
          · exact .inr ⟨[], back, by rw [spelled]; rfl⟩
          · obtain ⟨rfl, spelled⟩ := List.cons.inj spelled
            rcases List.eq_nil_or_concat rest with rfl | ⟨inner, last, rfl⟩
            · exact .inl ⟨front, [], by rw [spelled]; simp⟩
            · have ends : '/' :: word ++ ['/'] = '/' :: between ++ '/' :: inner ++ [last] := by
                simpa using spelled
              obtain ⟨same, -⟩ := List.append_inj' ends rfl
              exact absurd (by simp [(List.cons.inj same).2]) whole
    · exact .inr ⟨between, back, by rw [List.append_assoc]; exact cut.symm⟩
  · rintro (left | right)
    · exact left.trans ⟨[], after, by simp⟩
    · exact right.trans ⟨before, [], by simp⟩

/-- Where a segment starts and ends with a slash, it is the word or what follows has it. -/
theorem hasPart_cons (whole : '/' ∉ word) (plain : '/' ∉ segment) :
    HasPart word ('/' :: (segment ++ '/' :: after)) ↔
      segment = word ∨ HasPart word ('/' :: after) := by
  rw [← List.cons_append, hasPart_cut whole]
  refine or_congr_left ⟨?_, ?_⟩
  · rintro ⟨front, back, cut⟩
    rcases front with _ | ⟨first, front⟩
    · have rest : word ++ '/' :: back = segment ++ '/' :: [] := by simpa using cut
      exact (append_separator_inj whole plain rest).1.symm
    · -- There are two slashes in the text only.
      obtain rfl : first = '/' := (List.cons.inj cut).1
      have slashes := congrArg (List.count '/') cut
      simp only [List.cons_append, List.append_assoc, List.count_append, List.count_cons_self,
        List.count_nil, List.count_eq_zero_of_not_mem plain] at slashes
      omega
  · rintro rfl
    exact ⟨[], [], by simp⟩

/-- What has no slash and comes last does not matter. -/
theorem hasPart_append (plain : '/' ∉ after) :
    HasPart word (before ++ after) ↔ HasPart word before := by
  constructor
  · rintro ⟨front, back, cut⟩
    rcases List.append_eq_append_iff.1 cut with ⟨between, rfl, -⟩ | ⟨between, spelled, rfl⟩
    · exact ⟨front, between, rfl⟩
    · rcases List.eq_nil_or_concat between with rfl | ⟨inner, last, rfl⟩
      · exact ⟨front, [], by simpa using spelled⟩
      · have ends : front ++ '/' :: word ++ ['/'] = before ++ inner ++ [last] := by
          simpa using spelled
        obtain ⟨-, isSlash⟩ := List.append_inj' ends rfl
        cases isSlash
        exact absurd (by simp) plain
  · exact fun has => has.trans ⟨[], after, rfl⟩

theorem not_hasPart_last (plain : '/' ∉ segment) : ¬HasPart word ('/' :: segment) := by
  rw [← List.singleton_append, hasPart_append plain]
  intro has
  have short := has.length_le
  simp at short

end Text

namespace Host

open Text

/-! ## Budgets -/

/-- How many requests must be left at least, and how long to wait beyond the reset if fewer are. -/
structure Budget where
  floor : Nat
  grace : Nat
deriving DecidableEq, Repr

/-- The time at which a wait ends can be told: the numbers on the way to it fit in their words, and
the calendar has the time. -/
structure Calendar.Tells (calendar : Calendar) (now : Int) (reset grace : Nat) : Prop where
  ahead : -2 ^ 63 ≤ signed reset - now ∧ signed reset - now < 2 ^ 63
  sum : (signed reset - now).toNat + grace < 2 ^ 64
  reached : calendar.reaches now (signed ((signed reset - now).toNat + grace)) = true

/-- An answer asks for a pause until a reset: it tells the number of requests that are left and the
time of the reset, and fewer are left than the floor of the budget. -/
def Budget.Asks (budget : Budget) (headers : Headers) (reset : Nat) : Prop :=
  ∃ remaining, headerNumber? headers "x-ratelimit-remaining" = some remaining ∧
    headerNumber? headers "x-ratelimit-reset" = some reset ∧ remaining < budget.floor

/-- The pause after an answer keeps a budget. The client pauses exactly if the answer asks for it.
Then it waits until the reset, if that is still to come, and for the grace beyond, or stops if it
cannot tell the end of the wait. -/
structure Budget.Keeps (budget : Budget) (calendar : Calendar) (headers : Headers) (now : Int)
    (pause : Pause) : Prop where
  waits_iff : (∃ seconds, pause = .wait seconds) ↔
    ∃ reset, budget.Asks headers reset ∧ calendar.Tells now reset budget.grace
  stops_iff : pause = .stop ↔
    ∃ reset, budget.Asks headers reset ∧ ¬calendar.Tells now reset budget.grace
  lasts : ∀ seconds, pause = .wait seconds → ∀ reset, budget.Asks headers reset →
    reset < 2 ^ 63 → now + seconds = max now reset + budget.grace

/-- The budget of the search endpoints. -/
def searchBudget (settings : HostSettings) : Budget :=
  ⟨settings.searchMinRemaining, settings.searchResetGraceSeconds⟩

/-- The budget of all other endpoints. -/
def coreBudget (settings : HostSettings) : Budget :=
  ⟨settings.minRemaining, settings.resetGraceSeconds⟩

/-- The budget that is kept for a URL. -/
def budgetFor (settings : HostSettings) (url : String) : Budget :=
  ⟨floorFor settings url, graceFor settings url⟩

theorem budgetFor_eq (settings : HostSettings) (url : String) :
    budgetFor settings url =
      if isSearch url then searchBudget settings else coreBudget settings := by
  rw [budgetFor, floorFor, graceFor, searchBudget, coreBudget]
  split <;> rfl

/-- A word that is not too large for a signed one is the same number. -/
theorem signed_of_lt {word : Nat} (small : word < 2 ^ 63) : signed word = word := by
  have width : (Nat.pow 2 64 : Int) = 2 ^ 64 := rfl
  exact Int.bmod_eq_of_le_mul_two (by omega) (by omega)

/-- Far from the limits of the words the end of a wait can be told if the calendar has it. -/
theorem Calendar.tells_iff {calendar : Calendar} {now : Int} {reset grace : Nat}
    (resetFar : reset < 2 ^ 61) (nowFar : -2 ^ 61 ≤ now ∧ now < 2 ^ 61)
    (graceFar : grace < 2 ^ 61) :
    calendar.Tells now reset grace ↔
      max now reset + grace - now ≤ calendar.longest ∧ calendar.first ≤ max now reset + grace ∧
        max now reset + grace ≤ calendar.last := by
  have reaches : calendar.reaches now ((reset - now : Int).toNat + grace : Nat) = true ↔
      max now reset + grace - now ≤ calendar.longest ∧ calendar.first ≤ max now reset + grace ∧
        max now reset + grace ≤ calendar.last := by
    simp only [reaches, Bool.and_eq_true, decide_eq_true_eq]
    omega
  have plain : signed reset = reset := signed_of_lt (by omega)
  have small : signed ((reset - now : Int).toNat + grace) =
      ((reset - now : Int).toNat + grace : Nat) := signed_of_lt (by omega)
  rw [← reaches]
  constructor
  · rintro ⟨-, -, reached⟩
    rwa [plain, small] at reached
  · intro reached
    refine ⟨?_, ?_, ?_⟩
    · omega
    · omega
    · rwa [plain, small]

/-- The seconds of a wait are worked out if the numbers on the way to them fit. -/
theorem span?_eq_some_iff {now reset : Int} {grace seconds : Nat} :
    span? now reset grace = some seconds ↔
      (-2 ^ 63 ≤ reset - now ∧ reset - now < 2 ^ 63) ∧ (reset - now).toNat + grace < 2 ^ 64 ∧
        (reset - now).toNat + grace = seconds := by
  have signedLimit : (Nat.pow 2 63 : Int) = 2 ^ 63 := rfl
  have limit : Nat.pow 2 64 = 2 ^ 64 := rfl
  simp only [span?, fitsSigned, signedLimit, limit, Bool.and_eq_true, decide_eq_true_eq,
    Option.ite_none_right_eq_some, Option.some.injEq, and_assoc]

section

variable {client : Client} {url : String} {headers : Headers} {now : Int} {reset other : Nat}

theorem Budget.Asks.unique {budget : Budget} (asks : budget.Asks headers reset)
    (asksToo : budget.Asks headers other) : reset = other := by
  obtain ⟨_, -, told, -⟩ := asks
  obtain ⟨_, -, toldToo, -⟩ := asksToo
  exact Option.some.inj (told.symm.trans toldToo)

/-- An answer that asks for a pause makes the client wait if it can tell the end of the wait. -/
theorem pause_of_tells (asks : (budgetFor client.settings url).Asks headers reset)
    (tells : client.calendar.Tells now reset (graceFor client.settings url)) :
    client.pause url headers now =
      .wait ((signed reset - now).toNat + graceFor client.settings url) := by
  obtain ⟨remaining, left, renewed, (short : remaining < floorFor client.settings url)⟩ := asks
  rw [Client.pause, pause, left, renewed]
  dsimp only
  rw [if_neg (Nat.not_le.2 short), span?_eq_some_iff.2 ⟨tells.ahead, tells.sum, rfl⟩]
  dsimp only [Pause.announced]
  rw [if_pos tells.reached]

/-- It stops the client otherwise. -/
theorem pause_of_not_tells (asks : (budgetFor client.settings url).Asks headers reset)
    (untold : ¬client.calendar.Tells now reset (graceFor client.settings url)) :
    client.pause url headers now = .stop := by
  obtain ⟨remaining, left, renewed, (short : remaining < floorFor client.settings url)⟩ := asks
  rw [Client.pause, pause, left, renewed]
  dsimp only
  rw [if_neg (Nat.not_le.2 short)]
  cases worked : span? now (signed reset) (graceFor client.settings url) with
  | none => rfl
  | some seconds =>
    obtain ⟨ahead, sum, rfl⟩ := span?_eq_some_iff.1 worked
    dsimp only [Pause.announced]
    rw [if_neg fun reached => untold ⟨ahead, sum, reached⟩]

/-- An answer that asks for no pause makes none. -/
theorem pause_of_not_asks (enough : ¬∃ reset, (budgetFor client.settings url).Asks headers reset) :
    client.pause url headers now = .none := by
  rw [Client.pause, pause]
  split
  · next remaining reset left renewed =>
    have floor : floorFor client.settings url ≤ remaining :=
      Nat.not_lt.1 fun short => enough ⟨reset, remaining, left, renewed, short⟩
    rw [if_pos floor]
    rfl
  · rfl

end

/-- The pause after an answer keeps the budget for the URL. -/
theorem keeps_pause (client : Client) (url : String) (headers : Headers) (now : Int) :
    (budgetFor client.settings url).Keeps client.calendar headers now
      (client.pause url headers now) := by
  by_cases asked : ∃ reset, (budgetFor client.settings url).Asks headers reset
  · obtain ⟨reset, asks⟩ := asked
    by_cases tells : client.calendar.Tells now reset (graceFor client.settings url)
    · rw [pause_of_tells asks tells]
      refine ⟨iff_of_true ⟨_, rfl⟩ ⟨reset, asks, tells⟩, iff_of_false nofun ?_, ?_⟩
      · rintro ⟨other, asksToo, untold⟩
        exact untold (asks.unique asksToo ▸ tells)
      · rintro _ ⟨⟩ other asksToo small
        obtain rfl := asks.unique asksToo
        have grace : (budgetFor client.settings url).grace = graceFor client.settings url := rfl
        rw [signed_of_lt small, grace]
        omega
    · rw [pause_of_not_tells asks tells]
      refine ⟨iff_of_false nofun ?_, iff_of_true rfl ⟨reset, asks, tells⟩, nofun⟩
      rintro ⟨other, asksToo, told⟩
      exact tells (asks.unique asksToo ▸ told)
  · rw [pause_of_not_asks asked]
    refine ⟨iff_of_false nofun ?_, iff_of_false nofun ?_, nofun⟩
    · rintro ⟨reset, asks, -⟩
      exact asked ⟨reset, asks⟩
    · rintro ⟨reset, asks, -⟩
      exact asked ⟨reset, asks⟩

/-! ## The URLs of a lookup -/

/-- A URL is one of a search endpoint exactly if it has the word between two slashes. -/
theorem isSearch_iff (url : String) :
    isSearch url = true ↔ HasPart "search".toList url.toList := by
  rw [isSearch, List.any_eq_true, HasPart]
  constructor
  · rintro ⟨start, -, starts⟩
    rw [List.isPrefixOf_iff_prefix] at starts
    exact starts.isInfix.trans (List.drop_suffix start _).isInfix
  · rintro ⟨before, after, cut⟩
    refine ⟨before.length, ?_, ?_⟩
    · rw [List.mem_range, ← String.length_toList, ← cut]
      simp
    · rw [List.isPrefixOf_iff_prefix, ← cut, List.append_assoc, List.drop_left]
      exact ⟨after, rfl⟩

namespace Client

variable {ν : Type}

/-- The URL of the service, without the slashes at its end. -/
def root (settings : HostSettings) : List Char :=
  dropEndWhile (· == '/') settings.apiUrl.toList

/-- The name of the branch or of the head that the URL of a request ends with. -/
def Step.label? : Step → Option String
  | .repository => none
  | .branch name => some name
  | .tree head => some head

/-- The URL of a request has the word `search` between two slashes: the URL of the service has it,
or the owner is called so, or the request is for more than the repository, and the project is called
so or the name of the branch or the head has it. -/
def Step.ShowsSearch (settings : HostSettings) (owner name : List Char) (step : Step) : Prop :=
  HasPart "search".toList (root settings ++ ['/']) ∨ owner = "search".toList ∨
    ∃ label ∈ step.label?, name = "search".toList ∨
      HasPart "search".toList ('/' :: label.toList)

theorem repositoryUrl?_eq_some {settings : HostSettings} {address base : String}
    (located : repositoryUrl? settings address = some base) :
    ∃ owner name, Address.ownerAndName? address.toList = some (owner, name) ∧
      base.toList = root settings ++ "/repos/".toList ++ owner ++ '/' :: name := by
  obtain ⟨projectId, named, rfl⟩ := Option.map_eq_some_iff.1 located
  obtain ⟨⟨owner, name⟩, parts, rfl⟩ := Option.map_eq_some_iff.1 named
  exact ⟨owner, name, parts, by simp [root, onString]⟩

/-- **The URL of a request is one of a search endpoint exactly if a name makes it one.** -/
theorem isSearch_url {settings : HostSettings} {owner name : List Char} {base : String}
    (ownerWhole : '/' ∉ owner) (nameWhole : '/' ∉ name)
    (spelled : base.toList = root settings ++ "/repos/".toList ++ owner ++ '/' :: name)
    (step : Step) :
    isSearch (step.url base) = true ↔ step.ShowsSearch settings owner name := by
  have whole : '/' ∉ "search".toList := by decide
  -- What comes after the name decides the rest.
  have front (tail : List Char) :
      HasPart "search".toList (base.toList ++ tail) ↔
        HasPart "search".toList (root settings ++ ['/']) ∨ owner = "search".toList ∨
          HasPart "search".toList ('/' :: (name ++ tail)) := by
    have cut : base.toList ++ tail =
        root settings ++ '/' :: ("repos".toList ++ '/' :: (owner ++ '/' :: (name ++ tail))) := by
      simp [spelled]
    rw [cut, hasPart_cut whole, hasPart_cons whole (by decide), hasPart_cons whole ownerWhole,
      or_iff_right (show "repos".toList ≠ "search".toList by decide)]
  rw [isSearch_iff, Step.ShowsSearch]
  cases step with
  | repository =>
    have bare := front []
    rw [List.append_nil, List.append_nil, or_iff_left (not_hasPart_last nameWhole)] at bare
    rw [Step.url, bare]
    simp [Step.label?]
  | branch label =>
    have cut : (Step.url base (.branch label)).toList =
        base.toList ++ '/' :: ("branches".toList ++ '/' :: label.toList) := by
      simp [Step.url]
    rw [cut, front, hasPart_cons whole nameWhole, hasPart_cons whole (by decide),
      or_iff_right (show "branches".toList ≠ "search".toList by decide)]
    simp [Step.label?]
  | tree label =>
    have cut : (Step.url base (.tree label)).toList = base.toList ++
        '/' :: ("git".toList ++ '/' :: ("trees".toList ++ '/' ::
          (label.toList ++ "?recursive=1".toList))) := by
      simp [Step.url]
    have query : HasPart "search".toList ('/' :: (label.toList ++ "?recursive=1".toList)) ↔
        HasPart "search".toList ('/' :: label.toList) := by
      rw [← List.cons_append, hasPart_append (by decide)]
    rw [cut, front, hasPart_cons whole nameWhole, hasPart_cons whole (by decide),
      or_iff_right (show "git".toList ≠ "search".toList by decide), hasPart_cons whole (by decide),
      or_iff_right (show "trees".toList ≠ "search".toList by decide), query]
    simp [Step.label?]

/-! ## The waits of a lookup -/

/-- **The requests of a lookup keep the budget of the endpoints that are not search endpoints**,
unless the URL of the service, the owner, the project, the branch or its head brings the word
`search` in between two slashes; then they keep that of the search endpoints. -/
theorem resolve_pauses (network : Network ν) (client : Client) (address : String)
    (journal : Journal ν) :
    ∃ taken : List Pass,
      (resolve network.journaled client address journal).2.deeds =
          journal.deeds ++ taken.flatMap (Pass.deeds client) ∧
        ∀ pass ∈ taken, ∃ owner name step,
          Address.ownerAndName? address.toList = some (owner, name) ∧
          (∃ base, repositoryUrl? client.settings address = some base ∧
            pass.url = Step.url base step) ∧
          pass.turn.Asks client pass.url ∧
          ∀ request response time, pass.turn = .made request (.answered response) time →
            (¬step.ShowsSearch client.settings owner name →
              (coreBudget client.settings).Keeps client.calendar response.headers time
                (pass.turn.pause client pass.url)) ∧
            (step.ShowsSearch client.settings owner name →
              (searchBudget client.settings).Keeps client.calendar response.headers time
                (pass.turn.pause client pass.url)) := by
  obtain ⟨taken, deeds, steps⟩ := resolve_journaled network client address journal
  refine ⟨taken, deeds, fun pass within => ?_⟩
  obtain ⟨⟨base, step, located, isStep⟩, asks⟩ := steps pass within
  obtain ⟨owner, name, parts, spelled⟩ := repositoryUrl?_eq_some located
  have pair := Address.isPair_of_ownerAndName? parts
  have shows := isSearch_url pair.ofOwner.1 pair.ofName.1 spelled step
  refine ⟨owner, name, step, parts, ⟨base, located, isStep⟩, asks, ?_⟩
  intro request response time made
  have keeps := keeps_pause client pass.url response.headers time
  rw [budgetFor_eq, isStep] at keeps
  rw [made, isStep]
  refine ⟨fun hides => ?_, fun shown => ?_⟩
  · rwa [if_neg (mt shows.1 hides)] at keeps
  · rwa [if_pos (shows.2 shown)] at keeps

/-! ## Three lookups -/

/-- An answer that says that there is nothing, and that 99 requests are left until a time. -/
def spent (reset : String) : Response where
  status := 404
  headers := [("x-ratelimit-remaining", Utf8.ofString "99"),
    ("x-ratelimit-reset", Utf8.ofString reset)]
  body := []

/-- A service that has this answer for one path. -/
def sparing (path reset : String) : Rehearsal.Server :=
  .start true [⟨path, [.answer (spent reset)]⟩]

/-- The request for a path of the standard service. -/
def requestFor (path : String) : Request where
  url :=
    { scheme := "https".toList
      user := []
      password := []
      site := some (.name "api.github.com".toList)
      number := none
      path := path.toList
      query := []
      fragment := [] }
  authorization := none

/-- After the answer for an ordinary project the client waits until the reset and a minute longer.
For an owner called `search` all requests keep the budget of the search endpoints. -/
theorem resolve_pauses_ordinary :
    (∃ taken : List Pass,
      taken.flatMap (Pass.deeds standard) =
          [.sent (requestFor "/repos/o/p") (.answered (spent "1750000100")) 1750000000,
            .waited 160] ∧
        ∀ pass ∈ taken, pass.url = "https://api.github.com/repos/o/p" →
          ∀ request response time, pass.turn = .made request (.answered response) time →
            (coreBudget standard.settings).Keeps standard.calendar response.headers time
              (pass.turn.pause standard pass.url)) ∧
      ∃ taken : List Pass,
        taken.flatMap (Pass.deeds standard) =
            [.sent (requestFor "/repos/search/demo") (.answered (spent "1750000100"))
              1750000000] ∧
          ∀ pass ∈ taken, ∀ request response time,
            pass.turn = .made request (.answered response) time →
              (searchBudget standard.settings).Keeps standard.calendar response.headers time
                (pass.turn.pause standard pass.url) := by
  constructor
  · obtain ⟨taken, deeds, keeps⟩ := resolve_pauses Rehearsal.Server.network standard "o/p"
      ⟨sparing "/repos/o/p" "1750000100", []⟩
    refine ⟨taken, ?_, ?_⟩
    · rw [List.nil_append] at deeds
      rw [← deeds]
      decide +kernel
    · intro pass within isBase request response time made
      obtain ⟨owner, name, step, parts, ⟨base, located, isStep⟩, -, budgets⟩ := keeps pass within
      refine (budgets request response time made).1 fun shown => ?_
      obtain ⟨owner', name', parts', spelled⟩ := repositoryUrl?_eq_some located
      cases parts.symm.trans parts'
      have pair := Address.isPair_of_ownerAndName? parts
      have search := (isSearch_url pair.ofOwner.1 pair.ofName.1 spelled step).2 shown
      rw [← isStep, isBase] at search
      exact absurd search (by decide)
  · obtain ⟨taken, deeds, keeps⟩ := resolve_pauses Rehearsal.Server.network standard "search/demo"
      ⟨sparing "/repos/search/demo" "1750000100", []⟩
    refine ⟨taken, ?_, ?_⟩
    · rw [List.nil_append] at deeds
      rw [← deeds]
      decide +kernel
    · intro pass within request response time made
      obtain ⟨owner, name, step, parts, -, -, budgets⟩ := keeps pass within
      have found : Address.ownerAndName? "search/demo".toList =
          some ("search".toList, "demo".toList) := by decide
      cases found.symm.trans parts
      exact (budgets request response time made).2 (.inr (.inl rfl))

/-- **A project whose owner is called `search` is looked up by the budget of the search endpoints**:
fewer requests are left than the floor, and the client does not wait. For an ordinary project, too,
it does not wait if the reset is beyond the calendar. -/
theorem resolve_pauses_search :
    ((resolve Rehearsal.Server.network.journaled standard "search/demo"
        ⟨sparing "/repos/search/demo" "1750000100", []⟩).2.deeds =
          [.sent (requestFor "/repos/search/demo") (.answered (spent "1750000100")) 1750000000] ∧
      ¬(coreBudget standard.settings).Keeps standard.calendar (spent "1750000100").headers
        1750000000 .none) ∧
      (resolve Rehearsal.Server.network.journaled standard "o/p"
        ⟨sparing "/repos/o/p" "10000000000000", []⟩).2.deeds =
          [.sent (requestFor "/repos/o/p") (.answered (spent "10000000000000")) 1750000000] := by
  refine ⟨⟨by decide +kernel, fun keeps => ?_⟩, by decide +kernel⟩
  have told : standard.calendar.Tells 1750000000 1750000100 60 :=
    (Calendar.tells_iff (by decide) (by decide) (by decide)).2 (by decide)
  obtain ⟨seconds, waits⟩ := keeps.waits_iff.2
    ⟨1750000100, ⟨99, by decide +kernel, by decide +kernel, by decide⟩, told⟩
  cases waits

end Client

end Host

end SourceIndex
