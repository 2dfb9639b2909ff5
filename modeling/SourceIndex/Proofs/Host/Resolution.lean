import Mathlib.Data.List.Forall2
import SourceIndex.Proofs.Host.Retries

/-!
# How a lookup ends

A lookup makes up to three requests in this order: for the repository, for the head of its default
branch, and for the file tree of that head. The URL of each is made of what the one before it told.
Each request can be sent several times, and the last turn that is taken at it decides whether it
told something, whether there is nothing, or whether it failed (`Client.Gets`).

That there is nothing means that there is no such project if it is said of the repository, and it is
a failure if it is said of the branch or of the tree. `Client.Lookup` says how a lookup ends and
which turns it takes; no request comes after one that did not tell what was asked for, and none after
an answer at which the client stops.

Main statements: every lookup ends in one of these ways (`Client.exists_lookup`), which determines
what it gives and leaves in the journal (`Client.Lookup.resolve_eq`); it finds no project exactly if
the address spells none or there is no repository (`Client.Lookup.eq_none_iff`); what it finds is
complete (`Client.Complete`, `Client.Lookup.eq_some_iff`); and it ends with the client exactly if the
client stops after one of its turns (`Client.Lookup.eq_stopped_iff`).
-/

set_option autoImplicit false

namespace SourceIndex.Host

variable {ν α : Type}

/-! ## What a turn tells -/

/-- The answer says that there is nothing. -/
inductive Turn.IsMissing : Turn → Prop where
  | intro (request : Request) {response : Response} (time : Int) (absent : response.status = 404) :
    IsMissing (.made request (.answered response) time)

/-- The answer says that the request succeeded, and its body spells a value. -/
inductive Turn.Tells : Turn → Answer → Prop where
  | intro (request : Request) {response : Response} (time : Int) {value : Answer}
      (success : 200 ≤ response.status ∧ response.status < 300)
      (parsed : Answer.parse? response.body = some value) :
    Tells (.made request (.answered response) time) value

section

variable {client : Client} {decode : Answer → Option α} {url : String} {turn : Turn}

/-- An answer after which the client goes on means what its status and its body say. -/
theorem Turn.ending_answered {request : Request} {response : Response} {time : Int}
    (goesOn : client.pause url response.headers time ≠ .stop) :
    Turn.ending client decode url (.made request (.answered response) time) =
      match Client.judge decode url response with
      | .settled result => .returned result
      | .failed chain => .returned (.error chain)
      | .stopped => .stopped := by
  rw [Turn.ending, Turn.outcome, Turn.goesOn_iff.2 goesOn]
  rfl

/-- How a request ends is decided by its last turn. -/
theorem Decides.ending_eq {ending : Ending (Except Chain (Option α))}
    (decides : Decides client decode url turn ending) :
    turn.ending client decode url = ending := by
  cases decides with
  | decoded request response time goesOn success parsed decodes =>
    have succeeds : Status.isSuccess response.status = true := by simpa [Status.isSuccess]
    simp only [Turn.ending_answered goesOn, Client.judge, if_pos succeeds, Client.readBody, parsed,
      Option.bind_some, decodes]
  | undecodable request response time goesOn success odd =>
    have succeeds : Status.isSuccess response.status = true := by simpa [Status.isSuccess]
    simp only [Turn.ending_answered goesOn, Client.judge, if_pos succeeds, Client.readBody]
    split
    · next read readable =>
      obtain ⟨value, parsed, decodes⟩ := Option.bind_eq_some_iff.1 readable
      exact absurd decodes (odd value read parsed)
    · rfl
  | missing request response time goesOn absent =>
    simp [Turn.ending_answered goesOn, Client.judge, Status.isSuccess, Status.isMissing, absent]
  | refused request response time goesOn unsuccessful present alive =>
    simp [Turn.ending_answered goesOn, Client.judge, Status.isSuccess, Status.isMissing,
      Status.isServerError, unsuccessful, present, alive]
  | down request response time goesOn dead =>
    have unsuccessful : ¬(200 ≤ response.status ∧ response.status < 300) := by omega
    have present : response.status ≠ 404 := by omega
    simp [Turn.ending_answered goesOn, Client.judge, Status.isSuccess, Status.isMissing,
      Status.isServerError, unsuccessful, present, dead]
  | lost request reasons time => rfl
  | unmade chain => rfl
  | stopped request response time stops =>
    rw [Turn.ending, Turn.outcome, Turn.stops_iff.2 stops]

namespace Turn

/-- A request ends without a value exactly if its last answer says that there is nothing and the
client goes on after it. -/
theorem ending_eq_none_iff :
    turn.ending client decode url = .returned (.ok none) ↔
      turn.IsMissing ∧ turn.stops client url = false := by
  constructor
  · intro empty
    have decides : Decides client decode url turn (turn.ending client decode url) :=
      decides_ending turn
    rw [empty] at decides
    cases decides with
    | missing request response time goesOn absent =>
      exact ⟨.intro request time absent, goesOn_iff.2 goesOn⟩
  · rintro ⟨⟨request, time, absent⟩, goesOn⟩
    exact (Decides.missing request _ time (goesOn_iff.1 goesOn) absent).ending_eq

/-- A request ends with a value exactly if its last answer tells it and the client goes on after
it. -/
theorem ending_eq_some_iff {read : α} :
    turn.ending client decode url = .returned (.ok (some read)) ↔
      (∃ value, turn.Tells value ∧ decode value = some read) ∧ turn.stops client url = false := by
  constructor
  · intro full
    have decides : Decides client decode url turn (turn.ending client decode url) :=
      decides_ending turn
    rw [full] at decides
    cases decides with
    | decoded request response time goesOn success parsed decodes =>
      exact ⟨⟨_, .intro request time success parsed, decodes⟩, goesOn_iff.2 goesOn⟩
  · rintro ⟨⟨_, ⟨request, time, success, parsed⟩, decodes⟩, goesOn⟩
    exact (Decides.decoded request _ time (goesOn_iff.1 goesOn) success parsed decodes).ending_eq

end Turn

end

/-! ## The entries of a file tree -/

namespace Tree

/-- The entries that an answer with a file tree lists, in its order. An answer that is an array has
them in its first item. -/
def entries : Answer → List Answer
  | .object members =>
    match members.find? fun member => member.1 == some "tree" with
    | some (_, .list items) => items
    | _ => []
  | .list (.list items :: _) => items
  | _ => []

/-- What was read from each item of a list was read from one after another. -/
theorem forall₂_of_mapM {β : Type} {read : α → Option β} {items : List α} {values : List β}
    (all : items.mapM read = some values) :
    List.Forall₂ (fun item value => read item = some value) items values := by
  induction items generalizing values with
  | nil =>
    cases all
    exact .nil
  | cons item rest ih =>
    rw [List.mapM_cons] at all
    obtain ⟨first, here, all⟩ := Option.bind_eq_some_iff.1 all
    obtain ⟨others, there, all⟩ := Option.bind_eq_some_iff.1 all
    cases all
    exact .cons here (ih there)

/-- Looking a key up among the members that have texts for keys finds the first with this key. -/
theorem lookup_filterMap (name : String) (members : List (Option String × Answer)) :
    (members.filterMap fun member => member.1.map fun key => (key, member.2)).lookup name =
      (members.find? fun member => member.1 == some name).map Prod.snd := by
  induction members with
  | nil => rfl
  | cons member rest ih =>
    rcases member with ⟨_ | key, value⟩
    · simpa using ih
    · by_cases same : key = name
      · subst same
        simp
      · have apart : (name == key) = false := by simpa using Ne.symm same
        rw [List.filterMap_cons, Option.map_some, List.lookup_cons, apart,
          List.find?_cons_of_neg (by simpa using same)]
        exact ih

/-- The field with the entries of a file tree has those that are listed. -/
theorem entries_of_fields? {value : Answer} {fields : Answer.Fields} {items : List Answer}
    (record : value.fields? ["tree", "truncated"] = some fields)
    (listed : fields.needed? "tree" Answer.items? = some items) : entries value = items := by
  obtain ⟨field, found, isList⟩ := Option.bind_eq_some_iff.1 listed
  cases field with
  | list listed =>
    cases isList
    cases value with
    | object members =>
      obtain ⟨-, same⟩ := Option.ite_none_right_eq_some.1 record
      cases same
      rw [lookup_filterMap] at found
      obtain ⟨⟨key, value⟩, first, rest⟩ := Option.map_eq_some_iff.1 found
      cases rest
      rw [entries, first]
    | list values =>
      obtain ⟨-, same⟩ := Option.ite_none_right_eq_some.1 record
      cases same
      cases values with
      | nil => cases found
      | cons item rest =>
        cases found
        rfl
    | _ => cases record
  | _ => cases isList

/-- A file tree that was read has a file for each entry, in the order of the entries. -/
theorem entries_of_of? {value : Answer} {tree : Tree} (decodes : of? value = some tree) :
    List.Forall₂ (fun entry file => fileOf? entry = some file) (entries value) tree.files := by
  obtain ⟨fields, record, decodes⟩ := Option.bind_eq_some_iff.1 decodes
  obtain ⟨items, listed, decodes⟩ := Option.bind_eq_some_iff.1 decodes
  obtain ⟨files, all, decodes⟩ := Option.bind_eq_some_iff.1 decodes
  obtain ⟨truncated, flagged, decodes⟩ := Option.bind_eq_some_iff.1 decodes
  cases decodes
  rw [entries_of_fields? record listed]
  exact forall₂_of_mapM all

end Tree

namespace Client

variable (network : Network ν) (client : Client)

/-! ## One request -/

/-- A request for a URL that starts in a state of the network takes these turns, of which the given
one is the last, and leaves the network in another state. -/
inductive Ends (url : String) (before : ν) : Turn → List Pass → ν → Prop where
  | intro {last : Nat}
      (isLast : IsLast (openAt network client url before) client.settings.maxRetries last) :
    Ends url before (turnAt network client url before last)
      (passes network client url before (last + 1)) (stateAt network client url before (last + 1))

/-- How a request for a URL ends, and the turns that it takes. -/
inductive Gets (decode : Answer → Option α) (url : String) (before : ν) :
    Ending (Except Chain (Option α)) → List Pass → ν → Prop where
  | missing {turn : Turn} {taken : List Pass} {after : ν}
      (ends : Ends network client url before turn taken after) (isMissing : turn.IsMissing)
      (goesOn : turn.stops client url = false) :
    Gets decode url before (.returned (.ok none)) taken after
  | failed {turn : Turn} {taken : List Pass} {after : ν} {chain : Chain}
      (ends : Ends network client url before turn taken after)
      (decides : Decides client decode url turn (.returned (.error chain))) :
    Gets decode url before (.returned (.error chain)) taken after
  | told {turn : Turn} {taken : List Pass} {after : ν} {value : Answer} {read : α}
      (ends : Ends network client url before turn taken after) (tells : turn.Tells value)
      (decodes : decode value = some read) (goesOn : turn.stops client url = false) :
    Gets decode url before (.returned (.ok (some read))) taken after
  | stopped {turn : Turn} {taken : List Pass} {after : ν}
      (ends : Ends network client url before turn taken after)
      (stops : turn.stops client url = true) :
    Gets decode url before .stopped taken after

variable {network client} {decode : Answer → Option α} {url : String}
variable {before after last : ν} {taken others : List Pass}

theorem Ends.unique {turn other : Turn} (ends : Ends network client url before turn taken after)
    (endsToo : Ends network client url before other others last) :
    turn = other ∧ taken = others ∧ after = last := by
  obtain ⟨isLast⟩ := ends
  obtain ⟨isLastToo⟩ := endsToo
  cases isLast.unique isLastToo
  exact ⟨rfl, rfl, rfl⟩

/-- The client stops after one of the turns exactly if it stops after the last one. -/
theorem Ends.stops_iff {turn : Turn} (ends : Ends network client url before turn taken after) :
    turn.stops client url = true ↔
      ∃ pass ∈ taken, pass.turn.stops client pass.url = true := by
  obtain @⟨last, isLast⟩ := ends
  constructor
  · intro stops
    exact ⟨_, List.mem_map_of_mem (List.mem_range.2 (Nat.lt_succ_self last)), stops⟩
  · rintro ⟨pass, within, stops⟩
    obtain ⟨sent, early, rfl⟩ := List.mem_map.1 within
    rcases Nat.lt_succ_iff_lt_or_eq.1 (List.mem_range.1 early) with earlier | rfl
    · have isOpen := isLast.earlier sent earlier
      rw [openAt, Turn.isOpen, stops] at isOpen
      simp at isOpen
    · exact stops

/-- Every request ends. -/
theorem exists_gets (network : Network ν) (client : Client) (decode : Answer → Option α)
    (url : String) (before : ν) :
    ∃ ending taken after, Gets network client decode url before ending taken after := by
  obtain ⟨last, isLast, -⟩ := get_eq network client decode url before
  have ends := Ends.intro isLast
  have decides : Decides client decode url (turnAt network client url before last) _ :=
    decides_ending (turnAt network client url before last)
  rcases ended : (turnAt network client url before last).ending client decode url with
    (chain | _ | read) | _
  · rw [ended] at decides
    exact ⟨_, _, _, .failed ends decides⟩
  · obtain ⟨isMissing, goesOn⟩ := Turn.ending_eq_none_iff.1 ended
    exact ⟨_, _, _, .missing ends isMissing goesOn⟩
  · obtain ⟨⟨value, tells, decodes⟩, goesOn⟩ := Turn.ending_eq_some_iff.1 ended
    exact ⟨_, _, _, .told ends tells decodes goesOn⟩
  · exact ⟨_, _, _, .stopped ends (Turn.ending_eq_stopped_iff.1 ended)⟩

section

variable {ending : Ending (Except Chain (Option α))}

/-- A request ends as its last turn decides. -/
theorem Gets.exists_ends (gets : Gets network client decode url before ending taken after) :
    ∃ turn, Ends network client url before turn taken after ∧
      turn.ending client decode url = ending := by
  cases gets with
  | missing ends isMissing goesOn =>
    exact ⟨_, ends, Turn.ending_eq_none_iff.2 ⟨isMissing, goesOn⟩⟩
  | failed ends decides => exact ⟨_, ends, decides.ending_eq⟩
  | told ends tells decodes goesOn =>
    exact ⟨_, ends, Turn.ending_eq_some_iff.2 ⟨⟨_, tells, decodes⟩, goesOn⟩⟩
  | stopped ends stops => exact ⟨_, ends, Turn.ending_eq_stopped_iff.2 stops⟩

/-- A request ends with the client exactly if the client stops after one of its turns. -/
theorem Gets.eq_stopped_iff (gets : Gets network client decode url before ending taken after) :
    ending = .stopped ↔ ∃ pass ∈ taken, pass.turn.stops client pass.url = true := by
  obtain ⟨turn, ends, rfl⟩ := gets.exists_ends
  rw [Turn.ending_eq_stopped_iff, ends.stops_iff]

/-- A request leaves the turns that it takes in the journal. -/
theorem Gets.get_eq (gets : Gets network client decode url before ending taken after)
    (deeds : List Deed) :
    get network.journaled client decode url ⟨before, deeds⟩ =
      (ending, ⟨after, deeds ++ taken.flatMap (Pass.deeds client)⟩) := by
  obtain ⟨found, isLast, got⟩ := get_journaled network client url ⟨before, deeds⟩ decode
  obtain ⟨turn, ends, rfl⟩ := gets.exists_ends
  obtain ⟨rfl, rfl, rfl⟩ := ends.unique (.intro isLast)
  exact got

/-- The same behind turns that were taken before. -/
theorem Gets.get_eq_behind (gets : Gets network client decode url before ending taken after)
    (deeds : List Deed) (earlier : List Pass) :
    get network.journaled client decode url
        ⟨before, deeds ++ earlier.flatMap (Pass.deeds client)⟩ =
      (ending, ⟨after, deeds ++ (earlier ++ taken).flatMap (Pass.deeds client)⟩) := by
  rw [gets.get_eq, List.append_assoc, List.flatMap_append]

end

/-! ## Three requests -/

variable (network client) (address : String)

/-- The service says that there is no repository of the project. -/
inductive Absent (before : ν) : Prop where
  | intro {base : String} {turn : Turn} {taken : List Pass} {after : ν}
      (located : repositoryUrl? client.settings address = some base)
      (ends : Ends network client (Step.url base .repository) before turn taken after)
      (isMissing : turn.IsMissing)
      (goesOn : turn.stops client (Step.url base .repository) = false) : Absent before

/-- The service told the repository of the project. -/
inductive Described (before : ν) : String → String → Repository → List Pass → ν → Prop where
  | intro {projectId base : String} {repository : Repository} {taken : List Pass} {after : ν}
      (spelled : Address.projectId? address = some projectId)
      (located : repositoryUrl? client.settings address = some base)
      (gets : Gets network client Repository.of? (Step.url base .repository) before
        (.returned (.ok (some repository))) taken after) :
    Described before projectId base repository taken after

/-- The service told the repository, and then the head of its default branch. -/
inductive Headed (before : ν) : String → String → Repository → String → List Pass → ν → Prop where
  | intro {projectId base head : String} {repository : Repository} {earlier taken : List Pass}
      {between after : ν}
      (described : Described network client address before projectId base repository earlier between)
      (gets : Gets network client headOf? (Step.url base (.branch repository.defaultBranch))
        between (.returned (.ok (some head))) taken after) :
    Headed before projectId base repository head (earlier ++ taken) after

/-- The service told the repository, the head of its default branch, and then the file tree of the
head. Each entry of the tree is a file of the project, in the order of the entries. -/
inductive Complete (before : ν) : List Pass → RemoteProject → Prop where
  | intro {projectId base head : String} {repository : Repository} {earlier taken : List Pass}
      {between after : ν} {turn : Turn} {value : Answer} {tree : Tree}
      (headed : Headed network client address before projectId base repository head earlier between)
      (ends : Ends network client (Step.url base (.tree head)) between turn taken after)
      (tells : turn.Tells value) (decodes : Tree.of? value = some tree)
      (goesOn : turn.stops client (Step.url base (.tree head)) = false)
      (entries : List.Forall₂ (fun entry file => fileOf? entry = some file)
        (Tree.entries value) tree.files) :
    Complete before (earlier ++ taken) ⟨projectOf projectId repository, tree.files⟩

/-- A request of the lookup did not tell what was asked for, which is an error. No request comes
after it. -/
inductive Fails (before : ν) : List Pass → Chain → Prop where
  | undescribed {base : String} {taken : List Pass} {after : ν} {chain : Chain}
      (located : repositoryUrl? client.settings address = some base)
      (gets : Gets network client Repository.of? (Step.url base .repository) before
        (.returned (.error chain)) taken after) :
    Fails before taken chain
  /-- The service says that there is no default branch. -/
  | branchless {projectId base : String} {repository : Repository} {earlier taken : List Pass}
      {between after : ν}
      (described : Described network client address before projectId base repository earlier between)
      (gets : Gets network client headOf? (Step.url base (.branch repository.defaultBranch))
        between (.returned (.ok none)) taken after) :
    Fails before (earlier ++ taken)
      ["default branch " ++ repository.defaultBranch ++ " of " ++ projectId ++ " not found"]
  | headless {projectId base : String} {repository : Repository} {earlier taken : List Pass}
      {between after : ν} {chain : Chain}
      (described : Described network client address before projectId base repository earlier between)
      (gets : Gets network client headOf? (Step.url base (.branch repository.defaultBranch))
        between (.returned (.error chain)) taken after) :
    Fails before (earlier ++ taken) chain
  /-- The service says that there is no file tree of the head. -/
  | treeless {projectId base head : String} {repository : Repository} {earlier taken : List Pass}
      {between after : ν}
      (headed : Headed network client address before projectId base repository head earlier between)
      (gets : Gets network client Tree.of? (Step.url base (.tree head)) between
        (.returned (.ok none)) taken after) :
    Fails before (earlier ++ taken) ["tree " ++ head ++ " of " ++ projectId ++ " not found"]
  | unlisted {projectId base head : String} {repository : Repository} {earlier taken : List Pass}
      {between after : ν} {chain : Chain}
      (headed : Headed network client address before projectId base repository head earlier between)
      (gets : Gets network client Tree.of? (Step.url base (.tree head)) between
        (.returned (.error chain)) taken after) :
    Fails before (earlier ++ taken) chain

/-- The client stops after a turn of the lookup. No request comes after it. -/
inductive Halts (before : ν) : List Pass → Prop where
  | undescribed {base : String} {taken : List Pass} {after : ν}
      (located : repositoryUrl? client.settings address = some base)
      (gets : Gets network client Repository.of? (Step.url base .repository) before .stopped taken
        after) :
    Halts before taken
  | headless {projectId base : String} {repository : Repository} {earlier taken : List Pass}
      {between after : ν}
      (described : Described network client address before projectId base repository earlier between)
      (gets : Gets network client headOf? (Step.url base (.branch repository.defaultBranch))
        between .stopped taken after) :
    Halts before (earlier ++ taken)
  | unlisted {projectId base head : String} {repository : Repository} {earlier taken : List Pass}
      {between after : ν}
      (headed : Headed network client address before projectId base repository head earlier between)
      (gets : Gets network client Tree.of? (Step.url base (.tree head)) between .stopped taken
        after) :
    Halts before (earlier ++ taken)

/-- How the lookup of an address can end, with the turns that it takes. -/
inductive Lookup (before : ν) :
    List Pass → Ending (Except Chain (Option RemoteProject)) → Prop where
  | unnamed (unnamed : Address.projectId? address = none) :
      Lookup before [] (.returned (.ok none))
  | absent {base : String} {taken : List Pass} {after : ν}
      (located : repositoryUrl? client.settings address = some base)
      (gets : Gets network client Repository.of? (Step.url base .repository) before
        (.returned (.ok none)) taken after) :
    Lookup before taken (.returned (.ok none))
  | failed {taken : List Pass} {chain : Chain}
      (fails : Fails network client address before taken chain) :
    Lookup before taken (.returned (.error chain))
  | complete {taken : List Pass} {remote : RemoteProject}
      (complete : Complete network client address before taken remote) :
    Lookup before taken (.returned (.ok (some remote)))
  | stopped {taken : List Pass} (halts : Halts network client address before taken) :
    Lookup before taken .stopped

variable {network client address}

theorem Complete.id_eq {remote : RemoteProject}
    (complete : Complete network client address before taken remote) :
    Address.projectId? address = some remote.project.id := by
  obtain ⟨⟨⟨spelled, -, -⟩, -⟩, -, -, -, -, -⟩ := complete
  exact spelled

section

variable {projectId base head : String} {repository : Repository}

theorem Headed.exists_lookup
    (headed : Headed network client address before projectId base repository head taken after) :
    ∃ taken ending, Lookup network client address before taken ending := by
  obtain ⟨ending, more, last, gets⟩ :=
    exists_gets network client Tree.of? (Step.url base (.tree head)) after
  cases gets with
  | missing ends isMissing goesOn =>
    exact ⟨_, _, .failed (.treeless headed (.missing ends isMissing goesOn))⟩
  | failed ends decides => exact ⟨_, _, .failed (.unlisted headed (.failed ends decides))⟩
  | told ends tells decodes goesOn =>
    exact ⟨_, _, .complete (.intro headed ends tells decodes goesOn (Tree.entries_of_of? decodes))⟩
  | stopped ends stops => exact ⟨_, _, .stopped (.unlisted headed (.stopped ends stops))⟩

theorem Described.exists_lookup
    (described : Described network client address before projectId base repository taken after) :
    ∃ taken ending, Lookup network client address before taken ending := by
  obtain ⟨ending, more, last, gets⟩ := exists_gets network client headOf?
    (Step.url base (.branch repository.defaultBranch)) after
  rcases ending with (chain | _ | head) | _
  · exact ⟨_, _, .failed (.headless described gets)⟩
  · exact ⟨_, _, .failed (.branchless described gets)⟩
  · exact (Headed.intro described gets).exists_lookup
  · exact ⟨_, _, .stopped (.headless described gets)⟩

end

/-- **Every lookup ends in one of these ways.** -/
theorem exists_lookup (network : Network ν) (client : Client) (address : String) (before : ν) :
    ∃ taken ending, Lookup network client address before taken ending := by
  cases spelled : Address.projectId? address with
  | none => exact ⟨_, _, .unnamed spelled⟩
  | some projectId =>
    obtain ⟨base, located⟩ : ∃ base, repositoryUrl? client.settings address = some base := by
      rw [repositoryUrl?, spelled]
      exact ⟨_, rfl⟩
    obtain ⟨ending, taken, after, gets⟩ :=
      exists_gets network client Repository.of? (Step.url base .repository) before
    rcases ending with (chain | _ | repository) | _
    · exact ⟨_, _, .failed (.undescribed located gets)⟩
    · exact ⟨_, _, .absent located gets⟩
    · exact (Described.intro spelled located gets).exists_lookup
    · exact ⟨_, _, .stopped (.undescribed located gets)⟩

/-! ## What a lookup gives -/

section

variable {projectId base head : String} {repository : Repository}

theorem Described.resolve_eq
    (described : Described network client address before projectId base repository taken after)
    (deeds : List Deed) :
    resolve network.journaled client address ⟨before, deeds⟩ =
      resolveBranch network.journaled client projectId base repository
        ⟨after, deeds ++ taken.flatMap (Pass.deeds client)⟩ := by
  obtain ⟨spelled, located, gets⟩ := described
  have got := gets.get_eq deeds
  rw [Step.url] at got
  simp only [resolve, spelled, located, got]

theorem Headed.resolve_eq
    (headed : Headed network client address before projectId base repository head taken after)
    (deeds : List Deed) :
    resolve network.journaled client address ⟨before, deeds⟩ =
      resolveTree network.journaled client projectId base head repository
        ⟨after, deeds ++ taken.flatMap (Pass.deeds client)⟩ := by
  cases headed with
  | @intro _ _ earlier _ _ _ described gets =>
    have got := gets.get_eq_behind deeds earlier
    rw [Step.url] at got
    rw [described.resolve_eq]
    simp only [resolveBranch, got]

theorem projectId?_of_located (located : repositoryUrl? client.settings address = some base) :
    ∃ projectId, Address.projectId? address = some projectId := by
  obtain ⟨projectId, spelled, -⟩ := Option.map_eq_some_iff.1 located
  exact ⟨projectId, spelled⟩

end

theorem Fails.resolve_eq {chain : Chain} (fails : Fails network client address before taken chain)
    (deeds : List Deed) :
    ∃ after, resolve network.journaled client address ⟨before, deeds⟩ =
      (.returned (.error chain), ⟨after, deeds ++ taken.flatMap (Pass.deeds client)⟩) := by
  cases fails with
  | @undescribed base _ after _ located gets =>
    obtain ⟨projectId, spelled⟩ := projectId?_of_located located
    have got := gets.get_eq deeds
    rw [Step.url] at got
    exact ⟨after, by simp only [resolve, spelled, located, got]⟩
  | @branchless _ _ _ earlier _ _ after described gets =>
    have got := gets.get_eq_behind deeds earlier
    rw [Step.url] at got
    rw [described.resolve_eq]
    exact ⟨after, by simp only [resolveBranch, got]⟩
  | @headless _ _ _ earlier _ _ after _ described gets =>
    have got := gets.get_eq_behind deeds earlier
    rw [Step.url] at got
    rw [described.resolve_eq]
    exact ⟨after, by simp only [resolveBranch, got]⟩
  | @treeless _ _ _ _ earlier _ _ after headed gets =>
    have got := gets.get_eq_behind deeds earlier
    rw [Step.url] at got
    rw [headed.resolve_eq]
    exact ⟨after, by simp only [resolveTree, got]⟩
  | @unlisted _ _ _ _ earlier _ _ after _ headed gets =>
    have got := gets.get_eq_behind deeds earlier
    rw [Step.url] at got
    rw [headed.resolve_eq]
    exact ⟨after, by simp only [resolveTree, got]⟩

theorem Halts.resolve_eq (halts : Halts network client address before taken)
    (deeds : List Deed) :
    ∃ after, resolve network.journaled client address ⟨before, deeds⟩ =
      (.stopped, ⟨after, deeds ++ taken.flatMap (Pass.deeds client)⟩) := by
  cases halts with
  | @undescribed base _ after located gets =>
    obtain ⟨projectId, spelled⟩ := projectId?_of_located located
    have got := gets.get_eq deeds
    rw [Step.url] at got
    exact ⟨after, by simp only [resolve, spelled, located, got]⟩
  | @headless _ _ _ earlier _ _ after described gets =>
    have got := gets.get_eq_behind deeds earlier
    rw [Step.url] at got
    rw [described.resolve_eq]
    exact ⟨after, by simp only [resolveBranch, got]⟩
  | @unlisted _ _ _ _ earlier _ _ after headed gets =>
    have got := gets.get_eq_behind deeds earlier
    rw [Step.url] at got
    rw [headed.resolve_eq]
    exact ⟨after, by simp only [resolveTree, got]⟩

theorem Complete.resolve_eq {remote : RemoteProject}
    (complete : Complete network client address before taken remote) (deeds : List Deed) :
    ∃ after, resolve network.journaled client address ⟨before, deeds⟩ =
      (.returned (.ok (some remote)),
        ⟨after, deeds ++ taken.flatMap (Pass.deeds client)⟩) := by
  cases complete with
  | @intro _ _ _ _ earlier _ _ after _ _ _ headed ends tells decodes goesOn _ =>
    have got := (Gets.told ends tells decodes goesOn).get_eq_behind deeds earlier
    rw [Step.url] at got
    rw [headed.resolve_eq]
    exact ⟨after, by simp only [resolveTree, got]⟩

section

variable {ending other : Ending (Except Chain (Option RemoteProject))}

/-- **A lookup gives what the way says in which it ends**, and its journal has the turns that it
takes and no others. -/
theorem Lookup.resolve_eq (lookup : Lookup network client address before taken ending)
    (deeds : List Deed) :
    ∃ after, resolve network.journaled client address ⟨before, deeds⟩ =
      (ending, ⟨after, deeds ++ taken.flatMap (Pass.deeds client)⟩) := by
  cases lookup with
  | unnamed unnamed => exact ⟨before, by simp [resolve, unnamed]⟩
  | @absent base _ after located gets =>
    obtain ⟨projectId, spelled⟩ := projectId?_of_located located
    have got := gets.get_eq deeds
    rw [Step.url] at got
    exact ⟨after, by simp only [resolve, spelled, located, got]⟩
  | failed fails => exact fails.resolve_eq deeds
  | complete complete => exact complete.resolve_eq deeds
  | stopped halts => exact halts.resolve_eq deeds

theorem Lookup.unique (lookup : Lookup network client address before taken ending)
    (lookupToo : Lookup network client address before others other) : ending = other := by
  obtain ⟨after, resolved⟩ := lookup.resolve_eq []
  obtain ⟨last, resolvedToo⟩ := lookupToo.resolve_eq []
  exact congrArg Prod.fst (resolved.symm.trans resolvedToo)

/-- A lookup finds no project exactly if the address spells none or the service says that there is
no repository. -/
theorem Lookup.eq_none_iff (lookup : Lookup network client address before taken ending) :
    ending = .returned (.ok none) ↔
      Address.projectId? address = none ∨ Absent network client address before := by
  constructor
  · rintro rfl
    cases lookup with
    | unnamed unnamed => exact .inl unnamed
    | absent located gets =>
      cases gets with
      | missing ends isMissing goesOn => exact .inr (.intro located ends isMissing goesOn)
  · rintro (unnamed | ⟨located, ends, isMissing, goesOn⟩)
    · exact lookup.unique (.unnamed unnamed)
    · exact lookup.unique (.absent located (.missing ends isMissing goesOn))

/-- What a lookup finds is complete. -/
theorem Lookup.eq_some_iff {remote : RemoteProject}
    (lookup : Lookup network client address before taken ending) :
    ending = .returned (.ok (some remote)) ↔
      Complete network client address before taken remote := by
  constructor
  · rintro rfl
    cases lookup with
    | complete complete => exact complete
  · exact fun complete => lookup.unique (.complete complete)

end

/-! ### Stopping -/

section

variable {projectId base head : String} {repository : Repository}

/-- The client goes on after all turns. -/
def GoOn (client : Client) (taken : List Pass) : Prop :=
  ∀ pass ∈ taken, pass.turn.stops client pass.url = false

theorem Gets.goOn {result : Except Chain (Option α)}
    (gets : Gets network client decode url before (.returned result) taken after) :
    GoOn client taken := by
  intro pass within
  by_contra stops
  cases gets.eq_stopped_iff.2 ⟨pass, within, Bool.of_not_eq_false stops⟩

theorem GoOn.append (first : GoOn client taken) (second : GoOn client others) :
    GoOn client (taken ++ others) :=
  List.forall_mem_append.2 ⟨first, second⟩

theorem Described.goOn
    (described : Described network client address before projectId base repository taken after) :
    GoOn client taken := by
  obtain ⟨-, -, gets⟩ := described
  exact gets.goOn

theorem Headed.goOn
    (headed : Headed network client address before projectId base repository head taken after) :
    GoOn client taken := by
  obtain ⟨described, gets⟩ := headed
  exact described.goOn.append gets.goOn

theorem Lookup.goOn {result : Except Chain (Option RemoteProject)}
    (lookup : Lookup network client address before taken (.returned result)) :
    GoOn client taken := by
  cases lookup with
  | unnamed _ => exact nofun
  | absent _ gets => exact gets.goOn
  | failed fails =>
    cases fails with
    | undescribed _ gets => exact gets.goOn
    | branchless described gets | headless described gets => exact described.goOn.append gets.goOn
    | treeless headed gets | unlisted headed gets => exact headed.goOn.append gets.goOn
  | complete complete =>
    obtain ⟨headed, ends, tells, decodes, goesOn, -⟩ := complete
    exact headed.goOn.append (Gets.told ends tells decodes goesOn).goOn

theorem Halts.exists_stops (halts : Halts network client address before taken) :
    ∃ pass ∈ taken, pass.turn.stops client pass.url = true := by
  cases halts with
  | undescribed _ gets => exact gets.eq_stopped_iff.1 rfl
  | headless _ gets | unlisted _ gets =>
    obtain ⟨pass, within, stops⟩ := gets.eq_stopped_iff.1 rfl
    exact ⟨pass, List.mem_append_right _ within, stops⟩

/-- **A lookup ends with the client exactly if the client stops after one of its turns.** -/
theorem Lookup.eq_stopped_iff {ending : Ending (Except Chain (Option RemoteProject))}
    (lookup : Lookup network client address before taken ending) :
    ending = .stopped ↔ ∃ pass ∈ taken, pass.turn.stops client pass.url = true := by
  constructor
  · rintro rfl
    cases lookup with
    | stopped halts => exact halts.exists_stops
  · rintro ⟨pass, within, stops⟩
    cases ending with
    | returned result =>
      rw [lookup.goOn pass within] at stops
      cases stops
    | stopped => rfl

end

/-! ## Without the journal -/

section

variable (network : Network ν) (client : Client) (projectId base head : String)
variable (repository : Repository) (journal : Journal ν)

theorem resolveTree_plain :
    (resolveTree network.journaled client projectId base head repository journal).map id
        Journal.world =
      resolveTree network client projectId base head repository journal.world := by
  unfold resolveTree
  dsimp only
  rw [← get_plain]
  rcases get network.journaled client Tree.of? _ journal with ⟨(chain | _ | tree) | _, after⟩ <;> rfl

theorem resolveBranch_plain :
    (resolveBranch network.journaled client projectId base repository journal).map id
        Journal.world =
      resolveBranch network client projectId base repository journal.world := by
  unfold resolveBranch
  dsimp only
  rw [← get_plain]
  rcases get network.journaled client headOf? _ journal with ⟨(chain | _ | head) | _, after⟩
  · rfl
  · rfl
  · exact resolveTree_plain network client projectId base head repository after
  · rfl

/-- **A lookup ends the same way without a journal.** -/
theorem resolve_plain (address : String) :
    (resolve network.journaled client address journal).map id Journal.world =
      resolve network client address journal.world := by
  unfold resolve
  split
  · next projectId base _ _ =>
    rw [← get_plain]
    rcases get network.journaled client Repository.of? base journal with
      ⟨(chain | _ | repository) | _, after⟩
    · rfl
    · rfl
    · exact resolveBranch_plain network client projectId base repository after
    · rfl
  · rfl

end

end Client

end SourceIndex.Host
