import SourceIndex.Address
import SourceIndex.Host.Answer
import SourceIndex.Host.RateLimit
import SourceIndex.Host.Status
import SourceIndex.Host.Url

/-!
# The client of the hosting service

A project is looked up with three requests: for the repository, for the head of its default branch,
and for the complete file tree of that head. A request that gets no answer, or an answer that says
the service failed, is sent again after a wait that doubles from one second up to thirty-two. An
answer that says there is nothing means that there is no such project, but only for the first of the
three requests.

After every answer the client pauses as the rate limit asks for, before it looks at what the answer
says. If it stops there, the answer is lost and nothing comes after it.
-/

set_option autoImplicit false

namespace SourceIndex.Host

variable {ν α : Type}

/-- What the requests of a client have in common. -/
structure Client where
  settings : HostSettings
  /-- The token of the environment. -/
  environment : Option String
  /-- The calendar by which the client announces its waits. -/
  calendar : Calendar

/-- How a task of a client ends. -/
inductive Ending (α : Type) where
  | returned (value : α)
  /-- The client stopped for good. -/
  | stopped
deriving DecidableEq, Repr

/-- What parties of a sync answer if a client does it for them. A client that stops gives no answer
and takes the sync with it. To the sync this is a failure, as which it ends there. -/
def Ending.answer : Ending (Except Chain α) → Except Chain α
  | .returned result => result
  | .stopped => .error ["the client stopped"]

namespace Client

/-- The URL of a project's repository. -/
def repositoryUrl? (settings : HostSettings) (address : String) : Option String :=
  (Address.projectId? address).map fun projectId =>
    Text.onString (Text.dropEndWhile (· == '/')) settings.apiUrl ++ "/repos/" ++ projectId

/-- The wait before a request is sent again, after it was sent `sent` times. -/
def backoff (sent : Nat) : Nat :=
  Nat.pow 2 (min (sent - 1) 5)

/-- Credentials can stand in a header: they have no control characters but the tab. -/
def fitsHeader (text : String) : Bool :=
  text.toList.all fun character =>
    character.toNat = 9 || (32 ≤ character.toNat && character.toNat != 127)

/-- Why a URL is refused that no request can be sent for. -/
def refusal (url : Url) (reason : String) : Chain :=
  ["builder error for url (" ++ url.text ++ ")", reason]

/-- The request for what is at a URL. Credentials in the URL are taken out of it and come before
those of the settings. -/
def request (client : Client) (text : String) : Except Chain Request :=
  let configured := client.settings.authorization client.environment
  match Url.read text with
  | .error fault => .error ["builder error", fault.message]
  | .ok url =>
    let plain := if url.credentials?.isSome then url.withoutCredentials else url
    let own := url.credentials?.map fun pair =>
      "Basic " ++ Base64.encodeString (pair.1 ++ ":" ++ pair.2)
    if !url.isSited then .error (refusal url "URL scheme is not allowed")
    else if !(configured.map fitsHeader).getD true then
      .error ["builder error", "failed to parse header value"]
    else if !url.isWeb then .error (refusal plain "URL scheme is not allowed")
    else if !plain.isSendable then .error (refusal plain "Parsed Url is not a valid Uri")
    else .ok ⟨plain, own.or configured⟩

/-- What the client does after an answer. -/
def pause (client : Client) (url : String) (headers : Headers) (now : Int) : Pause :=
  (Host.pause client.settings url headers now).announced client.calendar now

/-- What came of one request. -/
inductive Attempt (α : Type) where
  /-- The request is settled. -/
  | settled (result : Except Chain (Option α))
  /-- The request may be sent again; this is its failure so far. -/
  | failed (chain : Chain)
  /-- The client stopped after the answer. -/
  | stopped

/-- Reads the body of an answer that says the request succeeded. -/
def readBody (decode : Answer → Option α) (body : Bytes) : Except Chain (Option α) :=
  match (Answer.parse? body).bind decode with
  | some read => .ok (some read)
  | none => .error ["error decoding response body"]

/-- What an answer means for a request. -/
def judge (decode : Answer → Option α) (url : String) (response : Response) : Attempt α :=
  let status := Status.text response.status
  if Status.isSuccess response.status then .settled (readBody decode response.body)
  else if Status.isMissing response.status then .settled (.ok none)
  else if Status.isServerError response.status then
    .failed ["GitHub API error " ++ status ++ ": " ++ Utf8.toStringLossy response.body]
  else
    .settled (.error
      ["GitHub API error " ++ status ++ " for " ++ url ++ ": " ++
        Utf8.toStringLossy response.body])

/-- Sends a request once and pauses afterwards as the answer asks for. -/
def attempt (network : Network ν) (client : Client) (decode : Answer → Option α) (url : String)
    (state : ν) : Attempt α × ν :=
  match client.request url with
  | .error chain => (.failed chain, state)
  | .ok request =>
    match network.send request state with
    | (.lost reasons, after) =>
      (.failed (("error sending request for url (" ++ request.url.text ++ ")") :: reasons), after)
    | (.answered response, after) =>
      match client.pause url response.headers (network.now after) with
      | .none => (judge decode url response, after)
      | .wait seconds => (judge decode url response, network.wait seconds after)
      | .stop => (.stopped, after)

/-- Sends a request that was sent `sent` times already up to `left` more times, until it is settled
or the client stops. The failure of the last time is the result if the request never is settled. -/
def attempts (network : Network ν) (client : Client) (decode : Answer → Option α) (url : String)
    (sent : Nat) (failure : Chain) : Nat → ν → Ending (Except Chain (Option α)) × ν
  | 0, state => (.returned (.error failure), state)
  | left + 1, state =>
    let ready := if sent = 0 then state else network.wait (backoff sent) state
    match attempt network client decode url ready with
    | (.settled result, after) => (.returned result, after)
    | (.failed chain, after) =>
      attempts network client decode url (sent + 1) chain left after
    | (.stopped, after) => (.stopped, after)

/-- Gets what is at a URL; nothing if the service says there is nothing. -/
def get (network : Network ν) (client : Client) (decode : Answer → Option α) (url : String)
    (state : ν) : Ending (Except Chain (Option α)) × ν :=
  attempts network client decode url 0 ["GitHub request failed after retries"]
    (client.settings.maxRetries + 1) state

/-! ## Looking a project up -/

/-- The project that the answers describe. -/
def projectOf (projectId : String) (repository : Repository) : Project :=
  { id := projectId
    defaultBranch := repository.defaultBranch
    url := repository.url
    gitUrl := repository.cloneUrl
    treesUrl := repository.treesUrl
    user := repository.ownerLogin
    name := repository.name }

/-- Looks up the file tree of a repository whose head is known. -/
def resolveTree (network : Network ν) (client : Client) (projectId repositoryUrl head : String)
    (repository : Repository) (state : ν) : Ending (Except Chain (Option RemoteProject)) × ν :=
  let url := repositoryUrl ++ "/git/trees/" ++ head ++ "?recursive=1"
  match get network client Tree.of? url state with
  | (.stopped, after) => (.stopped, after)
  | (.returned (.error chain), after) => (.returned (.error chain), after)
  | (.returned (.ok none), after) =>
    (.returned (.error ["tree " ++ head ++ " of " ++ projectId ++ " not found"]), after)
  | (.returned (.ok (some tree)), after) =>
    (.returned (.ok (some ⟨projectOf projectId repository, tree.files⟩)), after)

/-- Looks up the head of a repository's default branch, and then its file tree. -/
def resolveBranch (network : Network ν) (client : Client) (projectId repositoryUrl : String)
    (repository : Repository) (state : ν) : Ending (Except Chain (Option RemoteProject)) × ν :=
  let url := repositoryUrl ++ "/branches/" ++ repository.defaultBranch
  match get network client headOf? url state with
  | (.stopped, after) => (.stopped, after)
  | (.returned (.error chain), after) => (.returned (.error chain), after)
  | (.returned (.ok none), after) =>
    (.returned (.error
      ["default branch " ++ repository.defaultBranch ++ " of " ++ projectId ++ " not found"]),
      after)
  | (.returned (.ok (some head)), after) =>
    resolveTree network client projectId repositoryUrl head repository after

/-- Looks a project up: its description and its complete file listing; nothing if there is no such
project. -/
def resolve (network : Network ν) (client : Client) (address : String) (state : ν) :
    Ending (Except Chain (Option RemoteProject)) × ν :=
  match Address.projectId? address, repositoryUrl? client.settings address with
  | some projectId, some url =>
    match get network client Repository.of? url state with
    | (.stopped, after) => (.stopped, after)
    | (.returned (.error chain), after) => (.returned (.error chain), after)
    | (.returned (.ok none), after) => (.returned (.ok none), after)
    | (.returned (.ok (some repository)), after) =>
      resolveBranch network client projectId url repository after
  | _, _ => (.returned (.ok none), state)

end Client

end SourceIndex.Host
