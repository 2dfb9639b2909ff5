import SourceIndex.Collaborators
import SourceIndex.Host.Url
import SourceIndex.Text.Base64

/-!
# The hosting service

The settings of the client of the hosting service, the requests that it sends and what can come
back. The network is a parameter: it delivers requests, tells the time and lets time pass, over a
state of its own.
-/

set_option autoImplicit false

namespace SourceIndex

/-- The settings of the client. -/
structure HostSettings where
  apiUrl : String
  username : Option String
  token : Option String
  timeoutSeconds : Nat
  /-- How often a failed request is sent again. -/
  maxRetries : Nat
  /-- The client waits when fewer requests than this are left. -/
  minRemaining : Nat
  /-- The same for the search endpoints. -/
  searchMinRemaining : Nat
  /-- How long the client waits beyond the announced reset, in seconds. -/
  resetGraceSeconds : Nat
  /-- The same for the search endpoints. -/
  searchResetGraceSeconds : Nat
deriving DecidableEq, Repr

namespace HostSettings

/-- The settings that apply where none are given. -/
def standard : HostSettings where
  apiUrl := "https://api.github.com"
  username := none
  token := none
  timeoutSeconds := 30
  maxRetries := 3
  minRemaining := 100
  searchMinRemaining := 5
  resetGraceSeconds := 60
  searchResetGraceSeconds := 20

/-- A token that is not empty. -/
def usable (token : Option String) : Option String :=
  token.filter fun text => !text.isEmpty

/-- The token to use: the configured one, else the one of the environment. -/
def resolvedToken (settings : HostSettings) (environment : Option String) : Option String :=
  (usable settings.token).or (usable environment)

/-- The credentials that requests carry, if there are any: a user name and a token, or a token
alone. -/
def authorization (settings : HostSettings) (environment : Option String) : Option String :=
  match settings.username, settings.resolvedToken environment with
  | some user, some token => some ("Basic " ++ Base64.encodeString (user ++ ":" ++ token))
  | none, some token => some ("Bearer " ++ token)
  | _, none => none

end HostSettings

namespace Host

/-- The name by which the client introduces itself. -/
def userAgent : String := "agora-sync/0.5.1"

/-- The form of answer that the client asks for. -/
def accept : String := "application/vnd.github+json"

/-- A request for what is at a URL. -/
structure Request where
  url : Url
  authorization : Option String
deriving DecidableEq, Repr

/-- Headers under their names, in the order in which they came. -/
abbrev Headers := List (String × Bytes)

/-- Bytes as the characters with their numbers. -/
def characters (bytes : Bytes) : List Char :=
  bytes.map fun byte => Char.ofNat byte.toNat

/-- An answer of the service. -/
structure Response where
  status : Nat
  headers : Headers
  /-- What came of the body. A client makes the same of a body that breaks off as of an empty one. -/
  body : Bytes
deriving DecidableEq, Repr

/-- What becomes of a request that was sent. -/
inductive Delivery where
  | answered (response : Response)
  /-- No answer came back, for the reasons given. -/
  | lost (reasons : Chain)
deriving DecidableEq, Repr

/-- The network over a state of its own. Times are in whole seconds. -/
structure Network (ν : Type) where
  send : Request → ν → Delivery × ν
  now : ν → Int
  wait : Nat → ν → ν

end Host

end SourceIndex
