import SourceIndex.Host.Basic
import SourceIndex.Text.Blank
import SourceIndex.Text.Numeral

/-!
# The rate limit of the hosting service

Every answer tells how many requests are left and when the count starts anew. When too few are left
the client waits until then and a little longer. The search endpoints have limits of their own.

The length of a wait is worked out in words of 64 bits, and before the client waits it announces the
time at which it goes on, which it takes from a calendar that does not reach everywhere. It stops for
good if a number does not fit in its word or if the calendar does not have the time.
-/

set_option autoImplicit false

namespace SourceIndex.Host

/-! ## Headers -/

/-- A name in lower case. -/
def lowerCase (name : String) : List Char :=
  name.toList.map Text.lower

/-- The value of a header, whose name may be in either case. If there are several, the first one
counts. -/
def header? (headers : Headers) (name : String) : Option Bytes :=
  (headers.find? fun entry => lowerCase entry.1 == name.toList).map Prod.snd

/-- A header's value as text, if it is plain printable ASCII. -/
def plainText? (value : Bytes) : Option (List Char) :=
  if value.all fun byte => byte.toNat = 9 || (32 ≤ byte.toNat && byte.toNat < 127) then
    some (characters value)
  else none

/-- A header's value as a number, if it is one. -/
def headerNumber? (headers : Headers) (name : String) : Option Nat :=
  ((header? headers name).bind plainText?).bind fun text => Text.natural64? (Text.trim text)

/-! ## Limits -/

/-- The URL is one of a search endpoint. -/
def isSearch (url : String) : Bool :=
  (List.range url.length).any fun start =>
    "/search/".toList.isPrefixOf (url.toList.drop start)

/-- The least number of requests that must be left for a URL. -/
def floorFor (settings : HostSettings) (url : String) : Nat :=
  if isSearch url then settings.searchMinRemaining else settings.minRemaining

/-- How long to wait beyond the reset for a URL. -/
def graceFor (settings : HostSettings) (url : String) : Nat :=
  if isSearch url then settings.searchResetGraceSeconds else settings.resetGraceSeconds

/-! ## The pause -/

/-- A word of 64 bits taken as a signed number. -/
def signed (word : Nat) : Int :=
  (word : Int).bmod (Nat.pow 2 64)

/-- A number fits in a signed word. -/
def fitsSigned (value : Int) : Bool :=
  -(Nat.pow 2 63 : Int) ≤ value && value < (Nat.pow 2 63 : Int)

/-- The seconds until a reset, if it is still to come, and for the grace beyond. There is no such
number if one on the way does not fit in its word. -/
def span? (now reset : Int) (grace : Nat) : Option Nat :=
  let seconds := (reset - now).toNat + grace
  if fitsSigned (reset - now) && seconds < Nat.pow 2 64 then some seconds else none

/-- What the client does after an answer. -/
inductive Pause where
  /-- It goes on at once. -/
  | none
  | wait (seconds : Nat)
  /-- It stops for good. -/
  | stop
deriving DecidableEq, Repr

/-- The client stops. -/
def Pause.isStop : Pause → Bool
  | .stop => true
  | .none | .wait _ => false

/-- The pause that an answer for a URL asks for at a time. -/
def pause (settings : HostSettings) (url : String) (headers : Headers) (now : Int) : Pause :=
  let left := headerNumber? headers "x-ratelimit-remaining"
  match left, headerNumber? headers "x-ratelimit-reset" with
  | some remaining, some reset =>
    if floorFor settings url ≤ remaining then .none
    else
      match span? now (signed reset) (graceFor settings url) with
      | some seconds => .wait seconds
      | none => .stop
  | _, _ => .none

/-! ## The announcement -/

/-- A calendar. Times and spans of time are in seconds. -/
structure Calendar where
  first : Int
  last : Int
  /-- The longest span that can be added to a time or taken from it. -/
  longest : Nat
deriving DecidableEq, Repr

namespace Calendar

/-- From the first day of the year 262144 before our era to the last day of the year 262142. A span
has as many milliseconds as fit in a signed word. -/
def standard : Calendar where
  first := -8334601228800
  last := 8210266876799
  longest := 9223372036854775

/-- The calendar has the time that is a span away from another time. -/
def reaches (calendar : Calendar) (now span : Int) : Bool :=
  span.natAbs ≤ calendar.longest && calendar.first ≤ now + span && now + span ≤ calendar.last

end Calendar

/-- A wait is announced by the time at which it ends. -/
def Pause.announced (calendar : Calendar) (now : Int) : Pause → Pause
  | .wait seconds => if calendar.reaches now (signed seconds) then .wait seconds else .stop
  | pause => pause

end SourceIndex.Host
