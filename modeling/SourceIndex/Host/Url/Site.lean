import SourceIndex.Host.Domain
import SourceIndex.Host.Url.Numeric

/-!
# Sites

Where a URL leads: a machine with a name or a numeric address. In a URL of the common schemes a name
is a domain name, which is brought into its ASCII form; in any other it is a text of its own.
-/

set_option autoImplicit false

namespace SourceIndex.Host.Url

/-- Why a text is no URL. -/
inductive Fault where
  /-- There is no scheme. -/
  | noScheme
  | noSite
  | invalidName
  | invalidAddress4
  | invalidAddress6
  /-- A character that no site can have. -/
  | invalidCharacter
  /-- What follows the colon after the site is no number of 16 bits. -/
  | invalidNumber
deriving DecidableEq, Repr

/-- The wording of a fault. -/
def Fault.message : Fault → String
  | .noScheme => "relative URL without a base"
  | .noSite => "empty host"
  | .invalidName => "invalid international domain name"
  | .invalidAddress4 => "invalid IPv4 address"
  | .invalidAddress6 => "invalid IPv6 address"
  | .invalidCharacter => "invalid domain character"
  | .invalidNumber => "invalid port number"

/-- Where a URL leads. -/
inductive Site where
  | name (text : List Char)
  | address4 (value : Nat)
  /-- The eight numbers of an address. -/
  | address6 (pieces : List Nat)
deriving DecidableEq, Repr

namespace Site

/-- A site as it is written. -/
def text : Site → List Char
  | .name text => text
  | .address4 value => write4 value
  | .address6 pieces => '[' :: (write6 pieces ++ [']'])

/-- The site of a domain name or of an address of 32 bits. -/
def ofDomain (text : List Char) : Except Fault Site :=
  match (Text.Percent.decodeText? text).bind Domain.toAscii? with
  | none => .error .invalidName
  | some [] => .error .noSite
  | some ascii =>
    if endsInNumber ascii then
      match address4? ascii with
      | some value => .ok (.address4 value)
      | none => .error .invalidAddress4
    else .ok (.name ascii)

/-- The characters that cannot stand in a site of any kind. -/
def forbidden : List Char :=
  [Char.ofNat 0, ' ', '#', '/', ':', '<', '>', '?', '@', '[', '\\', ']', '^', '|']

/-- Reads a site, which is a domain name in the common schemes. -/
def read (isCommon : Bool) (text : List Char) : Except Fault Site :=
  if text.head? == some '[' then
    let inner := (text.drop 1).dropLast
    match if text.getLast? == some ']' then address6? inner else none with
    | some pieces => .ok (.address6 pieces)
    | none => .error .invalidAddress6
  else if isCommon then ofDomain text
  else if text.any forbidden.contains then .error .invalidCharacter
  else .ok (.name (Text.Percent.encode [] text))

end Site

end SourceIndex.Host.Url
