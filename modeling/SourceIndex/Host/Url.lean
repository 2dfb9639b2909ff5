import SourceIndex.Host.Url.Site
import SourceIndex.Text.Lines

/-!
# URLs

A URL in its parts, read from a text and written in its normal form: the scheme and a domain name in
lower case, no number after the site where it is the scheme's usual one, no `.` and `..` among the
segments of a path, and every character that a part cannot hold in percent notation.
-/

set_option autoImplicit false

namespace SourceIndex.Host

/-- A URL in its parts, each as it is written. -/
structure Url where
  scheme : List Char
  user : List Char
  password : List Char
  /-- Where the URL leads, if it leads anywhere; the name may be empty. -/
  site : Option Url.Site
  /-- The number after the site, unless it is the usual one. -/
  number : Option Nat
  path : List Char
  /-- The query with its mark, or nothing. -/
  query : List Char
  /-- The part from `#` on, or nothing. -/
  fragment : List Char
deriving DecidableEq, Repr

open SourceIndex.Text (isDigit isLetter lower)

namespace Url

/-! ## Characters -/

/-- Characters that a user name and a password cannot hold. -/
def credentialSpecial : List Char :=
  [' ', '"', '<', '>', Char.ofNat 96, '#', '?', '\x7b', '\x7d', '/', ':', ';', '=', '@', '[', '\\',
    ']', '^', '|']

/-- Characters that a path cannot hold. -/
def pathSpecial : List Char := [' ', '"', '<', '>', Char.ofNat 96, '#', '?', '\x7b', '\x7d']

/-- Characters that a query cannot hold. -/
def querySpecial : List Char := [' ', '"', '#', '<', '>']

/-- Characters that the part after `#` cannot hold. -/
def fragmentSpecial : List Char := [' ', '"', '<', '>', Char.ofNat 96]

/-- The separators of a path, of which a URL of a common scheme has two. -/
def isSlash (isCommon : Bool) (character : Char) : Bool :=
  character == '/' || (isCommon && character == '\\')

/-- The characters that end a path. -/
def endsPath (character : Char) : Bool :=
  character == '?' || character == '#'

/-! ## Schemes -/

/-- The common schemes that lead to a site, with their usual numbers. -/
def usualNumbers : List (String × Nat) :=
  [("http", 80), ("https", 443), ("ws", 80), ("wss", 443), ("ftp", 21)]

/-- The usual number of a scheme, if it is a common one. -/
def usualNumber? (scheme : List Char) : Option Nat :=
  (usualNumbers.find? fun entry => entry.1.toList == scheme).map Prod.snd

/-- The scheme that a text starts with, and the text after its colon. -/
def scheme? (text : List Char) : Option (List Char × List Char) :=
  let isPart (character : Char) : Bool :=
    isLetter character || isDigit character || ['+', '-', '.'].contains character
  let name := text.takeWhile isPart
  match text.dropWhile isPart with
  | ':' :: rest =>
    if (name.head?.map isLetter).getD false then some (name.map lower, rest) else none
  | _ => none

/-! ## Paths -/

/-- A segment that stands for the place it is in. -/
def isHere (segment : List Char) : Bool :=
  let plain := segment.map lower
  plain == ['.'] || plain == ['%', '2', 'e']

/-- A segment that stands for the place above. -/
def isUp (segment : List Char) : Bool :=
  let plain := segment.map lower
  plain == ['.', '.'] || plain == ['.', '%', '2', 'e'] || plain == ['%', '2', 'e', '.'] ||
    plain == ['%', '2', 'e', '%', '2', 'e']

/-- The drive that a segment names: a letter and a colon, for which a bar may stand. -/
def drive? (segment : List Char) : Option (List Char) :=
  match segment with
  | [letter, mark] =>
    if isLetter letter && (mark == ':' || mark == '|') then some [letter, ':'] else none
  | _ => none

/-- The place above the one that segments lead to. Nothing is above a drive. -/
def above (segments : List (List Char)) : List (List Char) :=
  if (segments.getLast?.bind drive?).isSome then segments else segments.dropLast

/-- Resolves the segments of a path; one that ends in a place keeps an empty last segment. -/
def resolveSegments (done : List (List Char)) : List (List Char) → List (List Char)
  | [] => done
  | segment :: rest =>
    let moved :=
      if isUp segment then above done else if isHere segment then done else done ++ [segment]
    if rest.isEmpty && (isUp segment || isHere segment) then moved ++ [[]]
    else resolveSegments moved rest

/-- The segments of a path's text, which may start with a separator. -/
def segments (isCommon : Bool) (text : List Char) : List (List Char) :=
  let plain := text.map fun character => if isSlash isCommon character then '/' else character
  let parts := plain.splitOn '/'
  (if plain.head? == some '/' then parts.drop 1 else parts).map (Text.Percent.encode pathSpecial)

/-- A path of segments. -/
def joinSegments (segments : List (List Char)) : List Char :=
  '/' :: ['/'].intercalate segments

/-- The path of a text after a site. Only a URL of a common scheme needs one. -/
def readPath (isCommon : Bool) (text : List Char) : List Char :=
  if text.isEmpty && !isCommon then []
  else joinSegments (resolveSegments [] (segments isCommon text))

/-- The path of a file, and whether it starts with a drive, which has to come without a separator
before it. A file's path has no empty segments at its start. -/
def readFilePath (text : List Char) : List Char × Bool :=
  let all := segments true text
  let drive := if text.head?.any (isSlash true) then none else all.head?.bind drive?
  let started := match drive with
    | some written => written :: all.drop 1
    | none => all
  (joinSegments ((resolveSegments [] started).dropWhile List.isEmpty), drive.isSome)

/-! ## Sites -/

/-- The text up to the colon that no bracket encloses, and the text from there on. -/
def splitSite (inside : Bool) : List Char → List Char × List Char
  | [] => ([], [])
  | character :: rest =>
    if character == ':' && !inside then ([], character :: rest)
    else
      let next :=
        if character == '[' then true else if character == ']' then false else inside
      let parts := splitSite next rest
      (character :: parts.1, parts.2)

/-- The number after a site. It ends with the text, or where the path of a URL that is not of a
common scheme starts; what is left is given back. -/
def readNumber (text : List Char) : Except Fault (Option Nat × List Char) :=
  let digits := text.takeWhile isDigit
  let rest := text.dropWhile isDigit
  let value := (digitsIn? 10 digits).getD 0
  if 65535 < value || (!rest.isEmpty && rest.head? != some '\\') then .error .invalidNumber
  else .ok (if digits.isEmpty then none else some value, rest)

/-- A user name and a password, from the text before the last `@`. -/
def readCredentials (text : List Char) : List Char × List Char :=
  let encoded := Text.Percent.encode credentialSpecial
  (encoded (text.takeWhile (· != ':')), encoded ((text.dropWhile (· != ':')).drop 1))

/-- The site of a URL with what surrounds it. -/
structure Authority where
  user : List Char
  password : List Char
  site : Site
  number : Option Nat
  /-- The text after it, which belongs to the path. -/
  rest : List Char

/-- Reads a site with what surrounds it. -/
def readAuthority (usual : Option Nat) (text : List Char) : Except Fault Authority :=
  let hasCredentials := text.contains '@'
  let siteText := Text.afterLast '@' text
  let credentials := readCredentials (text.take (text.length - siteText.length - 1))
  let parts := splitSite false siteText
  if parts.1.isEmpty && (usual.isSome || hasCredentials || !parts.2.isEmpty) then .error .noSite
  else
    match Site.read usual.isSome parts.1 with
    | .error fault => .error fault
    | .ok site =>
      match readNumber (parts.2.drop 1) with
      | .error fault => .error fault
      | .ok (number, rest) =>
        .ok ⟨credentials.1, credentials.2, site, number.filter fun value => some value != usual,
          rest⟩

/-! ## Reading -/

/-- The query and the last part of a URL, from the text after its path. -/
def readTail (isCommon : Bool) (text : List Char) : List Char × List Char :=
  let special := if isCommon then Char.ofNat 39 :: querySpecial else querySpecial
  let query := if text.head? == some '?' then text.takeWhile (· != '#') else []
  let fragment :=
    match text.dropWhile (· != '#') with
    | [] => []
    | mark :: rest => mark :: Text.Percent.encode fragmentSpecial rest
  (Text.Percent.encode special query, fragment)

/-- Reads a URL from the text after its scheme and the two separators. -/
def readSited (scheme text : List Char) : Except Fault Url :=
  let usual := usualNumber? scheme
  let isCommon := usual.isSome
  let ends (character : Char) : Bool := isSlash isCommon character || endsPath character
  match readAuthority usual (text.takeWhile fun character => !ends character) with
  | .error fault => .error fault
  | .ok authority =>
    let after := authority.rest ++ text.dropWhile fun character => !ends character
    let path := readPath isCommon (after.takeWhile fun character => !endsPath character)
    let tail := readTail isCommon (after.dropWhile fun character => !endsPath character)
    .ok ⟨scheme, authority.user, authority.password, some authority.site, authority.number, path,
      tail.1, tail.2⟩

/-- The name of the machine itself. -/
def ownName : List Char := ['l', 'o', 'c', 'a', 'l', 'h', 'o', 's', 't']

/-- Reads the site of a file's URL from the text after two separators, and gives the text after it
back. There is none before a drive, and none is written for the machine itself. -/
def readFileSite (text : List Char) : Except Fault (Option Site × List Char) :=
  let ends (character : Char) : Bool := isSlash true character || endsPath character
  let name := text.takeWhile fun character => !ends character
  if name.isEmpty || (drive? name).isSome then .ok (none, text)
  else
    match Site.read true name with
    | .error fault => .error fault
    | .ok site =>
      let rest := text.dropWhile fun character => !ends character
      .ok (if site.text == ownName then none else some site, rest)

/-- Reads the URL of a file from the text after the scheme. A drive is on the machine itself, so
there is no other site before one. -/
def readFile (text : List Char) : Except Fault Url :=
  let hasSite := 2 ≤ (text.takeWhile (isSlash true)).length
  match if hasSite then readFileSite (text.drop 2) else .ok (none, text) with
  | .error fault => .error fault
  | .ok (site, rest) =>
    let pathText := rest.takeWhile fun character => !endsPath character
    let path := readFilePath (if site.isSome then pathText.drop 1 else pathText)
    let tail := readTail true (rest.dropWhile fun character => !endsPath character)
    let written := if path.2 then none else site
    .ok ⟨['f', 'i', 'l', 'e'], [], [], some (written.getD (.name [])), none, path.1, tail.1,
      tail.2⟩

/-- Reads a URL without a site from the text after the scheme. -/
def readBare (scheme text : List Char) : Url :=
  let pathText := text.takeWhile fun character => !endsPath character
  let path :=
    if text.head? == some '/' then readPath false pathText else Text.Percent.encode [] pathText
  let tail := readTail false (text.dropWhile fun character => !endsPath character)
  ⟨scheme, [], [], none, none, path, tail.1, tail.2⟩

/-- A text without the characters that a URL may have around it and the line breaks and tabs within
it. -/
def clean (text : List Char) : List Char :=
  (Text.dropEndWhile (fun character => character.toNat ≤ 32)
    (text.dropWhile fun character => character.toNat ≤ 32)).filter fun character =>
      !(character == '\t' || character == '\n' || character == '\r')

/-- Reads a URL. -/
def read (text : String) : Except Fault Url :=
  match scheme? (clean text.toList) with
  | none => .error .noScheme
  | some (scheme, rest) =>
    if scheme == ['f', 'i', 'l', 'e'] then readFile rest
    else if (usualNumber? scheme).isSome then readSited scheme (rest.dropWhile (isSlash true))
    else
      match rest with
      | '/' :: '/' :: sited => readSited scheme sited
      | _ => .ok (readBare scheme rest)

/-! ## Writing -/

/-- The credentials of a URL as they are written before its site. -/
def credentialText (url : Url) : List Char :=
  if url.user.isEmpty && url.password.isEmpty then []
  else
    url.user ++ (if url.password.isEmpty then [] else ':' :: url.password) ++ ['@']

/-- The part of a URL between its scheme and its path. -/
def siteText (url : Url) : List Char :=
  match url.site with
  | some site =>
    let number := match url.number with
      | none => []
      | some value => ':' :: (toString value).toList
    ['/', '/'] ++ url.credentialText ++ site.text ++ number
  | none => if ['/', '/'].isPrefixOf url.path then ['/', '.'] else []

/-- The normal form of a URL. -/
def text (url : Url) : String :=
  String.ofList (url.scheme ++ [':'] ++ url.siteText ++ url.path ++ url.query ++ url.fragment)

/-- The part of a URL that a request is sent for. -/
def target (url : Url) : String :=
  String.ofList (url.path ++ url.query)

/-! ## Credentials -/

/-- A URL without its credentials. -/
def withoutCredentials (url : Url) : Url :=
  { url with user := [], password := [] }

/-- The user name and the password of a URL, if it has one of them and the user name is a text. A
password that is no text counts as none. -/
def credentials? (url : Url) : Option (String × String) :=
  match Text.Percent.decodeText? url.user with
  | none => none
  | some user =>
    let password := if url.password.isEmpty then none else Text.Percent.decodeText? url.password
    if user.isEmpty && password.isNone then none
    else some (String.ofList user, String.ofList (password.getD []))

/-! ## Requests -/

/-- A URL leads to a site. -/
def isSited (url : Url) : Bool :=
  match url.site with
  | none => false
  | some site => !site.text.isEmpty

/-- A URL of the web. -/
def isWeb (url : Url) : Bool :=
  url.scheme == "http".toList || url.scheme == "https".toList

/-- A URL can be sent in a request: it is not too long, and its site has none of the characters that
only URLs may have. -/
def isSendable (url : Url) : Bool :=
  url.text.length < 65535 &&
    !url.siteText.any ['"', Char.ofNat 96, '\x7b', '\x7d'].contains

end Url

end SourceIndex.Host
