import SourceIndex.Text.Percent
import SourceIndex.Text.Printable

/-!
# Database locations

The path of an index is read as the location of a database. It may be written after `sqlite:` or
`sqlite://`, its name may hold percent notation, and a question mark starts a form of parameters:
the mode of the database, its cache, its driver, and whether its file is taken to be immutable. The
name `:memory:` is that of a database held in memory.

A name that starts with `file:` is an address, which is read once more and may have a site, a
fragment and options of its own. The options can only narrow what the parameters allow. A location
with a driver, or of an immutable file, is never read as an address.

Main statement: an access that is narrowed stays within the one before (`narrow?_rank`).
-/

set_option autoImplicit false

namespace SourceIndex

/-- Why a path is not the location of a database. -/
inductive LocationFault where
  /-- The percent notation of the name is not that of a text. -/
  | invalidText (error : Utf8.DecodeError)
  | unknownValue (name value : String)
  | unknownParameter (name : String)
deriving DecidableEq, Repr

/-- The wording of a fault. -/
def LocationFault.message (fault : LocationFault) : String :=
  "error with configuration: " ++
    match fault with
    | .invalidText error => error.message
    | .unknownValue name value =>
      "unknown value " ++ Text.quote value ++ " for `" ++ name ++ "`"
    | .unknownParameter name =>
      "unknown query parameter `" ++ name ++ "` while parsing connection URL"

/-- What may be done with the file of a database. -/
inductive Access where
  | read
  | write
  /-- The file may be made, too. -/
  | create
deriving DecidableEq, Repr

/-- The place of an access among the others; each one allows what those before it allow. -/
def Access.rank : Access → Nat
  | .read => 0
  | .write => 1
  | .create => 2

/-- Where a database is and how it is opened. -/
structure Location where
  /-- The name of the file, or its address. -/
  name : List Char
  access : Access
  /-- The database is held in memory. -/
  inMemory : Bool
  /-- Nobody else changes the file, so its log is not looked at, and it is not written. -/
  isImmutable : Bool
  /-- The file is used without locks. -/
  isUnlocked : Bool
  driver : Option String
deriving DecidableEq, Repr

namespace Location

/-- The location of a file that may be made. -/
def ofName (name : List Char) : Location :=
  ⟨name, .create, false, false, false, none⟩

/-- Drops a mark from the start of a text, as often as it is there; `fuel` bounds how often. -/
def dropMarks (mark : List Char) : Nat → List Char → List Char
  | 0, text => text
  | fuel + 1, text =>
    match List.isPrefixOf? mark text with
    | some rest => dropMarks mark fuel rest
    | none => text

/-- Applies a parameter. -/
def set (location : Location) (parameter : String × String) : Except LocationFault Location :=
  let unknown : Except LocationFault Location :=
    .error (.unknownValue parameter.1 parameter.2)
  match parameter.1 with
  | "mode" =>
    match parameter.2 with
    | "ro" => .ok { location with access := .read }
    | "rw" => .ok location
    | "rwc" => .ok location
    | "memory" => .ok { location with inMemory := true }
    | _ => unknown
  | "cache" =>
    match parameter.2 with
    | "private" => .ok location
    | "shared" => .ok location
    | _ => unknown
  | "immutable" =>
    if ["true", "1"].contains parameter.2 then .ok { location with isImmutable := true }
    else if ["false", "0"].contains parameter.2 then .ok { location with isImmutable := false }
    else unknown
  | "vfs" => .ok { location with driver := some parameter.2 }
  | name => .error (.unknownParameter name)

/-- The location that a name stands for before its parameters are read. -/
def ofWritten (name : List Char) : Except LocationFault Location :=
  if name = ":memory:".toList then .ok { ofName [] with inMemory := true }
  else
    match Utf8.decode (Text.Percent.decode name) with
    | .ok decoded => .ok (ofName decoded)
    | .error error => .error (.invalidText error)

/-- Reads a path. -/
def read (path : String) : Except LocationFault Location :=
  let text := ("sqlite:" ++ path).toList
  let bare := dropMarks "sqlite://".toList text.length text
  let parts := Text.splitFirst '?' (dropMarks "sqlite:".toList text.length bare)
  match ofWritten parts.1 with
  | .error fault => .error fault
  | .ok location => (Text.Form.read (parts.2.getD [])).foldlM set location

/-! ## Addresses -/

/-- The text of a part of an address, which ends before a byte zero. -/
def addressPart (written : List Char) : List Char :=
  Utf8.decodeLossy ((Text.Percent.decode written).takeWhile (· != 0))

/-- An option of an address. -/
def addressOption (written : List Char) : List Char × List Char :=
  let parts := Text.splitFirst '=' written
  (addressPart parts.1, addressPart (parts.2.getD []))

/-- The number that a text starts with, in decimal, or in hexadecimal after `0x` and a digit. -/
def leadingNumber (text : List Char) : Nat :=
  let value (base : Nat) (digits : List Char) : Nat :=
    digits.foldl (fun total digit => total * base + (Text.hexValue? digit).getD 0) 0
  let decimal := value 10 (text.takeWhile Text.isDigit)
  match text with
  | '0' :: mark :: digits =>
    if Text.lower mark == 'x' then
      value 16 (digits.takeWhile fun digit => (Text.hexValue? digit).isSome)
    else decimal
  | _ => decimal

/-- A text that means yes: it starts with a number of 31 bits whose low byte is not zero, or it is
a word for it. -/
def isYes (text : List Char) : Bool :=
  if Text.isDigit (text.headD ' ') then
    let number := leadingNumber text
    number < 2147483648 && number % 256 != 0
  else ["yes", "on", "true"].contains (String.ofList (text.map Text.lower))

/-- Narrows the access to a file. A database in memory has no file to be kept from. -/
def narrow? (location : Location) (access : Access) : Option Location :=
  if location.inMemory || access.rank ≤ location.access.rank then
    some { location with access := access, inMemory := false }
  else none

/-- An access that is narrowed stays within the one before. -/
theorem narrow?_rank {location narrowed : Location} {access : Access}
    (inFile : location.inMemory = false) (done : location.narrow? access = some narrowed) :
    narrowed.access.rank ≤ location.access.rank := by
  by_cases within : access.rank ≤ location.access.rank
  · simp only [narrow?, inFile, Bool.false_or, decide_eq_true_eq, within, if_true,
      Option.some.injEq] at done
    rw [← done]
    exact within
  · simp [narrow?, inFile, within] at done

/-- Applies an option of an address. Options that mean nothing are allowed. -/
def setOption? (location : Location) (option : List Char × List Char) : Option Location :=
  let value := String.ofList option.2
  match String.ofList option.1 with
  | "mode" =>
    match value with
    | "ro" => location.narrow? .read
    | "rw" => location.narrow? .write
    | "rwc" => location.narrow? .create
    | "memory" => some { location with access := .write, inMemory := true }
    | _ => none
  | "cache" => if ["private", "shared"].contains value then some location else none
  | "vfs" => some { location with driver := some value }
  | _ => some location

/-- Takes the site off the start of an address. There may be none but the machine itself. -/
def withoutSite? : List Char → Option (List Char)
  | '/' :: '/' :: rest =>
    let site := String.ofList (rest.takeWhile (· != '/'))
    if site = "" || site = "localhost" then some (rest.dropWhile (· != '/')) else none
  | text => some text

/-- The location that an address gives, within what is allowed already. -/
def ofAddress? (allowed : Location) (address : List Char) : Option Location :=
  match withoutSite? address with
  | none => none
  | some text =>
    let parts := Text.splitFirst '?' (text.takeWhile (· != '#'))
    let options := (((parts.2.getD []).splitOn '&').map addressOption).filter
      fun option => !option.1.isEmpty
    let isOn (name : String) : Bool :=
      (options.find? fun option => option.1 == name.toList).any fun option => isYes option.2
    let named : Location := { allowed with
      name := addressPart parts.1, isImmutable := isOn "immutable", isUnlocked := isOn "nolock" }
    options.foldlM setOption? named

/-- The location with its address read, unless nothing can be opened there. -/
def resolved? (location : Location) : Option Location :=
  if location.name.contains (Char.ofNat 0) then none
  else if location.isImmutable || location.driver.isSome then some location
  else
    match List.isPrefixOf? "file:".toList location.name with
    | some address => location.ofAddress? address
    | none => some location

/-- The drivers that keep databases in files. -/
def fileDrivers : List String :=
  ["unix", "unix-excl", "unix-none", "unix-dotfile"]

/-- The drivers that cannot share a log. -/
def loglessDrivers : List String :=
  ["unix-none", "unix-dotfile"]

/-- The database may be changed. -/
def isWritable (location : Location) : Bool :=
  location.access != .read && !location.isImmutable

/-- Changes go to a log first. -/
def usesLog (location : Location) : Bool :=
  !location.isUnlocked && !location.driver.any loglessDrivers.contains

/-- What is opened at a location. -/
inductive Target where
  | file (name : List Char)
  /-- A database without a file, which is gone when it is closed. -/
  | memory
deriving DecidableEq, Repr

/-- What is opened at a location whose address was read; nothing without a known driver. -/
def target? (location : Location) : Option Target :=
  let nameless := location.inMemory || location.name = [] || location.name = ":memory:".toList
  let target := if nameless then Target.memory else Target.file location.name
  match location.driver with
  | none => some target
  | some "memdb" => some .memory
  | some driver => if fileDrivers.contains driver then some target else none

end Location

end SourceIndex
