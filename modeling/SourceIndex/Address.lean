import SourceIndex.Path
import SourceIndex.Text.Blank

/-!
# Addresses of projects

A project is addressed by a URL of the hosting service, by the URL its working copy is cloned from,
or by `owner/name` alone. All of these name the project by their last two segments, so the project's
id is `owner/name` whatever the spelling. A file may list addresses, one a line.
-/

set_option autoImplicit false

namespace SourceIndex.Address

/-- The owner and the name that an address ends with. Blanks around the address, slashes at its end
and one ending `.git` do not count, and an owner with a colon belongs to a URL without a path. -/
def ownerAndName? (address : List Char) : Option (List Char × List Char) :=
  let trimmed := Text.dropEndWhile (· == '/') (Text.trim address)
  match (Path.segments (Text.dropEnding ['.', 'g', 'i', 't'] trimmed)).reverse with
  | name :: owner :: _ => if owner.contains ':' then none else some (owner, name)
  | _ => none

/-- The id of the project that an address names. -/
def projectId? (address : String) : Option String :=
  (ownerAndName? address.toList).map fun parts => String.ofList (parts.1 ++ '/' :: parts.2)

/-- A line of a list that is blank or a comment. -/
def isIdle (line : List Char) : Bool :=
  line.isEmpty || line.head? == some '#'

/-- The addresses of a list: its lines without the blanks around them, comments and blank lines left
out. -/
def listed (text : String) : List String :=
  (((Text.lines text.toList).map Text.trim).filter fun line => !isIdle line).map String.ofList

end SourceIndex.Address
