import SourceIndex.Disk
import SourceIndex.Extraction
import SourceIndex.Host.Basic
import SourceIndex.Parser.Channel
import SourceIndex.Toml.Reader

/-!
# Settings

What a settings file says: where the index is, how to reach the hosting service, where working
copies are kept and by which program, how the parser is run, and which files are extracted. Only the
index, the directory of the working copies and the command of the parser have to be given.

A part of the settings may be given as a table or as a list of its values in a fixed order; what a
table has beyond the known names, and a list beyond the last of them, does not count.

Main statement: settings that were accepted name a parser, recycle it after some request, extract
some kind of file and reach the service by a web URL (`check_eq_ok_iff`).
-/

set_option autoImplicit false

namespace SourceIndex

/-- Where working copies are kept, and the program that keeps them. -/
structure MirrorSettings where
  sourceDir : String
  gitCommand : String
deriving DecidableEq, Repr

/-- How the parser is run. -/
structure ParserSettings where
  command : String
  args : List String
  /-- A worker is replaced after this many requests. -/
  recycleAfter : Nat
deriving DecidableEq, Repr

/-- What a settings file says. -/
structure Settings where
  indexPath : String
  host : HostSettings
  mirror : MirrorSettings
  parser : ParserSettings
  extraction : Policy
deriving DecidableEq, Repr

/-- Why settings cannot be used. -/
inductive SettingsError where
  | unreadable (path : String)
  /-- The text is not well formed, or a value is missing or of a wrong kind. -/
  | malformed
  | noCommand
  | noRecycling
  | noNameLength
  | noExtensions
  | foreignUrl (url : String)
deriving DecidableEq, Repr

/-- The wording of an error. -/
def SettingsError.message : SettingsError → String
  | .unreadable path => "Failed to read config file: " ++ path
  | .malformed => "Failed to parse config file"
  | .noCommand => "parser.command must not be empty"
  | .noRecycling => "parser.recycle_after must be > 0"
  | .noNameLength => "extraction.max_name_len must be > 0"
  | .noExtensions => "extraction.extensions must list at least one extension"
  | .foreignUrl url => "github.api_url must be an http(s) URL, got '" ++ url ++ "'"

namespace Settings

/-! ## Kinds of values -/

/-- A reader of one kind of value. -/
abbrev Kind (α : Type) := Toml → Option α

/-- A text. -/
def text : Kind String
  | .string value => some value
  | _ => none

/-- A whole number that is not negative and below a bound. -/
def natural (bound : Nat) : Kind Nat
  | .integer value => if 0 ≤ value && value < bound then some value.toNat else none
  | _ => none

/-- A list of texts. -/
def texts : Kind (List String)
  | .array items => items.mapM text
  | _ => none

/-- Bounds of whole numbers that fit 32 and 64 bits. -/
def bound32 : Nat := Nat.pow 2 32

@[inherit_doc bound32]
def bound64 : Nat := Nat.pow 2 64

/-- The values of a part of the settings whose names are known, in their fixed order. A date is a
part that gives none of them. -/
def part? (names : List String) : Kind Toml.Entries
  | .table _ entries => some entries
  | .array items => some (names.zip items)
  | .tables items => some (names.zip (items.map (.table .header)))
  | .moment _ => some []
  | _ => none

/-- A value that has to be given. -/
def needed {α : Type} (kind : Kind α) (name : String) (entries : Toml.Entries) : Option α :=
  (Toml.member? name entries).bind kind

/-- A value that has a default. -/
def spare {α : Type} (kind : Kind α) (default : α) (name : String) (entries : Toml.Entries) :
    Option α :=
  match Toml.member? name entries with
  | none => some default
  | some value => kind value

/-! ## Parts -/

/-- The place of the index. -/
def indexPart : Kind String := fun value => do
  let entries ← part? ["path"] value
  needed text "path" entries

/-- The names of the settings of the hosting service, in their fixed order. -/
def hostNames : List String :=
  ["api_url", "username", "token", "timeout_secs", "max_retries", "min_remaining",
    "search_min_remaining", "reset_grace_secs", "search_reset_grace_secs"]

/-- The settings of the hosting service. -/
def hostPart : Kind HostSettings := fun value => do
  let standard := HostSettings.standard
  let entries ← part? hostNames value
  let optional : Kind (Option String) := fun given => (text given).map some
  let apiUrl ← spare text standard.apiUrl "api_url" entries
  let username ← spare optional none "username" entries
  let token ← spare optional none "token" entries
  let timeoutSeconds ← spare (natural bound64) standard.timeoutSeconds "timeout_secs" entries
  let maxRetries ← spare (natural bound32) standard.maxRetries "max_retries" entries
  let minRemaining ← spare (natural bound64) standard.minRemaining "min_remaining" entries
  let searchMinRemaining ←
    spare (natural bound64) standard.searchMinRemaining "search_min_remaining" entries
  let resetGraceSeconds ←
    spare (natural bound64) standard.resetGraceSeconds "reset_grace_secs" entries
  let searchResetGraceSeconds ←
    spare (natural bound64) standard.searchResetGraceSeconds "search_reset_grace_secs" entries
  pure ⟨apiUrl, username, token, timeoutSeconds, maxRetries, minRemaining, searchMinRemaining,
    resetGraceSeconds, searchResetGraceSeconds⟩

/-- The settings of the working copies. -/
def mirrorPart : Kind MirrorSettings := fun value => do
  let entries ← part? ["source_dir", "git_command"] value
  let sourceDir ← needed text "source_dir" entries
  let gitCommand ← spare text "git" "git_command" entries
  pure ⟨sourceDir, gitCommand⟩

/-- The settings of the parser. -/
def parserPart : Kind ParserSettings := fun value => do
  let entries ← part? ["command", "args", "recycle_after"] value
  let command ← needed text "command" entries
  let args ← spare texts [] "args" entries
  let recycleAfter ← spare (natural bound32) Channel.standardRecycling "recycle_after" entries
  pure ⟨command, args, recycleAfter⟩

/-- The settings of the extraction. -/
def extractionPart : Kind Policy := fun value => do
  let entries ← part? ["extensions", "max_name_len"] value
  let extensions ← spare texts Policy.standard.extensions "extensions" entries
  let maxNameLength ←
    spare (natural bound64) Policy.standard.maxNameLength "max_name_len" entries
  pure ⟨extensions, maxNameLength⟩

/-- The settings that a file's values give. -/
def ofEntries? (entries : Toml.Entries) : Option Settings := do
  let indexPath ← needed indexPart "index" entries
  let host ← spare hostPart HostSettings.standard "github" entries
  let mirror ← needed mirrorPart "mirror" entries
  let parser ← needed parserPart "parser" entries
  let extraction ← spare extractionPart Policy.standard "extraction" entries
  pure ⟨indexPath, host, mirror, parser, extraction⟩

/-! ## Checks -/

/-- A URL of the web. -/
def isWebUrl (url : String) : Bool :=
  "http://".toList.isPrefixOf url.toList || "https://".toList.isPrefixOf url.toList

/-- The settings if they can be used, else the first reason why not. -/
def check (settings : Settings) : Except SettingsError Settings :=
  if (Text.trim settings.parser.command.toList).isEmpty then .error .noCommand
  else if settings.parser.recycleAfter = 0 then .error .noRecycling
  else if settings.extraction.maxNameLength = 0 then .error .noNameLength
  else if settings.extraction.extensions.isEmpty then .error .noExtensions
  else if !isWebUrl settings.host.apiUrl then .error (.foreignUrl settings.host.apiUrl)
  else .ok settings

/-- Settings that satisfy every condition, and only those, can be used. -/
theorem check_eq_ok_iff (settings : Settings) :
    check settings = .ok settings ↔
      Text.trim settings.parser.command.toList ≠ [] ∧ settings.parser.recycleAfter ≠ 0 ∧
        settings.extraction.maxNameLength ≠ 0 ∧ settings.extraction.extensions ≠ [] ∧
        isWebUrl settings.host.apiUrl = true := by
  unfold check
  split
  next empty => simp_all
  split
  next zero => simp_all
  split
  next zero => simp_all
  split
  next empty => simp_all
  split
  next foreign => simp_all
  next command recycling length extensions web => simp_all

/-- The settings that a text gives. -/
def parse (text : String) : Except SettingsError Settings :=
  match (Toml.parse? text).bind ofEntries? with
  | none => .error .malformed
  | some settings => check settings

/-- The settings in a file. -/
def load (disk : Disk) (current path : String) : Except SettingsError Settings :=
  match disk.read current path with
  | .error _ => .error (.unreadable path)
  | .ok content =>
    match Utf8.toString? content with
    | none => .error (.unreadable path)
    | some text => parse text

/-- The channel that settings describe, not started. -/
def channel {ψ : Type} (settings : Settings) : Channel ψ :=
  Channel.make ⟨settings.parser.command, settings.parser.args⟩ settings.parser.recycleAfter

end Settings

end SourceIndex
