import SourceIndex.Progress
import SourceIndex.Text.Lines

/-!
# Arguments

The command line: options, the name of a command, and the command's own value. The options may stand
before and after the name; one that stands on both sides counts as it stands after the name. After
`--` every argument is a value.
-/

set_option autoImplicit false

namespace SourceIndex

/-- What the program can be told to do. -/
inductive Command where
  | createIndex
  | deleteIndex
  | addProject (address : String)
  /-- Adds the projects that a file lists. -/
  | addProjects (file : String)
  | deleteProject (address : String)
  /-- Deletes the projects that a file lists. -/
  | deleteProjects (file : String)
  | stats
  | showFile (id : String)
deriving DecidableEq, Repr

/-- The options at one side of the command's name. -/
structure Options where
  /-- The settings file. -/
  settings : Option String
  progress : Option ProgressMode
deriving DecidableEq, Repr

/-- A command with its options. -/
structure Invocation where
  settings : String
  progress : ProgressMode
  command : Command
deriving DecidableEq, Repr

/-- What a command line asks for. -/
inductive Arguments where
  | run (invocation : Invocation)
  | help
  | version
  /-- The arguments make no sense. -/
  | misuse
deriving DecidableEq, Repr

namespace Options

/-- No options. -/
def none : Options :=
  ⟨.none, .none⟩

/-- The options of one side, and for those it lacks the options of another. -/
def combine (later earlier : Options) : Options :=
  ⟨later.settings.or earlier.settings, later.progress.or earlier.progress⟩

/-- The mode with a name. -/
def mode? (name : String) : Option ProgressMode :=
  if name = "off" then some .off
  else if name = "dots" then some .dots
  else if name = "json" then some .json
  else .none

/-- Gives an option a value. An option may be given once on a side, and a file must have a name. -/
def set (options : Options) (name value : String) : Option Options :=
  if name = "--config" then
    if options.settings.isSome || value.isEmpty then .none
    else some { options with settings := some value }
  else if name = "--progress" then
    if options.progress.isSome then .none
    else (mode? value).map fun mode => { options with progress := some mode }
  else .none

end Options

namespace Arguments

/-- The settings file where none is named. -/
def standardSettings : String := "./config/agora.toml"

/-- An argument that is not a value: it starts with a dash and is more than that. -/
def isDashed (argument : String) : Bool :=
  argument.toList.head? == some '-' && argument != "-"

/-- A name and the value after the equals sign, if there is one. -/
def splitValue (argument : String) : String × Option String :=
  let parts := Text.splitFirst '=' argument.toList
  (String.ofList parts.1, parts.2.map String.ofList)

/-- The arguments from the start that make up an option, and the rest. -/
inductive Piece where
  /-- An option that got its value. -/
  | option (options : Options) (rest : List String)
  | value (argument : String) (rest : List String)
  /-- From here on every argument is a value. -/
  | marker (rest : List String)
  | help
  | version
  | fault

/-- An option with the value that stands in the same argument or in the next one. -/
def optionPiece (options : Options) (argument : String) (rest : List String) : Piece :=
  match splitValue argument, rest with
  | (name, some value), _ =>
    match options.set name value with
    | some changed => .option changed rest
    | none => .fault
  | (name, none), value :: more =>
    if isDashed value then .fault
    else
      match options.set name value with
      | some changed => .option changed more
      | none => .fault
  | (_, none), [] => .fault

/-- What an argument means at a place where options may stand. -/
def piece (options : Options) (argument : String) (rest : List String) : Piece :=
  if argument = "--" then .marker rest
  else if argument = "--help" || "-h".toList.isPrefixOf argument.toList then .help
  else if argument = "--version" || "-V".toList.isPrefixOf argument.toList then .version
  else if isDashed argument then optionPiece options argument rest
  else .value argument rest

/-- The commands by their names. -/
inductive Shape where
  | plain (command : Command)
  | text (command : String → Command)
  /-- The value is a path, which must not be empty. -/
  | path (command : String → Command)

/-- The command with a name. -/
def shape? (name : String) : Option Shape :=
  match name with
  | "create_index" => some (.plain .createIndex)
  | "delete_index" => some (.plain .deleteIndex)
  | "add_project" => some (.text .addProject)
  | "add_projects" => some (.path .addProjects)
  | "delete_project" => some (.text .deleteProject)
  | "delete_projects" => some (.path .deleteProjects)
  | "stats" => some (.plain .stats)
  | "show_file" => some (.text .showFile)
  | _ => none

/-- A command with its values, of which there must be as many as it takes. -/
def Shape.command? : Shape → List String → Option Command
  | .plain command, [] => some command
  | .text command, [value] => some (command value)
  | .path command, [value] => if value.isEmpty then none else some (command value)
  | _, _ => none

/-- A command may have these values so far. -/
def Shape.accepts : Shape → List String → Bool
  | _, [] => true
  | .text _, [_] => true
  | .path _, [value] => !value.isEmpty
  | _, _ => false

/-- The arguments after a command's name. -/
inductive Tail where
  | values (options : Options) (values : List String)
  | help
  | fault

/-- Reads the arguments after a command's name; `fuel` is more than their number. A value is looked
at when it comes, so one that the command does not take is a fault whatever follows it. -/
def readTail (shape : Shape) (options : Options) (values : List String) :
    Nat → List String → Tail
  | _, [] => .values options values
  | 0, _ :: _ => .fault
  | fuel + 1, argument :: rest =>
    match piece options argument rest with
    | .option changed more => readTail shape changed values fuel more
    | .value value more =>
      let longer := values ++ [value]
      if shape.accepts longer then readTail shape options longer fuel more else .fault
    | .marker more => .values options (values ++ more)
    | .help => .help
    | .version => .fault
    | .fault => .fault

/-- Reads a command after its name. -/
def readCommand (options : Options) (shape : Shape) (rest : List String) : Arguments :=
  match readTail shape .none [] (rest.length + 1) rest with
  | .help => .help
  | .fault => .misuse
  | .values later values =>
    match shape.command? values with
    | none => .misuse
    | some command =>
      let all : Options := later.combine options
      .run ⟨all.settings.getD standardSettings, all.progress.getD .off, command⟩

/-- Reads what a request for help is about. -/
def readHelp : List String → Arguments
  | [] => .help
  | [topic] => if (shape? topic).isSome || topic = "help" then .help else .misuse
  | _ => .misuse

/-- Reads arguments from the first on; `fuel` is more than their number. -/
def readFrom (options : Options) : Nat → List String → Arguments
  | _, [] => .misuse
  | 0, _ :: _ => .misuse
  | fuel + 1, argument :: rest =>
    match piece options argument rest with
    | .option changed more => readFrom changed fuel more
    | .value "help" more => readHelp more
    | .value name more =>
      match shape? name with
      | some shape => readCommand options shape more
      | none => .misuse
    | .help => .help
    | .version => .version
    | .marker _ => .misuse
    | .fault => .misuse

/-- Reads a command line. -/
def read (arguments : List String) : Arguments :=
  readFrom .none (arguments.length + 1) arguments

end Arguments

end SourceIndex
