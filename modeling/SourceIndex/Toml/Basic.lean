/-!
# Documents of named values

The values of a settings file: texts, numbers, dates, lists, and tables of named values. A table
remembers how it came to be, because that decides what the rest of the file may still add to it:

* a table that only the path of a header mentions can get a header of its own;
* a table that a dotted key made can get more dotted keys;
* a table with a header, or one written in braces, is complete.

`Document.take` adds one statement of a file to what the statements before it made, and refuses one
that names a value twice or reopens a table that is complete.
-/

set_option autoImplicit false

namespace SourceIndex

/-- How a table came to be. -/
inductive TableOrigin where
  /-- It has a header of its own. -/
  | header
  /-- The path of a header goes through it. -/
  | path
  /-- A dotted key goes through it. -/
  | dotted
  /-- It is written in braces. -/
  | braces
deriving DecidableEq, Repr

/-- A value of a settings file. -/
inductive Toml where
  | string (value : String)
  | integer (value : Int)
  /-- A number that is not whole or not finite, as it is spelled. -/
  | float (spelling : List Char)
  | boolean (value : Bool)
  /-- A date, a time of day or both, as it is spelled. -/
  | moment (spelling : List Char)
  | array (items : List Toml)
  | table (origin : TableOrigin) (entries : List (String × Toml))
  /-- Tables that share one header, which stands once before each. -/
  | tables (items : List (List (String × Toml)))

namespace Toml

/-- Named values. -/
abbrev Entries := List (String × Toml)

/-- The value under a name. -/
def member? (name : String) (entries : Entries) : Option Toml :=
  entries.lookup name

/-- Changes the value under a name, which is `fresh` if there is none. -/
def change (name : String) (fresh : Toml) (step : Toml → Option Toml) :
    Entries → Option Entries
  | [] => (step fresh).map fun value => [(name, value)]
  | (other, value) :: rest =>
    if other = name then (step value).map fun changed => (other, changed) :: rest
    else (change name fresh step rest).map fun changed => (other, value) :: changed

/-- A key of a file: the tables it goes through, and the name at its end. -/
structure Key where
  place : List String
  name : String
deriving DecidableEq, Repr

/-- All segments of a key. -/
def Key.segments (key : Key) : List String :=
  key.place ++ [key.name]

/-- Changes the last table of several. -/
def changeLast (step : Entries → Option Entries) (items : List Entries) : Option (List Entries) :=
  match items.reverse with
  | [] => none
  | last :: earlier => (step last).map fun changed => earlier.reverse ++ [changed]

/-- Changes the table at the place that a header names. Of several tables with one header the last
one is meant. -/
def atHeader (step : Entries → Option Entries) : List String → Entries → Option Entries
  | [], entries => step entries
  | name :: rest, entries =>
    change name (.table .path [])
      (fun
        | .table .braces _ => none
        | .table origin inner => (atHeader step rest inner).map (.table origin)
        | .tables items => (changeLast (atHeader step rest) items).map .tables
        | _ => none)
      entries

/-- Changes the table that a dotted key leads to. The key may pass tables that it could have made
itself, or that a header's path made, but must end in one that dotted keys made. -/
def atDotted (step : Entries → Option Entries) : List String → Entries → Option Entries
  | [], entries => step entries
  | name :: rest, entries =>
    change name (.table .dotted [])
      (fun
        | .table .dotted inner => (atDotted step rest inner).map (.table .dotted)
        | .table .path inner =>
          if rest.isEmpty then none else (atDotted step rest inner).map (.table .path)
        | .tables items =>
          if rest.isEmpty then none else (changeLast (atDotted step rest) items).map .tables
        | _ => none)
      entries

/-- Adds a value under a name that is not in use. -/
def add (name : String) (value : Toml) (entries : Entries) : Option Entries :=
  if (member? name entries).isSome then none else some (entries ++ [(name, value)])

/-- Assigns a value to a key. -/
def assign (key : Key) (value : Toml) (entries : Entries) : Option Entries :=
  atDotted (add key.name value) key.place entries

/-- Opens the table with a header. -/
def openTable (key : Key) (entries : Entries) : Option Entries :=
  atHeader
    (change key.name (.table .path [])
      fun
        | .table .path inner => some (.table .header inner)
        | _ => none)
    key.place entries

/-- Opens one more table with a header that several tables share. -/
def openItem (key : Key) (entries : Entries) : Option Entries :=
  atHeader
    (change key.name (.tables [])
      fun
        | .tables items => some (.tables (items ++ [[]]))
        | _ => none)
    key.place entries

/-- A statement of a file. -/
inductive Statement where
  | header (key : Key)
  /-- A header that several tables share. -/
  | item (key : Key)
  | assignment (key : Key) (value : Toml)

/-- What the statements of a file have made so far. -/
structure Document where
  entries : Entries
  /-- The table that assignments add to. -/
  place : List String

/-- Adds a statement. -/
def Document.take (document : Document) : Statement → Option Document
  | .header key =>
    (openTable key document.entries).map fun entries => ⟨entries, key.segments⟩
  | .item key => (openItem key document.entries).map fun entries => ⟨entries, key.segments⟩
  | .assignment key value =>
    (atHeader (assign key value) document.place document.entries).map
      fun entries => ⟨entries, document.place⟩

/-- What all statements of a file make. -/
def ofStatements (statements : List Statement) : Option Entries :=
  (statements.foldlM Document.take ⟨[], []⟩).map Document.entries

end Toml

end SourceIndex
