import SourceIndex.Collaborators

/-!
# Rehearsals of a sync

A stage is a set of parties that act by a script: the hosting service answers for published
addresses, the parser gives prepared replies in turn, the mirror succeeds or fails as told, the disk
is a value, and rules make operations of the index fail. A sync on a stage shows what it does
without a network, a parser or a database.
-/

set_option autoImplicit false

namespace SourceIndex.Rehearsal

/-- The prepared replies for one request, given in turn; the last one is given again and again. -/
structure Cue where
  kind : RequestKind
  payload : String
  replies : List ParserReply

/-- The reply of a cue, and the cue after it. -/
def Cue.next (cue : Cue) : ParserReply × Cue :=
  match cue.replies with
  | [] => (.text "", cue)
  | [last] => (last, cue)
  | reply :: rest => (reply, { cue with replies := rest })

/-- Cues for different requests. -/
abbrev Script := List Cue

/-- The script's reply to a request, which is empty without a cue, and the script after it. -/
def Script.reply (kind : RequestKind) (payload : String) : Script → ParserReply × Script
  | [] => (.text "", [])
  | cue :: rest =>
    if cue.kind = kind ∧ cue.payload = payload then (cue.next.1, cue.next.2 :: rest)
    else
      let later := Script.reply kind payload rest
      (later.1, cue :: later.2)

/-- Adds a cue in the place of one for the same request. -/
def Script.add (script : Script) (cue : Cue) : Script :=
  (script.filter fun old => !(old.kind = cue.kind ∧ old.payload = cue.payload)) ++ [cue]

/-- Makes an operation fail, for one id or for all. -/
structure Rule where
  method : Method
  id : Option String
  chain : Chain

/-- The rule is about an operation. -/
def Rule.covers (rule : Rule) (operation : Operation) : Bool :=
  rule.method == operation.method && (rule.id == none || rule.id == some operation.id)

/-- What the hosting service has for an address. -/
inductive HostEntry where
  | project (remote : RemoteProject)
  | failure (chain : Chain)

/-- The scripted parties of a sync. -/
structure Stage where
  disk : Disk
  /-- The directory that relative paths start from. -/
  current : String
  host : Keyed (String × HostEntry) Prod.fst
  mirrorFailure : Option Chain
  script : Script
  rules : List Rule

namespace Stage

/-- A stage on which nothing is prepared. -/
def bare (current : String) : Stage :=
  ⟨Disk.empty.write "/" current .directory, current, Keyed.empty, none, [], []⟩

/-- The answer of the hosting service. -/
def resolve (address : String) (stage : Stage) : Except Chain (Option RemoteProject) :=
  match stage.host.find? address with
  | none => .ok none
  | some (_, .project remote) => .ok (some remote)
  | some (_, .failure chain) => .error chain

/-- The scripted parties. -/
def team : Collaborators Stage where
  resolve address stage := (stage.resolve address, stage)
  mirror _ stage :=
    match stage.mirrorFailure with
    | none => (.ok (), stage)
    | some chain => (.error chain, stage)
  ask kind payload stage :=
    let answered := stage.script.reply kind payload
    (answered.1, { stage with script := answered.2 })
  read path stage := stage.disk.read stage.current path
  pathExists path stage := stage.disk.pathExists stage.current path
  refuse operation stage :=
    ((stage.rules.find? fun rule => rule.covers operation).map Rule.chain, stage)

end Stage

end SourceIndex.Rehearsal
