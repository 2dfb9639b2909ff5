import SourceIndex.Proofs.Extraction

/-!
# Exchanges with the parser

What is asked about files and about a working copy, with the replies to it. The parser is asked for
a file once, and once more if its first answer was empty (`AboutFile`). For files in turn it is
asked in this way about each of them, up to the first reply that leaves it unusable (`AboutFiles`).
About a working copy it is asked for the directory, and then, if the answer covers any files, for
the eligible ones that it does not cover (`AboutCopy`).

Main statements: the replies determine how often each file is asked for and where it ends
(`AboutFiles.unique`), also with a directory before (`AboutCopy.unique`).
-/

set_option autoImplicit false

namespace SourceIndex

variable {ε : Type}

/-! ## Exchanges with the parser -/

/-- A request to the parser, with the reply to it. -/
structure Exchange where
  kind : RequestKind
  payload : String
  reply : ParserReply

/-- The request of an exchange. -/
def Exchange.request (exchange : Exchange) : RequestKind × String :=
  (exchange.kind, exchange.payload)

/-- From one world to another these exchanges take place, and they alone change the world. -/
inductive Collaborators.Converses (team : Collaborators ε) : ε → List Exchange → ε → Prop where
  | done (world : ε) : Converses team world [] world
  | next {world last : ε} {kind : RequestKind} {payload : String} {rest : List Exchange}
      (later : Converses team (team.ask kind payload world).2 rest last) :
      Converses team world (⟨kind, payload, (team.ask kind payload world).1⟩ :: rest) last

/-- The first reply is what the parser says in the first world. -/
theorem Collaborators.Converses.of_cons {team : Collaborators ε} {world last : ε}
    {exchange : Exchange} {rest : List Exchange}
    (talk : team.Converses world (exchange :: rest) last) :
    exchange.reply = (team.ask exchange.kind exchange.payload world).1 ∧
      team.Converses (team.ask exchange.kind exchange.payload world).2 rest last := by
  cases talk with
  | next later => exact ⟨rfl, later⟩

theorem Collaborators.Converses.append {team : Collaborators ε} {first second third : ε}
    {exchanges others : List Exchange} (earlier : team.Converses first exchanges second)
    (later : team.Converses second others third) :
    team.Converses first (exchanges ++ others) third := by
  induction earlier with
  | done world => exact later
  | next _ ih => exact .next (ih later)

/-- Between two sessions these requests were noted in the trace, and no others. -/
def Session.Requested (before after : Session ε) (requests : List (RequestKind × String)) : Prop :=
  ∃ acts, after.trace = before.trace ++ acts ∧ acts.filterMap Act.request? = requests

/-- From one session to the next these exchanges took place and were noted. -/
structure Session.Talks (team : Collaborators ε) (exchanges : List Exchange)
    (before after : Session ε) : Prop where
  world : team.Converses before.world exchanges after.world
  requested : before.Requested after (exchanges.map Exchange.request)

namespace Session

variable {team : Collaborators ε} {exchanges others : List Exchange}
variable {requests further : List (RequestKind × String)} {first second third : Session ε}

theorem Requested.trans (earlier : first.Requested second requests)
    (later : second.Requested third further) : first.Requested third (requests ++ further) := by
  obtain ⟨acts, extended, rfl⟩ := earlier
  obtain ⟨rest, continued, rfl⟩ := later
  exact ⟨acts ++ rest, by rw [continued, extended, List.append_assoc], List.filterMap_append⟩

/-- Where no act is a request, no requests are noted. -/
theorem Requested.of_adds (adds : Adds (fun act => act.request? = none) first second) :
    first.Requested second [] := by
  obtain ⟨acts, extended, unasked⟩ := adds
  exact ⟨acts, extended, List.filterMap_eq_nil_iff.2 unasked⟩

theorem Talks.refl (session : Session ε) : Talks team [] session session :=
  ⟨.done _, [], (List.append_nil _).symm, rfl⟩

theorem Talks.trans (earlier : first.Talks team exchanges second)
    (later : second.Talks team others third) : first.Talks team (exchanges ++ others) third where
  world := earlier.world.append later.world
  requested := by
    rw [List.map_append]
    exact earlier.requested.trans later.requested

theorem talks_asked (team : Collaborators ε) (kind : RequestKind) (payload : String)
    (session : Session ε) :
    session.Talks team [⟨kind, payload, (team.ask kind payload session.world).1⟩]
      (session.asked team kind payload) :=
  ⟨.next (.done _), [.asked kind payload], rfl, rfl⟩

theorem talks_read (team : Collaborators ε) (path : String) (session : Session ε) :
    session.Talks team [] (session.record (.read path)) :=
  ⟨.done _, [.read path], rfl, rfl⟩

end Session

/-! ## Questions about files -/

/-- The end of the work that this reply is an answer to, if it leaves the parser unusable. -/
def ParserReply.halt? : ParserReply → Option Halt
  | .text _ => none
  | .failed error => if error.isFatal then some (.failed (.parser error)) else none
  | .crashed => some .crashed

/-- The parser is asked for a file, and once more if and only if the first answer is empty. The last
reply is what it says of the file. -/
inductive AboutFile (target : String) : List Exchange → ParserReply → Prop where
  | once {reply : ParserReply} (told : reply ≠ .text "") :
      AboutFile target [⟨.file, target, reply⟩] reply
  | twice (reply : ParserReply) :
      AboutFile target [⟨.file, target, .text ""⟩, ⟨.file, target, reply⟩] reply

/-- The parser is asked for files in turn, until a reply leaves it unusable. -/
inductive AboutFiles : List String → List Exchange → Option Halt → Prop where
  | done : AboutFiles [] [] none
  | next {target : String} {rest : List String} {exchanges others : List Exchange}
      {reply : ParserReply} {halt : Option Halt} (about : AboutFile target exchanges reply)
      (usable : reply.halt? = none) (later : AboutFiles rest others halt) :
      AboutFiles (target :: rest) (exchanges ++ others) halt
  | broken {target : String} {rest : List String} {exchanges : List Exchange}
      {reply : ParserReply} {halt : Halt} (about : AboutFile target exchanges reply)
      (unusable : reply.halt? = some halt) :
      AboutFiles (target :: rest) exchanges (some halt)

/-- How often a file is asked for is determined by the replies. -/
theorem AboutFile.unique {team : Collaborators ε} {world last final : ε} {target : String}
    {exchanges others rest remains : List Exchange} {reply answer : ParserReply}
    (first : AboutFile target exchanges reply) (second : AboutFile target others answer)
    (talk : team.Converses world (exchanges ++ rest) last)
    (again : team.Converses world (others ++ remains) final) :
    exchanges = others ∧ reply = answer ∧
      ∃ next, team.Converses next rest last ∧ team.Converses next remains final := by
  cases first with
  | once told =>
    obtain ⟨given, onward⟩ := talk.of_cons
    cases second with
    | once heard =>
      obtain ⟨same, going⟩ := again.of_cons
      dsimp only at given same
      cases given.trans same.symm
      exact ⟨rfl, rfl, _, onward, going⟩
    | twice => exact absurd (given.trans again.of_cons.1.symm) told
  | twice =>
    obtain ⟨silent, onward⟩ := talk.of_cons
    obtain ⟨given, onward⟩ := Collaborators.Converses.of_cons onward
    cases second with
    | once heard => exact absurd (again.of_cons.1.trans silent.symm) heard
    | twice =>
      obtain ⟨-, going⟩ := again.of_cons
      obtain ⟨same, going⟩ := Collaborators.Converses.of_cons going
      dsimp only at given same
      cases given.trans same.symm
      exact ⟨rfl, rfl, _, onward, going⟩

namespace AboutFiles

variable {targets others : List String} {exchanges later : List Exchange}

theorem append {halt : Option Halt} (first : AboutFiles targets exchanges none)
    (second : AboutFiles others later halt) :
    AboutFiles (targets ++ others) (exchanges ++ later) halt := by
  generalize ended : (none : Option Halt) = reason at first
  induction first with
  | done => exact second
  | next about usable _ ih =>
    rw [List.append_assoc]
    exact .next about usable (ih ended)
  | broken => cases ended

/-- After the parser is unusable, nobody asks for the files that are left. -/
theorem append_of_broken {halt : Halt} (first : AboutFiles targets exchanges (some halt))
    (others : List String) : AboutFiles (targets ++ others) exchanges (some halt) := by
  generalize ended : some halt = reason at first ⊢
  induction first with
  | done => cases ended
  | next about usable _ ih => exact .next about usable (ih ended)
  | broken about unusable => exact .broken about unusable

/-- One file is asked for, whatever is said of it. -/
theorem single {target : String} {reply : ParserReply} (about : AboutFile target exchanges reply) :
    AboutFiles [target] exchanges reply.halt? := by
  cases ended : reply.halt? with
  | none =>
    rw [← List.append_nil exchanges]
    exact .next about ended .done
  | some halt => exact .broken about ended

/-- For which files the parser is asked, and how often, is determined by its replies. -/
theorem unique {team : Collaborators ε} {world last final : ε} {halt reason : Option Halt}
    (first : AboutFiles targets exchanges halt) (second : AboutFiles targets later reason)
    (talk : team.Converses world exchanges last) (again : team.Converses world later final) :
    exchanges = later ∧ halt = reason := by
  induction first generalizing later reason world with
  | done =>
    cases second
    exact ⟨rfl, rfl⟩
  | next about usable _ ih =>
    cases second with
    | next about' usable' onward =>
      obtain ⟨rfl, rfl, next, going, continued⟩ := about.unique about' talk again
      obtain ⟨rfl, rfl⟩ := ih onward going continued
      exact ⟨rfl, rfl⟩
    | broken about' unusable =>
      rw [← List.append_nil later] at again
      obtain ⟨-, rfl, -⟩ := about.unique about' talk again
      rw [usable] at unusable
      cases unusable
  | @broken _ _ exchanges _ _ about unusable =>
    rw [← List.append_nil exchanges] at talk
    cases second with
    | next about' usable _ =>
      obtain ⟨-, rfl, -⟩ := about.unique about' talk again
      rw [unusable] at usable
      cases usable
    | broken about' unusable' =>
      rw [← List.append_nil later] at again
      obtain ⟨rfl, rfl, -⟩ := about.unique about' talk again
      exact ⟨rfl, unusable.symm.trans unusable'⟩

end AboutFiles

/-! ## Questions about a working copy -/

namespace Extraction

instance (policy : Policy) (file : FileRecord) : Decidable (Eligible policy file) :=
  inferInstanceAs (Decidable (_ ∧ _))

/-- The file to ask for when the record of a file is extracted: none if the file is not eligible, or
if it is covered already. -/
def wanted? (policy : Policy) (covered : List String) (path : String) (file : FileRecord) :
    Option String :=
  if Eligible policy file ∧ Path.key path ∉ covered then some (Path.key path) else none

/-- The files below a directory to ask for when these records are extracted, in order. -/
def wantedBelow (policy : Policy) (covered : List String) (directory : String)
    (files : List FileRecord) : List String :=
  files.filterMap fun file => wanted? policy covered (Path.join directory file.path) file

end Extraction

open Extraction

/-- The reply gives the structures of files and covers the files under these keys: it is a non-empty
object of objects. -/
inductive ParserReply.Covers : ParserReply → List String → Prop where
  | intro {answer : String} {members : Json.Members}
      (spelled : Json.parseObject? answer = some members) (filled : members ≠ [])
      (objects : ∀ member ∈ members, ∃ inner, member.2 = .object inner) :
      Covers (.text answer) (members.map fun member => Path.key member.1)

theorem ParserReply.Covers.unique {reply : ParserReply} {covered others : List String}
    (first : reply.Covers covered) (second : reply.Covers others) : covered = others := by
  obtain ⟨spelled, -, -⟩ := first
  obtain ⟨spelled', -, -⟩ := second
  cases spelled.symm.trans spelled'
  rfl

/-- The parser is asked for the directory of a working copy, and if this gives structures, for the
eligible files that they do not cover. -/
inductive AboutCopy (policy : Policy) (directory : String) (files : List FileRecord) :
    List Exchange → Option Halt → Prop where
  | uncovered {reply : ParserReply} (uncovered : ∀ covered, ¬reply.Covers covered) :
      AboutCopy policy directory files [⟨.directory, Path.key directory, reply⟩] reply.halt?
  | covered {reply : ParserReply} {covered : List String} {exchanges : List Exchange}
      {halt : Option Halt} (covers : reply.Covers covered)
      (about : AboutFiles (wantedBelow policy covered directory files) exchanges halt) :
      AboutCopy policy directory files (⟨.directory, Path.key directory, reply⟩ :: exchanges) halt

/-- What is asked about a working copy is determined by the replies. -/
theorem AboutCopy.unique {team : Collaborators ε} {world last final : ε} {policy : Policy}
    {directory : String} {files : List FileRecord} {exchanges others : List Exchange}
    {halt reason : Option Halt} (first : AboutCopy policy directory files exchanges halt)
    (second : AboutCopy policy directory files others reason)
    (talk : team.Converses world exchanges last) (again : team.Converses world others final) :
    exchanges = others ∧ halt = reason := by
  cases first with
  | uncovered uncovered =>
    obtain ⟨given, -⟩ := talk.of_cons
    cases second with
    | uncovered =>
      cases given.trans again.of_cons.1.symm
      exact ⟨rfl, rfl⟩
    | covered covers =>
      cases given.trans again.of_cons.1.symm
      exact absurd covers (uncovered _)
  | covered covers about =>
    obtain ⟨given, onward⟩ := talk.of_cons
    cases second with
    | uncovered uncovered =>
      cases given.trans again.of_cons.1.symm
      exact absurd covers (uncovered _)
    | covered covers' about' =>
      obtain ⟨same, going⟩ := again.of_cons
      cases given.trans same.symm
      obtain rfl := covers.unique covers'
      obtain ⟨rfl, rfl⟩ := about.unique about' onward going
      exact ⟨rfl, rfl⟩

end SourceIndex
