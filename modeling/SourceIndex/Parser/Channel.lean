import SourceIndex.Parser.Basic
import SourceIndex.Parser.Frame

/-!
# The channel to the parser

The parser is a worker process that answers every line it gets with one line. A channel holds at
most one worker. It starts the worker, replaces it when it fails or after so many requests, and ends
it.

How worker processes behave is a parameter: any process may answer whatever it likes or end at any
point. Main statements: a request to a channel that is not running, and one whose payload is not
ASCII, change nothing (`request_of_not_running`, `request_of_not_ascii`).
-/

set_option autoImplicit false

namespace SourceIndex

/-- The program of a worker and its arguments. -/
structure WorkerCommand where
  program : String
  args : List String
deriving DecidableEq, Repr

/-- A command as it would be typed. -/
def WorkerCommand.text (command : WorkerCommand) : String :=
  " ".intercalate (command.program :: command.args)

/-- How worker processes behave. `ω` is the state of what is around them, `ψ` that of a process. -/
structure Workers (ω ψ : Type) where
  /-- Starts a process, or tells why it cannot be started. -/
  launch : WorkerCommand → ω → Except String ψ × ω
  /-- What a process writes when it is sent a line, and its state afterwards if it has not ended. A
  process that closes its output has ended. -/
  receive : ψ → Bytes → ω → (Bytes × Option ψ) × ω

/-- A worker that a channel holds. -/
structure Held (ψ : Type) where
  /-- The process, if it has not ended. -/
  process : Option ψ
  /-- What the process wrote and nobody has read. -/
  unread : Bytes

/-- A channel to the parser. -/
structure Channel (ψ : Type) where
  command : WorkerCommand
  state : ChannelState
  worker : Option (Held ψ)
  /-- The worker is replaced when it has been sent this many requests. -/
  recycleAfter : Nat
  /-- The requests that count toward the next replacement. -/
  served : Nat
  /-- How often the worker was replaced. -/
  restarts : Nat

/-- A channel and what is around its workers. -/
structure Link (ω ψ : Type) where
  channel : Channel ψ
  world : ω

namespace Channel

variable {ω ψ : Type}

/-- The requests after which a worker is replaced where nothing else is said. -/
def standardRecycling : Nat := 10000

/-- A channel that was not started. It replaces its worker after `recycleAfter` requests, or after
every request if that is zero. -/
def make (command : WorkerCommand) (recycleAfter : Nat) : Channel ψ :=
  ⟨command, .notStarted, none, max 1 recycleAfter, 0, 0⟩

/-- Sends a message to a worker and reads its answer. A process that ended gives no answer. The
answer is the first line that was not read yet, or what a process wrote last before it ended; a
process that goes on without having written a whole line gives none. -/
def exchange (workers : Workers ω ψ) (message : String) (held : Held ψ) (world : ω) :
    Except Frame.Fault String × Held ψ × ω :=
  match held.process with
  | none => (.error .closed, held, world)
  | some process =>
    let answered := workers.receive process (Frame.write message) world
    let output := held.unread ++ answered.1.1
    let next := answered.1.2
    match Frame.firstLine? output with
    | some (line, rest) => (Frame.read line, ⟨next, rest⟩, answered.2)
    | none =>
      if next.isSome || output.isEmpty then (.error .closed, ⟨next, []⟩, answered.2)
      else (Frame.read output, ⟨next, []⟩, answered.2)

/-- Launches a worker, which has to send the start message back. -/
def launch (workers : Workers ω ψ) (command : WorkerCommand) (world : ω) :
    Except ParserError (Held ψ) × ω :=
  match workers.launch command world with
  | (.error reason, after) => (.error (.spawn command.text reason), after)
  | (.ok process, after) =>
    match exchange workers startMessage ⟨some process, []⟩ after with
    | (.error fault, _, done) => (.error (.handshake ("<" ++ fault.message ++ ">")), done)
    | (.ok reply, held, done) =>
      if reply = startMessage then (.ok held, done) else (.error (.handshake reply), done)

/-- Sends a worker the end message: whether the worker sends it back. -/
def confirmEnd (workers : Workers ω ψ) (held : Held ψ) (world : ω) : Bool × ω :=
  match exchange workers endMessage held world with
  | (.ok reply, _, after) => (reply == endMessage, after)
  | (.error _, _, after) => (false, after)

/-- Starts a channel. A channel that is running is left alone, and so is one whose worker cannot be
launched. -/
def start (workers : Workers ω ψ) (link : Link ω ψ) : Except ParserError Unit × Link ω ψ :=
  if link.channel.state = .running then (.ok (), link)
  else
    match launch workers link.channel.command link.world with
    | (.error error, world) => (.error error, { link with world := world })
    | (.ok held, world) =>
      let channel := { link.channel with state := .running, worker := some held, served := 0 }
      (.ok (), ⟨channel, world⟩)

/-- Stops a channel: whether its worker confirmed that it ends. -/
def stop (workers : Workers ω ψ) (link : Link ω ψ) : Bool × Link ω ψ :=
  let channel := { link.channel with state := .stopped, worker := none }
  match link.channel.worker with
  | none => (false, ⟨channel, link.world⟩)
  | some held =>
    let ended := confirmEnd workers held link.world
    (ended.1, ⟨channel, ended.2⟩)

/-- Launches a worker in the place of the one before. A channel that gets none is stopped. -/
def replace (workers : Workers ω ψ) (channel : Channel ψ) (world : ω) :
    Except ParserError Unit × Link ω ψ :=
  match launch workers channel.command world with
  | (.error error, after) =>
    (.error error, ⟨{ channel with state := .stopped, worker := none }, after⟩)
  | (.ok held, after) =>
    let restarted := { channel with
      state := .running, worker := some held, served := 0, restarts := channel.restarts + 1 }
    (.ok (), ⟨restarted, after⟩)

/-- Replaces the worker of a running channel. Unless it is forced, the worker must confirm that it
ends, and the channel is stopped if it does not. -/
def restart (workers : Workers ω ψ) (force : Bool) (link : Link ω ψ) :
    Except ParserError Unit × Link ω ψ :=
  let channel := link.channel
  if channel.state ≠ .running then (.error (.notRunning channel.state), link)
  else
    match channel.worker, force with
    | some held, false =>
      let ended := confirmEnd workers held link.world
      if ended.1 then replace workers channel ended.2
      else
        (.error .unreachable, ⟨{ channel with state := .stopped, worker := none }, ended.2⟩)
    | _, _ => replace workers channel link.world

/-- A text of ASCII characters. -/
def isAscii (text : String) : Bool :=
  text.toList.all Text.isAscii

/-- Sends a message to the worker of a channel. If that gives no answer the worker is replaced, and
the answer is empty. -/
def send (workers : Workers ω ψ) (message : String) (link : Link ω ψ) :
    Except ParserError String × Link ω ψ :=
  let failed (after : Link ω ψ) : Except ParserError String × Link ω ψ :=
    match restart workers true after with
    | (.ok (), restarted) => (.ok "", restarted)
    | (.error error, stopped) => (.error error, stopped)
  match link.channel.worker with
  | none => failed link
  | some held =>
    match exchange workers message held link.world with
    | (.ok reply, kept, world) => (.ok reply, ⟨{ link.channel with worker := some kept }, world⟩)
    | (.error _, kept, world) => failed ⟨{ link.channel with worker := some kept }, world⟩

/-- Asks the parser. A worker that has been sent enough requests is replaced first. -/
def request (workers : Workers ω ψ) (kind : RequestKind) (payload : String) (link : Link ω ψ) :
    Except ParserError String × Link ω ψ :=
  let channel := link.channel
  if channel.state ≠ .running then (.error (.notRunning channel.state), link)
  else if !isAscii payload then (.error .nonAscii, link)
  else
    let counted : Link ω ψ := { link with channel := { channel with served := channel.served + 1 } }
    if counted.channel.served < channel.recycleAfter then
      send workers (kind.message payload) counted
    else
      match restart workers false counted with
      | (.error error, stopped) => (.error error, stopped)
      | (.ok (), restarted) => send workers (kind.message payload) restarted

/-- Gives up a channel, which ends the worker it holds. -/
def close (workers : Workers ω ψ) (link : Link ω ψ) : ω :=
  if link.channel.worker.isSome then (stop workers link).2.world else link.world

/-- A request to a channel that is not running changes nothing. -/
theorem request_of_not_running (workers : Workers ω ψ) (kind : RequestKind) (payload : String)
    (link : Link ω ψ) (idle : link.channel.state ≠ .running) :
    request workers kind payload link = (.error (.notRunning link.channel.state), link) := by
  simp [request, idle]

/-- A request whose payload is not ASCII changes nothing. -/
theorem request_of_not_ascii (workers : Workers ω ψ) (kind : RequestKind) (payload : String)
    (link : Link ω ψ) (running : link.channel.state = .running)
    (foreign : isAscii payload = false) :
    request workers kind payload link = (.error .nonAscii, link) := by
  simp [request, running, foreign]

end Channel

end SourceIndex
