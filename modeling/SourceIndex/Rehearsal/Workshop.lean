import SourceIndex.Parser.Channel
import SourceIndex.Program

/-!
# Rehearsed workers

Worker processes that act by a script. Every launch begins a life, which has prepared replies for
some messages and sends every other line back. A workshop counts the launches and keeps a log of
them and of the messages that its workers read.
-/

set_option autoImplicit false

namespace SourceIndex.Rehearsal

/-- What a worker does with a message. -/
inductive WorkerReply where
  /-- It ends without an answer. -/
  | exit
  /-- It writes these bytes, and may end then. -/
  | output (bytes : Bytes) (thenExit : Bool)
  /-- It writes the line that it got, and may end then. -/
  | echo (thenExit : Bool)
deriving DecidableEq, Repr

/-- The prepared replies to one message, given in turn; the last one is given again and again. -/
structure WorkerRule where
  message : String
  replies : List WorkerReply
deriving DecidableEq, Repr

/-- How a worker acts from its launch to its end. -/
structure Life where
  rules : List WorkerRule
  /-- The reply to a message without a rule. -/
  fallback : WorkerReply
deriving DecidableEq, Repr

namespace Life

/-- The life of a worker that sends every line back. -/
def plain : Life :=
  ⟨[], .echo false⟩

/-- The reply of a rule, and the rule after it. -/
def nextReply (fallback : WorkerReply) (rule : WorkerRule) : WorkerReply × WorkerRule :=
  match rule.replies with
  | [] => (fallback, rule)
  | [last] => (last, rule)
  | reply :: rest => (reply, { rule with replies := rest })

/-- The reply of the first rule for a message, and the rules after it. -/
def replyAmong (fallback : WorkerReply) (message : String) :
    List WorkerRule → WorkerReply × List WorkerRule
  | [] => (fallback, [])
  | rule :: rest =>
    if rule.message = message then
      let next := nextReply fallback rule
      (next.1, next.2 :: rest)
    else
      let later := replyAmong fallback message rest
      (later.1, rule :: later.2)

/-- What a worker writes when it gets a line with a message, and its life from then on. -/
def answer (life : Life) (message : String) (line : Bytes) : Bytes × Option Life :=
  let reply := replyAmong life.fallback message life.rules
  let after : Life := { life with rules := reply.2 }
  match reply.1 with
  | .exit => ([], none)
  | .output bytes thenExit => (bytes, if thenExit then none else some after)
  | .echo thenExit => (line, if thenExit then none else some after)

end Life

/-- An entry in the log of a workshop. -/
inductive WorkerEntry where
  | launched (args : List String)
  /-- A message was read, with the bytes that ended its line. -/
  | received (message : String) (ending : Bytes)
deriving DecidableEq, Repr

/-- Where scripted workers are launched. -/
structure Workshop where
  /-- The disk that the worker's program is on. -/
  disk : Disk
  /-- The directory that relative paths start from. -/
  current : String
  /-- The path of the worker's program. -/
  program : String
  /-- The lives of the workers in the order of their launch; the last one is lived again and
  again. -/
  lives : List Life
  launches : Nat
  log : List WorkerEntry
  /-- Messages are kept in the log. -/
  logsMessages : Bool

namespace Workshop

/-- A workshop in which nothing was launched. -/
def make (disk : Disk) (current program : String) (lives : List Life) (logsMessages : Bool) :
    Workshop :=
  ⟨disk, current, program, lives, 0, [], logsMessages⟩

/-- The life of the next worker. -/
def nextLife (workshop : Workshop) : Life :=
  (workshop.lives[min workshop.launches (workshop.lives.length - 1)]?).getD .plain

/-- Launches a worker if its program can be started. -/
def launch (command : WorkerCommand) (workshop : Workshop) : Except String Life × Workshop :=
  let call : ProgramCall := ⟨command.program, command.args, none⟩
  match call.start workshop.disk workshop.current workshop.program with
  | .error error => (.error error.message, workshop)
  | .ok _ =>
    let after := { workshop with
      launches := workshop.launches + 1, log := workshop.log ++ [.launched command.args] }
    (.ok workshop.nextLife, after)

/-- The base64 text of a line, and the bytes that end it. -/
def splitEnding (line : Bytes) : Bytes × Bytes :=
  let isLetter (byte : UInt8) : Bool := byte != 13 && byte != Frame.lineFeed
  (line.takeWhile isLetter, line.dropWhile isLetter)

/-- Lets a worker read a line. -/
def receive (life : Life) (line : Bytes) (workshop : Workshop) :
    (Bytes × Option Life) × Workshop :=
  let parts := splitEnding line
  let message :=
    match Base64.decode parts.1 with
    | .ok bytes => Utf8.toStringLossy bytes
    | .error _ => ""
  let entries := if workshop.logsMessages then [WorkerEntry.received message parts.2] else []
  (life.answer message line, { workshop with log := workshop.log ++ entries })

/-- The behaviour of scripted workers. -/
def workers : Workers Workshop Life :=
  ⟨launch, receive⟩

end Workshop

end SourceIndex.Rehearsal
