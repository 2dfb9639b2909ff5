import SourceIndex.Text.Printable

/-!
# Talking to the parser

What the parser is asked for and how a request can fail. A request is one message: a word for the
kind of request, directly followed by its payload.

Main statement: every error but one makes the parser unusable (`isFatal_iff`).
-/

set_option autoImplicit false

namespace SourceIndex

/-- What the parser is asked to parse. -/
inductive RequestKind where
  /-- Source text, sent along. -/
  | source
  /-- A file, by its absolute path. -/
  | file
  /-- Every file below a directory, by its absolute path, answered at once. -/
  | directory
deriving DecidableEq, Repr

/-- The word that a message starts with. -/
def RequestKind.word : RequestKind → String
  | .source => "PARSE_STRING_-_"
  | .file => "PARSE_FILE_-_"
  | .directory => "PARSE_FOLDER_-_"

/-- The message of a request. -/
def RequestKind.message (kind : RequestKind) (payload : String) : String :=
  kind.word ++ payload

/-- Where a channel to the parser stands. -/
inductive ChannelState where
  | notStarted
  | running
  | restarting
  | stopped
deriving DecidableEq, Repr

/-- The name of a state. -/
def ChannelState.name : ChannelState → String
  | .notStarted => "NotStarted"
  | .running => "Running"
  | .restarting => "Restarting"
  | .stopped => "Stopped"

/-- Sent to a fresh worker, which must send it back. -/
def startMessage : String := "START_OF_TRANSMISSION"

/-- Sent to a worker before it is ended, which must send it back. -/
def endMessage : String := "END_OF_TRANSMISSION"

/-- Why a request to the parser, or the launch of its worker, failed. -/
inductive ParserError where
  /-- The worker's program could not be started. -/
  | spawn (command reason : String)
  /-- A fresh worker did not send the start message back. -/
  | handshake (got : String)
  /-- The worker did not confirm that it ends. -/
  | unreachable
  | notRunning (state : ChannelState)
  /-- The payload has characters that a message cannot carry. -/
  | nonAscii
deriving DecidableEq, Repr

namespace ParserError

/-- The wording of an error. -/
def message : ParserError → String
  | .spawn command reason => "failed to launch parser worker `" ++ command ++ "`: " ++ reason
  | .handshake got =>
    "parser worker handshake failed: expected " ++ Text.quote startMessage ++ ", got " ++
      Text.quote got
  | .unreachable => "parser worker did not acknowledge shutdown; worker is unreachable"
  | .notRunning state => "parser channel is not running (state: " ++ state.name ++ ")"
  | .nonAscii => "request payload is not ASCII"

/-- After a fatal error the parser can no longer be used. -/
def isFatal : ParserError → Bool
  | .nonAscii => false
  | _ => true

/-- Every error but one is fatal. -/
theorem isFatal_iff (error : ParserError) : error.isFatal = true ↔ error ≠ .nonAscii := by
  cases error <;> simp [isFatal]

end ParserError

/-- What comes of a request. -/
inductive ParserReply where
  /-- The parser's answer; an empty one means that the worker failed and was replaced. -/
  | text (answer : String)
  | failed (error : ParserError)
  /-- The task that made the request died. -/
  | crashed
deriving DecidableEq, Repr

end SourceIndex
