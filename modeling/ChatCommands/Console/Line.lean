import ChatCommands.Message
import ChatCommands.Number.Decimal
import ChatCommands.LeadIn
import ChatCommands.Text.Space

/-! # Lines of the console

Every line is a message. It is sent by user 1 in the channel of a guild, unless it starts with
`as` and the id of another user, or, after that, with `dm` for a private message.
-/

namespace ChatCommands.Console

open Number Text

def homeChannel : UInt64 := 100

def homeGuild : UInt64 := 200

/-- A line that is no message: what was taken for a user id, and why it is none. -/
structure LineError where
  id : String
  reason : DecimalError
  deriving DecidableEq, Repr

def LineError.message (e : LineError) : String :=
  s!"{e.id} is not a user id: {e.reason.message}"

/-- The sender that a line names, and the rest of the line. -/
def sender (line : List Char) : Except LineError (UInt64 × List Char) :=
  match afterMark? "as ".toList line with
  | none => .ok (1, line)
  | some named =>
    let id := named.takeWhile (· != ' ')
    match readWord id with
    | .ok n => .ok (UInt64.ofNat n, (named.dropWhile (· != ' ')).drop 1)
    | .error reason => .error ⟨String.ofList id, reason⟩

def contextOf (author : UInt64) (guild? : Option UInt64) : Context where
  author := { id := author, permissions := ["manage_channels"] }
  location := ⟨homeChannel, guild?⟩
  agentPermissions := ["manage_channels", "send_messages"]

def parseLine (line : String) : Except LineError Message :=
  (sender (trim line.toList)).map fun (author, rest) =>
    match afterMark? "dm ".toList rest with
    | some text => ⟨String.ofList text, contextOf author none⟩
    | none => ⟨String.ofList rest, contextOf author (some homeGuild)⟩

end ChatCommands.Console
