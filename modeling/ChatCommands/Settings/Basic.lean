import ChatCommands.Duration.Basic
import ChatCommands.LeadIn

/-! # Settings

What an operator may configure. Every setting has a default.
-/

namespace ChatCommands

inductive ExecutionMode
  /-- Handlers run on the task that dispatches the message. -/
  | inline
  /-- Handlers run on lanes, in order where their keys agree. -/
  | scheduled
  deriving DecidableEq, Repr, Inhabited

structure Settings where
  /-- The mark that commands start with. -/
  mark : String := "-"
  optionalInPrivate : Bool := false
  mentionOf? : Option UInt64 := none
  developers : List UInt64 := []
  execution : ExecutionMode := .inline
  /-- The greatest number of running cooldowns. -/
  cooldownCapacity : Nat := 10000
  waiterSecs : Nat := 30
  /-- Zero keeps page sessions from expiring. -/
  pagesSecs : Nat := 120
  logLevel : String := "info"
  deriving DecidableEq, Repr, Inhabited

namespace Settings

def isDeveloper (settings : Settings) (user : UInt64) : Bool :=
  settings.developers.contains user

def waiterTimeout (settings : Settings) : Duration :=
  .ofSecs settings.waiterSecs

def pagesExpiry? (settings : Settings) : Option Duration :=
  if settings.pagesSecs == 0 then none else some (.ofSecs settings.pagesSecs)

def leadIns (settings : Settings) : LeadIns where
  marks := [.literal settings.mark]
  mentionOf? := settings.mentionOf?
  optionalInPrivate := settings.optionalInPrivate

end Settings

end ChatCommands
