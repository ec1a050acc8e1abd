import ChatCommands.Cooldown.Basic
import ChatCommands.Parameter.Basic
import ChatCommands.Switch

/-! # Commands

A command is one invocable signature, with the commands below it. Commands are generic in the type
of their handlers, which only whoever runs them looks into.
-/

namespace ChatCommands

/-- What becomes of text that neither arguments nor switches use up. -/
inductive OverflowPolicy
  /-- The message does not fit the command. -/
  | fail
  /-- The text is dropped. -/
  | ignore
  deriving DecidableEq, Repr, Inhabited

/-- The value of a parameter and the text it was read from, which is empty for a default. -/
structure Argument where
  value : Value
  raw : String
  deriving Repr, Inhabited

/-- All that a message says to the command it invokes. -/
structure Invocation where
  /-- One argument for each parameter, in declaration order. -/
  arguments : List Argument
  switches : Given
  context : Context
  /-- The full text of the message. -/
  text : String
  /-- What the message started with to address the agent. -/
  leadIn : String
  /-- The triggers as typed, separated by spaces. -/
  trigger : String
  deriving Repr, Inhabited

def Invocation.values (invocation : Invocation) : List Value :=
  invocation.arguments.map Argument.value

/-- What a command declares about itself. -/
structure Signature (H : Type) where
  trigger : String
  aliases : List String := []
  caseSensitive : Bool := false
  description : String := ""
  examples : List String := []
  parameters : List Parameter := []
  switches : List Switch := []
  callerPermissions : List Permission := []
  agentPermissions : List Permission := []
  developerOnly : Bool := false
  hidden : Bool := false
  inGuilds : Bool := true
  inPrivate : Bool := true
  byBots : Bool := false
  cooldown? : Option Cooldown := none
  overflow : OverflowPolicy := .fail
  unknown : UnknownPolicy := .fail
  /-- Absent on a command that is there for its sub-commands only. -/
  handler? : Option H := none
  /-- Scheduled invocations with equal keys run one after another. -/
  orderingKey? : Option (Invocation → String) := none

namespace Signature

variable {H : Type}

/-- All triggers that a command answers to. -/
def names (s : Signature H) : List String :=
  s.trigger :: s.aliases

def isInvocable (s : Signature H) : Bool :=
  s.handler?.isSome

def isTriggerableIn (s : Signature H) (ctx : Context) : Bool :=
  if ctx.isPrivate then s.inPrivate else s.inGuilds

def orderingKey (s : Signature H) (invocation : Invocation) : Option String :=
  s.orderingKey?.map (· invocation)

/-- The argument for the first parameter of a name. -/
def argument? (s : Signature H) (invocation : Invocation) (name : String) : Option Value := do
  let position ← s.parameters.findIdx? (·.name == name)
  invocation.values[position]?

end Signature

/-- A named group of commands, for help listings. -/
structure Category where
  name : String
  description : String
  deriving DecidableEq, Repr, Inhabited

/-- The place of a command in its tree: its position among the top-level commands, then among the
sub-commands of each command above it. Commands that share a path never share a place. -/
abbrev CommandId := List Nat

/-- One level of a command tree. Commands stand in registration order, and each normalized name
lists the positions of the commands that answer to it. -/
structure Level (C : Type) where
  commands : List C := []
  index : List (String × List Nat) := []

structure Command (H : Type) extends Signature H where
  id : CommandId
  /-- The triggers from the top level down, separated by spaces. -/
  path : String
  usage : String
  category? : Option Category
  subcommands : Level (Command H)

end ChatCommands
