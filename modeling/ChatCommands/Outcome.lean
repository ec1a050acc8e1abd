import ChatCommands.Command.Basic

/-! # Outcomes

Every message that is dispatched comes to exactly one outcome. Only a failed handler is a fault;
all else is a regular answer, for the host to show or to ignore.
-/

namespace ChatCommands

/-- An error with the contexts it was wrapped in, innermost first. -/
structure Fault where
  root : String
  contexts : List String := []
  deriving DecidableEq, Repr, Inhabited

namespace Fault

/-- From the outermost context down to the root. -/
def chain (f : Fault) : List String :=
  f.contexts.reverse ++ [f.root]

def message (f : Fault) : String :=
  ": ".intercalate f.chain

/-- The outermost message alone. -/
def headline (f : Fault) : String :=
  f.chain.headD f.root

end Fault

/-- How a handler ends. -/
inductive Ending
  | done
  /-- The handler decided not to go through with it. -/
  | cancelled
  | failed (fault : Fault)
  /-- The handler panicked, with a message if there was one. -/
  | panicked (message? : Option String)
  deriving DecidableEq, Repr, Inhabited

inductive FailureCause
  | failed (fault : Fault)
  | panicked (message : String)
  deriving DecidableEq, Repr, Inhabited

def FailureCause.message : FailureCause → String
  | failed fault => fault.message
  | panicked message => s!"handler panicked: {message}"

structure ExecutionError where
  /-- The path of the command. -/
  command : String
  arguments : List Value
  cause : FailureCause
  deriving Repr, Inhabited

def ExecutionError.message (e : ExecutionError) : String :=
  s!"command {e.command} failed: {e.cause.message}"

inductive Outcome (H : Type)
  /-- The message was not for the agent, or no trigger matched. -/
  | noMatch
  | invalidArguments (command : Command H)
  | notTriggerableHere (command : Command H)
  | botAuthorRejected (command : Command H)
  | developerOnly (command : Command H)
  | missingCallerPermissions (command : Command H) (missing : List Permission)
  | missingAgentPermissions (command : Command H) (missing : List Permission)
  | onCooldown (command : Command H) (remaining : Duration)
  | failed (error : ExecutionError)
  | cancelled (command : Command H)
  | success (command : Command H)

namespace Outcome

variable {H : Type}

def isFault : Outcome H → Bool
  | failed _ => true
  | _ => false

def isSuccess : Outcome H → Bool
  | success _ => true
  | _ => false

/-- The command that the outcome concerns. -/
def command? : Outcome H → Option (Command H)
  | noMatch | failed _ => none
  | invalidArguments c | notTriggerableHere c | botAuthorRejected c | developerOnly c
  | missingCallerPermissions c _ | missingAgentPermissions c _ | onCooldown c _ | cancelled c
  | success c => some c

def message : Outcome H → String
  | noMatch => "no command matched"
  | invalidArguments c => s!"invalid arguments, usage: {c.usage}"
  | notTriggerableHere c => s!"{c.path} cannot be used here"
  | botAuthorRejected c => s!"{c.path} cannot be used by bots"
  | developerOnly c => s!"{c.path} is developer-only"
  | missingCallerPermissions c missing =>
    s!"{c.path} requires permissions the caller lacks: " ++ ", ".intercalate missing
  | missingAgentPermissions c missing =>
    s!"{c.path} requires permissions the bot lacks: " ++ ", ".intercalate missing
  | onCooldown c remaining => s!"{c.path} is on cooldown for {remaining.brief}"
  | failed error => error.message
  | cancelled c => s!"{c.path} was cancelled"
  | success c => s!"{c.path} succeeded"

/-- The outcome of running the handler of a command to its end. -/
def ofEnding (c : Command H) (invocation : Invocation) : Ending → Outcome H
  | .done => success c
  | .cancelled => cancelled c
  | .failed fault => failed ⟨c.path, invocation.values, .failed fault⟩
  | .panicked message? =>
    failed ⟨c.path, invocation.values, .panicked (message?.getD "unknown panic payload")⟩

end Outcome

end ChatCommands
