import ChatCommands.Command.Basic
import ChatCommands.LeadIn

/-! # Log texts

How declarations and contexts are shown in logs: a record as its name with its fields in braces,
texts in quotes, functions left out.
-/

namespace ChatCommands

open Text

namespace LogText

def record (name : String) (fields : List (String × String)) (complete : Bool := true) : String :=
  let shown := fields.map fun (field, text) => s!"{field}: {text}"
  let shown := if complete then shown else shown ++ [".."]
  name ++ " \x7b " ++ ", ".intercalate shown ++ " \x7d"

def list (texts : List String) : String :=
  "[" ++ ", ".intercalate texts ++ "]"

/-- A set in ascending order. -/
def set (texts : List String) : String :=
  "\x7b" ++ ", ".intercalate ((texts.eraseDups.mergeSort fun a b => !decide (b < a)).map quoted)
    ++ "\x7d"

def option (text? : Option String) : String :=
  match text? with
  | some text => s!"Some({text})"
  | none => "None"

end LogText

open LogText

def Kind.logText : Kind → String
  | word => "Word"
  | text => "Text"
  | integer => "Integer"
  | float => "Float"
  | boolean => "Boolean"
  | time => "Time"
  | custom name => s!"Custom({quoted name})"

def Bounds.logText (b : Bounds) : String :=
  record "Endless" [("min", toString b.min), ("max", toString b.max)]

def Parameter.logText (p : Parameter) : String :=
  record "ArgumentSpec" [("name", quoted p.name), ("type", p.kind.logText),
    ("endless", option (p.endless?.map (·.logText))), ("accept_quote", toString p.acceptQuote),
    ("accept_empty", toString p.acceptEmpty), ("rest", toString p.rest),
    ("default", toString p.hasDefault)]

def Switch.logText (s : Switch) : String :=
  record "OptionSpec" [("name", quoted s.name), ("aliases", list (s.aliases.map quoted)),
    ("description", quoted s.description), ("takes_value", toString s.takesValue),
    ("hidden", toString s.hidden), ("developer_only", toString s.developerOnly)]

def CooldownScope.logText : CooldownScope → String
  | user => "User"
  | guild => "Guild"
  | channel => "Channel"
  | global => "Global"

def Cooldown.logText (c : Cooldown) : String :=
  record "Cooldown" [("duration", c.duration.exact), ("scope", c.scope.logText)]

def Command.logText {H : Type} (c : Command H) : String :=
  record "Command" [("path", quoted c.path), ("aliases", list (c.aliases.map quoted)),
    ("arguments", list (c.parameters.map (·.logText))),
    ("options", list (c.switches.map (·.logText))),
    ("subcommands", toString c.subcommands.commands.length),
    ("cooldown", option (c.cooldown?.map (·.logText)))] false

def Author.logText (a : Author) : String :=
  record "Author" [("id", toString a.id), ("bot", toString a.bot),
    ("permissions", set a.permissions)]

def Location.logText (l : Location) : String :=
  record "Location" [("channel_id", toString l.channel),
    ("guild_id", option (l.guild?.map toString))]

def Context.logText (ctx : Context) : String :=
  record "InvocationContext" [("author", ctx.author.logText), ("location", ctx.location.logText),
    ("agent_permissions", set ctx.agentPermissions),
    ("payload", option (ctx.payload.map fun _ => quoted ".."))]

def LeadIn.logText : LeadIn → String
  | literal mark => s!"Literal({quoted mark})"
  | predicate _ => "Predicate(..)"

end ChatCommands
