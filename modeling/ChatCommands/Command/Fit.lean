import ChatCommands.Command.Basic
import ChatCommands.Parameter.Binding

/-! # Fitting a text to a command

The text after the trigger fits a command when its parameters take arguments off the front in
turn, its switches follow, and nothing is left over that the command does not allow.
-/

namespace ChatCommands

open Text

/-- What fitting depends on besides the text. -/
structure Environment where
  context : Context
  conversions : Conversions
  /-- The author may use switches reserved to developers. -/
  developer : Bool

variable {H : Type}

/-- A command together with what a text binds its parameters and switches to. -/
structure Fit (H : Type) where
  command : Command H
  /-- The triggers as typed, separated by spaces. -/
  trigger : String
  arguments : List Argument
  switches : Given

namespace Parameter

/-- The text taken off the front of `before` when its suffix `after` is left. -/
def taken (before after : List Char) : String :=
  let before := trimStart before
  String.ofList (trimEnd (before.take (before.length - after.length)))

/-- Binds parameters from the left and returns the arguments with the text left over. When the
text is blank, or an earlier value was final (`ended`), defaults step in. -/
def arguments? (env : Environment) (ended : Bool) (text : List Char) :
    List Parameter → Option (List Argument × List Char)
  | [] => some ([], text)
  | p :: ps =>
    match p.default?, ended || isBlank text with
    | some supply, true => (arguments? env ended text ps).map (consDefault supply)
    | _, _ =>
      if ended then none
      else
        match p.bind env.context env.conversions text with
        | .rejected => none
        | .bound value leftover => (arguments? env false leftover ps).map (consTaken value leftover)
        | .final value leftover => (arguments? env true leftover ps).map (consTaken value leftover)
where
  consDefault (supply : Context → Value) : List Argument × List Char → List Argument × List Char :=
    fun (arguments, leftover) => (⟨supply env.context, ""⟩ :: arguments, leftover)
  consTaken (value : Value) (after : List Char) :
      List Argument × List Char → List Argument × List Char :=
    fun (arguments, leftover) => (⟨value, taken text after⟩ :: arguments, leftover)

end Parameter

namespace Command

/-- The text that parameters may take, and the text from the first declared switch on. -/
def sections (c : Command H) (text : List Char) : List Char × List Char :=
  (Switch.cut? c.switches text).getD (text, [])

/-- Fits a text to a command that was addressed as `trigger`. -/
def fit? (c : Command H) (trigger : String) (text : List Char) (env : Environment) :
    Option (Fit H) :=
  if !c.isInvocable then none
  else
    let (positional, tail) := c.sections text
    match Parameter.arguments? env false positional c.parameters with
    | none => none
    | some (arguments, leftover) =>
      match Switch.read c.switches c.unknown env.developer (trim leftover ++ ' ' :: trim tail) with
      | .error _ => none
      | .ok (switches, overflow) =>
        if !isBlank overflow && c.overflow == .fail then none
        else some ⟨c, trigger, arguments, switches⟩

end Command

end ChatCommands
