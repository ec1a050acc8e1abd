import ChatCommands.Conversion

/-! # Parameters

A command declares its parameters in the order in which their arguments appear in a message.
-/

namespace ChatCommands

/-- How many elements an endless parameter takes. A `max` of 0 is no bound. -/
structure Bounds where
  min : Nat
  max : Nat
  deriving DecidableEq, Repr, Inhabited

structure Parameter where
  name : String
  kind : Kind
  description : String := ""
  /-- Present on a parameter that collects all remaining tokens into an array. -/
  endless? : Option Bounds := none
  /-- Text in double quotes counts as one token. -/
  acceptQuote : Bool := true
  /-- The conversion is also tried on the empty token when no text is left. -/
  acceptEmpty : Bool := false
  /-- The whole remaining text is one token. -/
  rest : Bool := kind == .text
  /-- Supplies the value of an argument that was left out. -/
  default? : Option (Context → Value) := none

namespace Parameter

def isEndless (p : Parameter) : Bool :=
  p.endless?.isSome

def hasDefault (p : Parameter) : Bool :=
  p.default?.isSome

/-- Shown in square brackets: the argument may be left out. -/
def isOptional (p : Parameter) : Bool :=
  p.hasDefault || p.endless?.any (·.min == 0)

/-- The name in angle brackets, or in square ones when optional, with dots when endless. -/
def usage (p : Parameter) : String :=
  let shown := if p.isEndless then p.name ++ "..." else p.name
  if p.isOptional then s!"[{shown}]" else s!"<{shown}>"

end Parameter

end ChatCommands
