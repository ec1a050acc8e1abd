import ChatCommands.Command.Level
import ChatCommands.Text.Quoted

/-! # Building commands

A definition becomes a command once every node of it is well formed. The first fault found is
reported: a node before those below it, and these in order.
-/

namespace ChatCommands

open Text

/-- A command as its author writes it down. -/
structure Definition (H : Type) extends Signature H where
  subcommands : List (Definition H) := []

instance {H : Type} : Inhabited (Definition H) where
  default := { trigger := "" }

inductive BuildError
  | emptyTrigger
  /-- Neither a handler nor sub-commands. -/
  | missingHandler (trigger : String)
  /-- Triggers and aliases are single tokens. -/
  | whitespaceInTrigger (name : String)
  | multipleEndless
  | endlessNotLast (parameter : String)
  | requiredAfterDefault (required defaulted : String)
  deriving DecidableEq, Repr

def BuildError.message : BuildError → String
  | emptyTrigger => "a command trigger cannot be empty"
  | missingHandler trigger => s!"command {trigger} has neither a handler nor sub-commands"
  | whitespaceInTrigger name => s!"trigger or alias {quoted name} contains whitespace"
  | multipleEndless => "a command may have at most one endless argument"
  | endlessNotLast parameter => s!"endless argument {parameter} must be the last argument"
  | requiredAfterDefault required defaulted =>
    s!"argument {required} has no default but follows argument {defaulted}, which does"

variable {H : Type}

namespace BuildError

def ofName? (name : String) : Option BuildError :=
  if name.isEmpty then some emptyTrigger
  else if name.toList.any isSpace then some (whitespaceInTrigger name)
  else none

def ofEndless? (parameters : List Parameter) : Option BuildError :=
  if (parameters.filter (·.isEndless)).length > 1 then some multipleEndless
  else (parameters.dropLast.find? (·.isEndless)).map fun p => endlessNotLast p.name

/-- Once a parameter has a default, only an endless parameter may do without. -/
def ofOrder? (parameters : List Parameter) : Option BuildError :=
  match parameters.dropWhile (!·.hasDefault) with
  | [] => none
  | defaulted :: later =>
    (later.find? fun p => !p.hasDefault && !p.isEndless).map fun required =>
      requiredAfterDefault required.name defaulted.name

/-- The first fault of a node, not looking below it. -/
def ofSignature? (s : Signature H) (isLeaf : Bool) : Option BuildError :=
  (s.names.findSome? ofName?).or <|
  (ofEndless? s.parameters).or <|
  (ofOrder? s.parameters).or <|
  if !s.isInvocable && isLeaf then some (missingHandler s.trigger) else none

end BuildError

namespace Definition

def pathUnder (parent? : Option String) (trigger : String) : String :=
  match parent? with
  | some parent => s!"{parent} {trigger}"
  | none => trigger

/-- The path, followed by the usage of each parameter. -/
def usageAt (path : String) (parameters : List Parameter) : String :=
  parameters.foldl (fun usage p => s!"{usage} {p.usage}") path

mutual

def buildUnder (parent? : Option String) (id : CommandId) :
    Definition H → Except BuildError (Command H)
  | ⟨signature, subcommands⟩ =>
    match BuildError.ofSignature? signature subcommands.isEmpty with
    | some error => .error error
    | none =>
      let path := pathUnder parent? signature.trigger
      match buildAll path id 0 subcommands with
      | .error error => .error error
      | .ok commands =>
        .ok ⟨signature, id, path, usageAt path signature.parameters, none, .ofList commands⟩

/-- Builds sub-commands, of which the first stands at `position`. -/
def buildAll (path : String) (id : CommandId) (position : Nat) :
    List (Definition H) → Except BuildError (List (Command H))
  | [] => .ok []
  | d :: ds =>
    match buildUnder (some path) (id ++ [position]) d with
    | .error error => .error error
    | .ok command =>
      match buildAll path id (position + 1) ds with
      | .error error => .error error
      | .ok commands => .ok (command :: commands)

end

/-- Builds the top-level command that is to stand at `position`. -/
def build (d : Definition H) (position : Nat) : Except BuildError (Command H) :=
  d.buildUnder none [position]

end Definition

end ChatCommands
