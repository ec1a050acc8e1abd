import ChatCommands.Command.Build
import ChatCommands.Command.Resolution

/-! # Catalogs

The command tree of an agent: filled while it is set up, only read afterwards.
-/

namespace ChatCommands

open Text

variable {H : Type}

namespace Command

mutual

/-- Puts a command and all commands below it into a category, unless they are in one already. -/
def inCategory (category : Category) : Command H → Command H
  | ⟨signature, id, path, usage, category?, ⟨commands, index⟩⟩ =>
    ⟨signature, id, path, usage, category?.or (some category),
      ⟨allInCategory category commands, index⟩⟩

def allInCategory (category : Category) : List (Command H) → List (Command H)
  | [] => []
  | c :: cs => inCategory category c :: allInCategory category cs

end

mutual

/-- A command and the commands below it that a caller may see, in registration order. A command
hides all that is below it. -/
def visible (ctx : Context) (developer : Bool) : Command H → List (Command H)
  | ⟨signature, id, path, usage, category?, ⟨commands, index⟩⟩ =>
    if signature.hidden || (signature.developerOnly && !developer)
        || !signature.isTriggerableIn ctx then []
    else
      let here : Command H := ⟨signature, id, path, usage, category?, ⟨commands, index⟩⟩
      (if signature.isInvocable then [here] else []) ++ allVisible ctx developer commands

def allVisible (ctx : Context) (developer : Bool) : List (Command H) → List (Command H)
  | [] => []
  | c :: cs => visible ctx developer c ++ allVisible ctx developer cs

end

end Command

structure Catalog (H : Type) where
  root : Level (Command H) := {}

namespace Catalog

/-- Adds a top-level command. -/
def register (catalog : Catalog H) (c : Command H) : Catalog H :=
  ⟨catalog.root.insert c⟩

/-- Adds a top-level command to a category. -/
def registerIn (catalog : Catalog H) (category : Category) (c : Command H) : Catalog H :=
  catalog.register (c.inCategory category)

/-- The number of top-level commands. -/
def size (catalog : Catalog H) : Nat :=
  catalog.root.commands.length

/-- Builds a definition and adds it, to a category if one is given. -/
def define (catalog : Catalog H) (d : Definition H) (category? : Option Category := none) :
    Except BuildError (Catalog H) :=
  (d.build catalog.size).map fun c =>
    match category? with
    | some category => catalog.registerIn category c
    | none => catalog.register c

/-- All commands at a path, whose words may be any triggers or aliases. -/
def find (catalog : Catalog H) (path : String) : List (Command H) :=
  match words path.toList with
  | [] => []
  | first :: rest =>
    rest.foldl (fun found word => found.flatMap (·.subcommands.candidates (String.ofList word)))
      (catalog.root.candidates (String.ofList first))

def resolve (catalog : Catalog H) (text : List Char) (env : Environment) : Resolution H :=
  catalog.root.resolve text env

/-- Every command visible to a caller, whatever permissions and cooldowns say. -/
def visibleTo (catalog : Catalog H) (ctx : Context) (developer : Bool) : List (Command H) :=
  Command.allVisible ctx developer catalog.root.commands

end Catalog

end ChatCommands
