import ChatCommands.Command.Basic
import ChatCommands.Text.LetterCase

/-! # Levels of a command tree

Commands that share a trigger or an alias on one level are overloads of each other, and none
replaces another. Names fold their letter case unless the command is case-sensitive.
-/

namespace ChatCommands

open Text

variable {H : Type}

def Signature.normalize (s : Signature H) (name : String) : String :=
  if s.caseSensitive then name else lowercase name

/-- The names under which a command is listed, each once. -/
def Signature.keys (s : Signature H) : List String :=
  (s.names.map s.normalize).eraseDups

namespace Level

/-- Adds a position to the entry of a name. -/
def list (index : List (String × List Nat)) (position : Nat) (key : String) :
    List (String × List Nat) :=
  match index with
  | [] => [(key, [position])]
  | (k, positions) :: rest =>
    if k == key then (k, positions ++ [position]) :: rest
    else (k, positions) :: list rest position key

def insert (level : Level (Command H)) (c : Command H) : Level (Command H) where
  commands := level.commands ++ [c]
  index := c.keys.foldl (list · level.commands.length ·) level.index

def ofList (commands : List (Command H)) : Level (Command H) :=
  commands.foldl insert {}

def listed (level : Level (Command H)) (key : String) : List Nat :=
  (level.index.lookup key).getD []

/-- Puts a position in its place among ascending positions. -/
def place (position : Nat) : List Nat → List Nat
  | [] => [position]
  | p :: rest => if position ≤ p then position :: p :: rest else p :: place position rest

def ascending (positions : List Nat) : List Nat :=
  positions.foldr place []

/-- Where the commands stand that answer to a token: those listed under the token itself, and those
listed under its lower-case form unless they are case-sensitive. Each is found once. -/
def positions (level : Level (Command H)) (token : String) : List Nat :=
  let exact := level.listed token
  let folded := if lowercase token == token then [] else
    (level.listed (lowercase token)).filter fun position =>
      level.commands[position]?.any (!·.caseSensitive)
  (ascending (exact ++ folded)).eraseReps

/-- The commands that answer to a token, in registration order. -/
def candidates (level : Level (Command H)) (token : String) : List (Command H) :=
  (level.positions token).filterMap (level.commands[·]?)

def isEmpty (level : Level (Command H)) : Bool :=
  level.commands.isEmpty

end Level

end ChatCommands
