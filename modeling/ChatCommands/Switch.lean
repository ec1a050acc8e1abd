import ChatCommands.Text.WordChar
import ChatCommands.Token

/-! # Switches

Flag-style options such as `-silent` or `--reason "being rude"`. A command declares its switches;
in a message they follow the arguments, and the first token that names one ends the arguments.
-/

namespace ChatCommands

open Text

structure Switch where
  name : String
  aliases : List String := []
  description : String := ""
  /-- The next token is the value of the switch. -/
  takesValue : Bool := false
  hidden : Bool := false
  /-- The switch is unknown to everyone but developers. -/
  developerOnly : Bool := false
  deriving DecidableEq, Repr, Inhabited

/-- What becomes of tokens that look like switches but name none. -/
inductive UnknownPolicy
  /-- The message does not fit the command. -/
  | fail
  /-- The token counts as plain text. -/
  | keep
  deriving DecidableEq, Repr, Inhabited

/-- The switches given in a message with their values, by canonical name. -/
abbrev Given := List (String × Option String)

inductive SwitchError
  | unrecognised (name : String)
  | missingValue (switch : String)
  deriving DecidableEq, Repr

def SwitchError.message : SwitchError → String
  | unrecognised name => s!"unrecognised option: {name}"
  | missingValue switch => s!"option {switch} expects a value, but none was provided"

/-- An ASCII letter, then word characters and hyphens. -/
def isSwitchName : List Char → Bool
  | [] => false
  | c :: cs => c.isAlpha && cs.all fun c => isWordChar c || c == '-'

/-- The name in a token of the form `-name` or `--name`. Quoted tokens are plain text. -/
def Token.switchName? (t : Token) : Option String :=
  if t.quoted then none
  else
    match t.value with
    | '-' :: '-' :: name => if isSwitchName name then some (String.ofList name) else none
    | '-' :: name => if isSwitchName name then some (String.ofList name) else none
    | _ => none

namespace Switch

def answersTo (s : Switch) (name : String) : Bool :=
  s.name == name || s.aliases.contains name

/-- The switch that a name stands for, as seen by a developer or by anyone else. -/
def find? (switches : List Switch) (developer : Bool) (name : String) : Option Switch :=
  switches.find? fun s => s.answersTo name && (developer || !s.developerOnly)

/-- Whether a token names a declared switch, visible or not. -/
def named (switches : List Switch) (t : Token) : Bool :=
  t.switchName?.any fun name => switches.any (·.answersTo name)

/-- Cuts a text in front of the first token that names a declared switch. -/
def cut? (switches : List Switch) (text : List Char) : Option (List Char × List Char) :=
  if switches.isEmpty then none
  else
    ((Token.starts true text).find? fun (_, t) => named switches t).map fun (suffix, _) =>
      (text.take (text.length - suffix.length), suffix)

/-- A piece of the text behind the arguments. -/
inductive Item
  | given (switch : String) (value : Option String)
  | plain (text : List Char)
  deriving DecidableEq, Repr

/-- Reads tokens as switches with their values and as plain text. -/
def items (switches : List Switch) (policy : UnknownPolicy) (developer : Bool) :
    List Token → Except SwitchError (List Item)
  | [] => .ok []
  | t :: ts =>
    match t.switchName? with
    | none => (items switches policy developer ts).map (.plain t.value :: ·)
    | some name =>
      match find? switches developer name with
      | none =>
        match policy with
        | .fail => .error (.unrecognised name)
        | .keep => (items switches policy developer ts).map (.plain t.value :: ·)
      | some s =>
        if s.takesValue then
          match ts with
          | [] => .error (.missingValue s.name)
          | value :: rest =>
            if value.switchName?.isSome then .error (.missingValue s.name)
            else
              (items switches policy developer rest).map
                (.given s.name (some (String.ofList value.value)) :: ·)
        else (items switches policy developer ts).map (.given s.name none :: ·)

/-- Sets the value of a switch; a switch given again keeps its last value. -/
def set (given : Given) (name : String) (value : Option String) : Given :=
  given.filter (·.1 != name) ++ [(name, value)]

def givenOf (items : List Item) : Given :=
  items.foldl (fun given item => match item with
    | .given name value => set given name value
    | .plain _ => given) []

/-- The plain pieces, joined by single spaces. -/
def plainOf (items : List Item) : List Char :=
  [' '].intercalate (items.filterMap fun
    | .plain text => some text
    | .given _ _ => none)

/-- Reads the switches in a text, and what text is left besides them. -/
def read (switches : List Switch) (policy : UnknownPolicy) (developer : Bool) (text : List Char) :
    Except SwitchError (Given × List Char) :=
  (items switches policy developer (Token.all true text)).map fun items =>
    (givenOf items, plainOf items)

end Switch

end ChatCommands
