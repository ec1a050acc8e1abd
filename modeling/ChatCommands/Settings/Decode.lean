import ChatCommands.Settings.Basic
import ChatCommands.Toml.Document

/-! # Reading settings

Settings come in sections of a TOML document. Unknown keys are passed over, missing ones keep their
defaults, and a value of a wrong type refuses the document. A section may also list its values in
order, as an array.
-/

namespace ChatCommands

open Toml (Value)

/-- How a section gives its values: by position and by name. -/
abbrev Section := Nat → String → Option Value

namespace Section

def ofValue? : Value → Option Section
  | .table entries => some fun _ name => entries.lookup name
  | .array elements => some fun position _ => elements[position]?
  | .dateTime _ => some fun _ _ => none
  | _ => none

/-- Reads a value, or keeps the default when there is none. -/
def read {α : Type} (s : Section) (position : Nat) (name : String) (decode : Value → Option α)
    (default : α) : Option α :=
  match s position name with
  | none => some default
  | some v => decode v

end Section

namespace Settings

def decodeString : Value → Option String
  | .string s => some s
  | _ => none

def decodeBoolean : Value → Option Bool
  | .boolean b => some b
  | _ => none

def decodeNat : Value → Option Nat
  | .integer n => if 0 ≤ n then some n.toNat else none
  | _ => none

def decodeId (v : Value) : Option UInt64 :=
  (decodeNat v).map UInt64.ofNat

def decodeIds : Value → Option (List UInt64)
  | .array elements => elements.mapM decodeId
  | _ => none

def ExecutionMode.ofName? : String → Option ExecutionMode
  | "inline" => some .inline
  | "scheduled" => some .scheduled
  | _ => none

/-- A mode is named by a string, or by the only key of a table that holds nothing under it. -/
def decodeMode : Value → Option ExecutionMode
  | .string name => ExecutionMode.ofName? name
  | .table [(name, .table [])] => ExecutionMode.ofName? name
  | .table [(name, .array [])] => ExecutionMode.ofName? name
  | _ => none

/-- Reads a section of the document, or keeps the settings when there is none. -/
def readSection (root : List (String × Value)) (name : String) (settings : Settings)
    (read : Settings → Section → Option Settings) : Option Settings :=
  match root.lookup name with
  | none => some settings
  | some v => (Section.ofValue? v).bind (read settings)

def ofTable? (root : List (String × Value)) : Option Settings := do
  let settings ← readSection root "prefix" {} fun settings s => do
    let mark ← s.read 0 "default" decodeString settings.mark
    let optionalInPrivate ←
      s.read 1 "allow_unprefixed_private" decodeBoolean settings.optionalInPrivate
    let mentionOf? ← s.read 2 "mention_bot_id" (fun v => (decodeId v).map some) settings.mentionOf?
    some { settings with
      mark := mark, optionalInPrivate := optionalInPrivate, mentionOf? := mentionOf? }
  let settings ← readSection root "dev" settings fun settings s => do
    let developers ← s.read 0 "admin_users" decodeIds settings.developers
    some { settings with developers := developers }
  let settings ← readSection root "dispatch" settings fun settings s => do
    let execution ← s.read 0 "execution" decodeMode settings.execution
    let cooldownCapacity ← s.read 1 "cooldown_capacity" decodeNat settings.cooldownCapacity
    some { settings with execution := execution, cooldownCapacity := cooldownCapacity }
  let settings ← readSection root "timeouts" settings fun settings s => do
    let waiterSecs ← s.read 0 "waiter_default_secs" decodeNat settings.waiterSecs
    let pagesSecs ← s.read 1 "pages_default_secs" decodeNat settings.pagesSecs
    some { settings with waiterSecs := waiterSecs, pagesSecs := pagesSecs }
  readSection root "logging" settings fun settings s => do
    let logLevel ← s.read 0 "level" decodeString settings.logLevel
    some { settings with logLevel := logLevel }

def ofToml? (text : String) : Option Settings :=
  (Toml.parse? text).bind ofTable?

/-- Why a file of settings could not be used. -/
inductive LoadError
  | unreadable (path : String)
  | malformed (path : String)
  deriving DecidableEq, Repr

def LoadError.message : LoadError → String
  | unreadable path => s!"failed to read {path}"
  | malformed path => s!"failed to parse {path}"

/-- Settings from the content of the file at `path`, if there is one. -/
def ofFile (path : String) (content? : Option String) : Except LoadError Settings :=
  match content? with
  | none => .error (.unreadable path)
  | some content =>
    match ofToml? content with
    | some settings => .ok settings
    | none => .error (.malformed path)

end Settings

end ChatCommands
