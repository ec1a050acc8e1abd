import ChatCommands.Command.Fit
import ChatCommands.Command.Level

/-! # Resolution

A message targets the first command that fits, where everything below a level comes before the
commands of the level itself, and overloads are tried in registration order.
-/

namespace ChatCommands

open Text

variable {H : Type}

inductive Resolution (H : Type)
  | matched (fit : Fit H)
  /-- A trigger was met but no command fits; the command to report, the deepest met first. -/
  | invalid (reported : Command H)
  | noMatch

namespace Resolution

def fit? : Resolution H → Option (Fit H)
  | matched fit => some fit
  | _ => none

def reported? : Resolution H → Option (Command H)
  | invalid c => some c
  | _ => none

end Resolution

/-- Splits the first word off a text. No escapes count here. -/
def splitTrigger (text : List Char) : List Char × List Char :=
  let text := trimStart text
  (text.takeWhile (!isSpace ·), trimStart (text.dropWhile (!isSpace ·)))

theorem length_splitTrigger {text : List Char} (h : (splitTrigger text).1 ≠ []) :
    (splitTrigger text).2.length < text.length := by
  simp only [splitTrigger] at h ⊢
  have h₁ := length_trimStart_le text
  have h₂ := length_trimStart_le ((trimStart text).dropWhile (!isSpace ·))
  have h₃ := congrArg List.length
    (List.takeWhile_append_dropWhile (p := (!isSpace ·)) (l := trimStart text))
  have h₄ := List.length_pos_iff.mpr h
  rw [List.length_append] at h₃
  omega

namespace Level

def typedPath (parent? : Option String) (token : String) : String :=
  match parent? with
  | some parent => s!"{parent} {token}"
  | none => token

/-- Resolves a text against one level, below the triggers typed so far. -/
def resolveUnder (parent? : Option String) (level : Level (Command H)) (text : List Char)
    (env : Environment) : Resolution H :=
  if _h : (splitTrigger text).1 = [] then .noMatch
  else
    let token := String.ofList (splitTrigger text).1
    let rest := (splitTrigger text).2
    let typed := typedPath parent? token
    match level.candidates token with
    | [] => .noMatch
    | first :: others =>
      let candidates := first :: others
      let below := (candidates.filter (!·.subcommands.isEmpty)).map fun c =>
        c.subcommands.resolveUnder (some typed) rest env
      match below.findSome? (·.fit?) with
      | some fit => .matched fit
      | none =>
        match candidates.findSome? (·.fit? typed rest env) with
        | some fit => .matched fit
        | none => .invalid ((below.findSome? (·.reported?)).getD first)
termination_by text.length
decreasing_by exact length_splitTrigger _h

/-- Resolves a text whose lead-in was taken off. -/
def resolve (level : Level (Command H)) (text : List Char) (env : Environment) : Resolution H :=
  level.resolveUnder none text env

end Level

end ChatCommands
