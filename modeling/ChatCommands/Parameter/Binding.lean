import ChatCommands.Parameter.Basic
import ChatCommands.Token

/-! # Binding a parameter

A parameter takes one token off the front of the remaining text, or as many as its bounds allow,
and has each converted. Every failure is the same: the text does not fit.
-/

namespace ChatCommands

open Text

/-- What a parameter makes of the remaining text. -/
inductive Binding
  | rejected
  /-- A value, and the text that is left for the parameters after it. -/
  | bound (value : Value) (leftover : List Char)
  /-- A value after which no further argument may be read. -/
  | final (value : Value) (leftover : List Char)
  deriving Repr, Inhabited

namespace Binding

def isBound : Binding → Bool
  | rejected => false
  | _ => true

def ofConverted (leftover : List Char) : Converted → Binding
  | .rejected => rejected
  | .accepted value => bound value leftover
  | .final value => final value leftover

end Binding

namespace Parameter

/-- Converts a token; a kind without a conversion takes none. -/
def convert (p : Parameter) (ctx : Context) (conversions : Conversions) (token : List Char) :
    Converted :=
  match conversions p.kind with
  | some conversion => conversion ctx (String.ofList token)
  | none => .rejected

/-- The token that the parameter takes off a text that is not blank. -/
def next (p : Parameter) (text : List Char) : Token :=
  if p.rest then ⟨trim text, [], false, false⟩ else Token.split p.acceptQuote text

theorem length_leftover_next (p : Parameter) {s : List Char} (h : trimStart s ≠ []) :
    (p.next s).leftover.length < s.length := by
  unfold next
  split
  · exact List.length_pos_iff.mpr fun hs => h (by simp [hs, trimStart])
  · exact Token.length_leftover_split _ h

/-- Binds one value. -/
def bindOne (p : Parameter) (ctx : Context) (conversions : Conversions) (text : List Char) :
    Binding :=
  if trimStart text = [] then
    if p.acceptEmpty then .ofConverted [] (p.convert ctx conversions []) else .rejected
  else
    let token := p.next text
    .ofConverted token.leftover (p.convert ctx conversions token.value)

/-- Converts tokens until the text is blank, `max` elements were read (of which `count` were read
before), or a value is final. A quote that is never closed is rejected here. -/
def elements (p : Parameter) (ctx : Context) (conversions : Conversions) (max count : Nat)
    (text : List Char) : Option (List Value × List Char) :=
  if _h : trimStart text = [] then some ([], [])
  else if max > 0 && count == max then some ([], trimStart text)
  else if (p.next text).unterminated then none
  else
    match p.convert ctx conversions (p.next text).value with
    | .rejected => none
    | .accepted value =>
      (p.elements ctx conversions max (count + 1) (p.next text).leftover).map
        fun (values, leftover) => (value :: values, leftover)
    | .final value => some ([value], trimStart (p.next text).leftover)
termination_by text.length
decreasing_by exact p.length_leftover_next _h

/-- Binds an array of all that is left, which has to be used up. -/
def bindAll (p : Parameter) (bounds : Bounds) (ctx : Context) (conversions : Conversions)
    (text : List Char) : Binding :=
  match p.elements ctx conversions bounds.max 0 text with
  | some (values, []) => if values.length < bounds.min then .rejected else .final (.array values) []
  | _ => .rejected

def bind (p : Parameter) (ctx : Context) (conversions : Conversions) (text : List Char) : Binding :=
  match p.endless? with
  | some bounds => p.bindAll bounds ctx conversions text
  | none => p.bindOne ctx conversions text

end Parameter

end ChatCommands
