import ChatCommands.Duration.Basic
import ChatCommands.Number.Shortest
import ChatCommands.Text.Quoted

/-! # Values

What an argument becomes once it has been read.
-/

namespace ChatCommands

/-- A value made by a conversion of the host. Each one made is an object of its own, whatever it
holds. -/
structure HostValue where
  identity : Nat
  content : UInt32
  deriving DecidableEq, Repr

inductive Value
  | text (s : String)
  | integer (n : Int64)
  | float (x : Number.Binary64)
  | boolean (b : Bool)
  | time (d : Duration)
  | array (elements : List Value)
  | host (object : HostValue)
  deriving Repr, Inhabited

namespace Value

def text? : Value → Option String
  | text s => some s
  | _ => none

def integer? : Value → Option Int64
  | integer n => some n
  | _ => none

def float? : Value → Option Number.Binary64
  | float x => some x
  | _ => none

def boolean? : Value → Option Bool
  | boolean b => some b
  | _ => none

def time? : Value → Option Duration
  | time d => some d
  | _ => none

def array? : Value → Option (List Value)
  | array elements => some elements
  | _ => none

def host? : Value → Option HostValue
  | host object => some object
  | _ => none

mutual

/-- Equality of values: numbers compare as numbers, so that no NaN equals itself, and host values
by identity. -/
def equal : Value → Value → Bool
  | text a, text b => a == b
  | integer a, integer b => a == b
  | float a, float b => a.equal b
  | boolean a, boolean b => a == b
  | time a, time b => a == b
  | array as, array bs => equalAll as bs
  | host a, host b => a.identity == b.identity
  | _, _ => false

def equalAll : List Value → List Value → Bool
  | [], [] => true
  | a :: as, b :: bs => equal a b && equalAll as bs
  | _, _ => false

end

mutual

/-- The display of a value for logs: its kind, and its content in brackets. -/
def display : Value → String
  | text s => s!"Text({Text.quoted s})"
  | integer n => s!"Integer({n.toInt})"
  | float x => s!"Float({x.display})"
  | boolean b => s!"Boolean({b})"
  | time d => s!"Time({d.exact})"
  | array elements => s!"Array([{displayAll elements}])"
  | host _ => "Custom(..)"

def displayAll : List Value → String
  | [] => ""
  | [v] => display v
  | v :: vs => display v ++ ", " ++ displayAll vs

end

end Value

end ChatCommands
