import ChatCommands.Duration.TimeString
import ChatCommands.Message
import ChatCommands.Number.Numeral
import ChatCommands.Text.LetterCase
import ChatCommands.Value

/-! # Conversions

A conversion turns one token into a value of its kind. It may declare that the value took all that
was left to read, after which no further argument is read from the message.
-/

namespace ChatCommands

/-- The kind of value an argument takes. -/
inductive Kind
  | word
  | text
  | integer
  | float
  | boolean
  | time
  /-- A kind that the host converts, such as a user or a channel. -/
  | custom (name : String)
  deriving DecidableEq, Repr, Inhabited

def Kind.name : Kind → String
  | word => "word"
  | text => "text"
  | integer => "integer"
  | float => "number"
  | boolean => "boolean"
  | time => "time"
  | custom name => name

/-- What a conversion makes of a token. -/
inductive Converted
  | rejected
  | accepted (value : Value)
  /-- The value took in the rest of the message. -/
  | final (value : Value)
  deriving Repr, Inhabited

abbrev Conversion := Context → String → Converted

/-- The conversion in force for each kind that has one. -/
abbrev Conversions := Kind → Option Conversion

namespace Conversion

def ofOption (v : Option Value) : Converted :=
  match v with
  | some v => .accepted v
  | none => .rejected

def word : Conversion := fun _ token => .accepted (.text token)

def text : Conversion := fun _ token => .final (.text token)

def integer : Conversion := fun _ token =>
  ofOption ((Number.readInt64? token.toList).map .integer)

def float : Conversion := fun _ token =>
  ofOption ((Number.readFinite? token.toList).map .float)

def boolean : Conversion := fun _ token =>
  let token := String.ofList (Text.asciiLowercase token.toList)
  if ["true", "yes", "on", "1"].contains token then .accepted (.boolean true)
  else if ["false", "no", "off", "0"].contains token then .accepted (.boolean false)
  else .rejected

def time : Conversion := fun _ token =>
  ofOption ((TimeString.toMillis token.toList).toOption.map fun n => .time (.ofMillis n))

end Conversion

namespace Conversions

def none : Conversions := fun _ => Option.none

/-- Puts a conversion in force, in place of any earlier one for the kind. -/
def register (conversions : Conversions) (kind : Kind) (conversion : Conversion) : Conversions :=
  fun k => if k = kind then some conversion else conversions k

/-- The conversions of the kinds that need no host. -/
def standard : Conversions
  | .word => some Conversion.word
  | .text => some Conversion.text
  | .integer => some Conversion.integer
  | .float => some Conversion.float
  | .boolean => some Conversion.boolean
  | .time => some Conversion.time
  | .custom _ => Option.none

end Conversions

end ChatCommands
