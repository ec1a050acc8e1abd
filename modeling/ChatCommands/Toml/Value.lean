/-! # TOML values

Settings are written in TOML. Floats and date-times are kept as they are written, since no setting
takes one.
-/

namespace ChatCommands.Toml

inductive Value
  | string (s : String)
  | integer (n : Int)
  | float (literal : String)
  | boolean (b : Bool)
  | dateTime (literal : String)
  | array (elements : List Value)
  | table (entries : List (String × Value))
  deriving Repr, Inhabited

/-- A reader of the front of a text, which returns what follows. -/
abbrev Reader (α : Type) := List Char → Option (α × List Char)

end ChatCommands.Toml
