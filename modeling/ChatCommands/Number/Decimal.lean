/-! # Decimal integers

Whole numbers written in ASCII digits, read from the left against an upper limit. The first
character that is no digit, or the first digit that passes the limit, ends the reading.
-/

namespace ChatCommands.Number

inductive DecimalError
  | empty
  | invalidDigit
  | tooLarge
  deriving DecidableEq, Repr

def DecimalError.message : DecimalError → String
  | empty => "cannot parse integer from empty string"
  | invalidDigit => "invalid digit found in string"
  | tooLarge => "number too large to fit in target type"

def digitValue (c : Char) : Nat :=
  c.toNat - '0'.toNat

/-- Continues a number that has the value `n` so far. -/
def readDigits (limit n : Nat) : List Char → Except DecimalError Nat
  | [] => .ok n
  | c :: cs =>
    if !c.isDigit then .error .invalidDigit
    else if 10 * n + digitValue c ≤ limit then readDigits limit (10 * n + digitValue c) cs
    else .error .tooLarge

def readDecimal (limit : Nat) (s : List Char) : Except DecimalError Nat :=
  if s.isEmpty then .error .empty else readDigits limit 0 s

/-- The greatest value of an unsigned 64-bit word. -/
def maxWord : Nat := 0xFFFFFFFFFFFFFFFF

/-- An unsigned number below 2^64; a plus sign may precede its digits. -/
def readWord (s : List Char) : Except DecimalError Nat :=
  match s with
  | ['+'] => .error .invalidDigit
  | '+' :: digits => readDecimal maxWord digits
  | digits => readDecimal maxWord digits

/-- A signed 64-bit number. -/
def readInt64? (s : List Char) : Option Int64 :=
  match s with
  | '-' :: digits => (readDecimal 0x8000000000000000 digits).toOption.map fun n => Int64.ofInt (-n)
  | '+' :: digits => (readDecimal 0x7FFFFFFFFFFFFFFF digits).toOption.map fun n => Int64.ofInt n
  | digits => (readDecimal 0x7FFFFFFFFFFFFFFF digits).toOption.map fun n => Int64.ofInt n

end ChatCommands.Number
