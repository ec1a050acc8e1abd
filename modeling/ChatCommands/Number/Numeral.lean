import ChatCommands.Number.Binary64
import ChatCommands.Number.Decimal

/-! # Numerals

Floating-point numbers as they are written in decimal digits, with an optional point and an
optional exponent.
-/

namespace ChatCommands.Number

/-- An unsigned numeral: its digits without the point, and the power of ten that scales them. -/
structure Numeral where
  digits : List Char
  exponent : Int

/-- The value of a run of digits. -/
def digitsValue (digits : List Char) : Nat :=
  digits.foldl (10 * · + digitValue ·) 0

def allDigits (s : List Char) : Bool :=
  !s.isEmpty && s.all Char.isDigit

/-- An exponent: an optional sign and digits up to the end of the text. -/
def readExponent? : List Char → Option Int
  | '-' :: ds => if allDigits ds then some (-(digitsValue ds : Int)) else none
  | '+' :: ds => if allDigits ds then some (digitsValue ds) else none
  | ds => if allDigits ds then some (digitsValue ds) else none

/-- Digits with at most one point among or around them, then an optional exponent. -/
def readNumeral? (s : List Char) : Option Numeral := do
  let whole := s.takeWhile Char.isDigit
  let afterWhole := s.dropWhile Char.isDigit
  let (fraction, rest) := match afterWhole with
    | '.' :: cs => (cs.takeWhile Char.isDigit, cs.dropWhile Char.isDigit)
    | cs => ([], cs)
  if whole.isEmpty && fraction.isEmpty then none
  else
    let exponent ← match rest with
      | [] => some 0
      | c :: cs => if c == 'e' || c == 'E' then readExponent? cs else none
    some ⟨whole ++ fraction, exponent - fraction.length⟩

/-- The bits of the value of a numeral. Magnitudes far out of range are settled without
computing the power of ten. -/
def Numeral.bits (n : Numeral) : Nat :=
  let significand := digitsValue n.digits
  let magnitude : Int := (Nat.toDigits 10 significand).length + n.exponent
  if significand == 0 || magnitude < -400 then 0
  else if magnitude > 400 then infinityBits
  else if n.exponent ≥ 0 then nearestBits (significand * Nat.pow 10 n.exponent.toNat) 1
  else nearestBits significand (Nat.pow 10 (-n.exponent).toNat)

/-- A finite number; `inf` and `nan` in any spelling are not among them. -/
def readFinite? (s : List Char) : Option Binary64 :=
  let (negative, unsigned) := match s with
    | '-' :: cs => (true, cs)
    | '+' :: cs => (false, cs)
    | cs => (false, cs)
  match readNumeral? unsigned with
  | none => none
  | some n =>
    if n.bits < infinityBits then some (.ofMagnitude negative n.bits) else none

end ChatCommands.Number
