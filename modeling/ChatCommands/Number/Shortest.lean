import ChatCommands.Number.Binary64

/-! # Shortest decimal display

A binary64 number is shown by the fewest digits that read back as the same number, nearest to it
among those, a half going up; always positionally, without an exponent.
-/

namespace ChatCommands.Number

/-- A positive finite number as an exact ratio, with the reals that round to it: those from `low`
to `high` (over the same denominator), the ends included when `closed`. -/
structure Rounding where
  value : Nat
  low : Nat
  high : Nat
  denominator : Nat
  closed : Bool

/-- Decodes the bits of a positive finite number. Distances are in quarters of the unit in the
last place, since below a power of two the neighbours are half as far away. -/
def Rounding.ofBits (bits : Nat) : Rounding :=
  let field := bits >>> 52 % 1 <<< 11
  let fraction := bits % 1 <<< 52
  let significand := if field == 0 then fraction else fraction + 1 <<< 52
  let exponent : Int := ((if field == 0 then 1 else field : Nat) : Int) - 1075
  let below := if fraction == 0 && field > 1 then 1 else 2
  let up := 1 <<< exponent.toNat
  ⟨4 * significand * up, (4 * significand - below) * up, (4 * significand + 2) * up,
    4 <<< (-exponent).toNat, significand % 2 == 0⟩

/-- Whether `n` units of 10^`exponent` round to the number. -/
def Rounding.contains (r : Rounding) (n : Nat) (exponent : Int) : Bool :=
  let point := n * Nat.pow 10 exponent.toNat * r.denominator
  let scale := Nat.pow 10 (-exponent).toNat
  if r.closed then r.low * scale ≤ point && point ≤ r.high * scale
  else r.low * scale < point && point < r.high * scale

/-- The nearest multiple of 10^`exponent` that rounds to the number, if there is one. -/
def Rounding.onGrid? (r : Rounding) (exponent : Int) : Option Nat :=
  let num := r.value * Nat.pow 10 (-exponent).toNat
  let den := r.denominator * Nat.pow 10 exponent.toNat
  let n := num / den
  match r.contains n exponent, r.contains (n + 1) exponent with
  | true, true => some (if 2 * (num % den) ≥ den then n + 1 else n)
  | true, false => some n
  | false, true => some (n + 1)
  | false, false => none

/-- Refines the grid until a point of it rounds to the number. -/
def Rounding.search (r : Rounding) : Nat → Int → Nat × Int
  | 0, exponent =>
    (r.value * Nat.pow 10 (-exponent).toNat / (r.denominator * Nat.pow 10 exponent.toNat), exponent)
  | fuel + 1, exponent =>
    match r.onGrid? exponent with
    | some n => (n, exponent)
    | none => r.search fuel (exponent - 1)

/-- The coarsest power of ten to try: the one just above the number. -/
def Rounding.topExponent (r : Rounding) : Int :=
  let whole := r.value / r.denominator
  if whole > 0 then (Nat.toDigits 10 whole).length
  else 1 - ((Nat.toDigits 10 (r.denominator / r.value)).length : Int)

/-- Writes `n` units of 10^`exponent` without an exponent. -/
def positional (n : Nat) (exponent : Int) : String :=
  let digits := Nat.toDigits 10 n
  if exponent ≥ 0 then String.ofList (digits ++ List.replicate exponent.toNat '0')
  else
    let places := (-exponent).toNat
    let padded := List.replicate (places + 1 - digits.length) '0' ++ digits
    let cut := padded.length - places
    String.ofList (padded.take cut ++ '.' :: padded.drop cut)

def Binary64.display (x : Binary64) : String :=
  let sign := if x.isNegative then "-" else ""
  if x.isNaN then "NaN"
  else if x.isInfinite then sign ++ "inf"
  else if x.magnitude == 0 then sign ++ "0"
  else
    let r := Rounding.ofBits x.magnitude
    let (n, exponent) := r.search 20 r.topExponent
    sign ++ positional n exponent

end ChatCommands.Number
