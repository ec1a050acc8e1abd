/-! # Binary64 numbers

Floating-point numbers of 64 bits: a sign, an exponent of 11 bits and a fraction of 52. Results
are exact ratios of natural numbers that are rounded once, to the nearest number with ties to even.
-/

namespace ChatCommands.Number

/-- The bits of positive infinity. -/
def infinityBits : Nat := 0x7FF0000000000000

/-- The sign bit of a number. -/
def signBit : Nat := 0x8000000000000000

/-- The quotient rounded to the nearest integer, ties to even. -/
def roundDiv (num den : Nat) : Nat :=
  let q := num / den
  let r := num % den
  if 2 * r > den || (2 * r == den && q % 2 == 1) then q + 1 else q

/-- The exponent of the unit in which `num / den` has a significand of 53 bits, or the least unit
of all. -/
def unitExponent (num den : Nat) : Int :=
  let guess : Int := num.log2 - den.log2 - 53
  let significand :=
    if guess ≥ 0 then num / (den <<< guess.toNat) else (num <<< (-guess).toNat) / den
  max (-1074) (if significand ≥ 1 <<< 53 then guess + 1 else guess)

/-- The bits of the number nearest to `num / den`, infinity when it is out of range. -/
def nearestBits (num den : Nat) : Nat :=
  if num == 0 then 0
  else
    let unit := unitExponent num den
    let significand :=
      if unit ≥ 0 then roundDiv num (den <<< unit.toNat)
      else roundDiv (num <<< (-unit).toNat) den
    min infinityBits ((unit + 1074).toNat <<< 52 + significand)

structure Binary64 where
  bits : UInt64
  deriving DecidableEq, Repr, Inhabited

namespace Binary64

/-- A number with the bits `magnitude` below its sign. -/
def ofMagnitude (negative : Bool) (magnitude : Nat) : Binary64 :=
  ⟨UInt64.ofNat (if negative then magnitude + signBit else magnitude)⟩

def zero : Binary64 := ⟨0⟩

def nan : Binary64 := ⟨0x7FF8000000000000⟩

def isNegative (x : Binary64) : Bool :=
  x.bits.toNat ≥ signBit

/-- The bits below the sign. They are in the order of the absolute values. -/
def magnitude (x : Binary64) : Nat :=
  x.bits.toNat % signBit

def isNaN (x : Binary64) : Bool :=
  x.magnitude > infinityBits

def isInfinite (x : Binary64) : Bool :=
  x.magnitude == infinityBits

/-- Equality of numbers: the two zeros are equal, and no NaN equals anything. -/
def equal (x y : Binary64) : Bool :=
  !x.isNaN && (x == y || (x.magnitude == 0 && y.magnitude == 0))

/-- A finite number as a multiple of 2^-1074. -/
def units (x : Binary64) : Int :=
  let exponent := x.magnitude >>> 52
  let fraction := x.magnitude % 1 <<< 52
  let absolute : Nat := if exponent == 0 then fraction else (fraction + 1 <<< 52) <<< (exponent - 1)
  if x.isNegative then -absolute else absolute

/-- The sum, which is a negative zero only if both summands are. -/
def add (x y : Binary64) : Binary64 :=
  if x.isNaN || y.isNaN then nan
  else if x.isInfinite then
    if y.isInfinite && x.isNegative != y.isNegative then nan else x
  else if y.isInfinite then y
  else
    let sum := x.units + y.units
    if sum == 0 then ofMagnitude (x.isNegative && y.isNegative) 0
    else ofMagnitude (sum < 0) (nearestBits sum.natAbs (1 <<< 1074))

end Binary64

end ChatCommands.Number
