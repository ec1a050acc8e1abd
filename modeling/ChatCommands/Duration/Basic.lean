/-! # Durations

Spans of time in whole nanoseconds, with their two displays: `brief` for people, in days, hours,
minutes and seconds, and `exact` in the largest unit that fits, with a fraction.
-/

namespace ChatCommands

structure Duration where
  nanos : Nat
  deriving DecidableEq, Repr, Inhabited

namespace Duration

def zero : Duration := ⟨0⟩

/-- The longest duration that a host can give: 64 bits of seconds, and the nanoseconds of one
more. -/
def longest : Duration := ⟨(1 <<< 64) * 1000000000 - 1⟩

def ofMillis (n : Nat) : Duration := ⟨n * 1000000⟩

def ofSecs (n : Nat) : Duration := ⟨n * 1000000000⟩

def millis (d : Duration) : Nat := d.nanos / 1000000

def secs (d : Duration) : Nat := d.nanos / 1000000000

/-- The nonzero amounts among days, hours, minutes and seconds. -/
def parts (d : Duration) : List (Nat × Char) :=
  [(d.secs / 86400, 'd'), (d.secs % 86400 / 3600, 'h'), (d.secs % 3600 / 60, 'm'),
    (d.secs % 60, 's')].filter fun part => part.1 > 0

/-- Amounts with their units, separated by spaces; below a second, the milliseconds. -/
def brief (d : Duration) : String :=
  if d.secs == 0 then s!"{d.millis}ms"
  else " ".intercalate (d.parts.map fun (amount, unit) => toString amount ++ unit.toString)

/-- A number of `unit` nanoseconds each, where `places` decimal places make up the unit and
trailing zeros are left out. -/
def inUnits (nanos unit places : Nat) : String :=
  let digits := Nat.toDigits 10 (nanos % unit)
  let padded := List.replicate (places - digits.length) '0' ++ digits
  let fraction := (padded.reverse.dropWhile (· == '0')).reverse
  toString (nanos / unit) ++
    (if fraction.isEmpty then "" else String.ofList ('.' :: fraction))

def exact (d : Duration) : String :=
  if d.nanos ≥ 1000000000 then inUnits d.nanos 1000000000 9 ++ "s"
  else if d.nanos ≥ 1000000 then inUnits d.nanos 1000000 6 ++ "ms"
  else if d.nanos ≥ 1000 then inUnits d.nanos 1000 3 ++ "µs"
  else inUnits d.nanos 1 0 ++ "ns"

end Duration

end ChatCommands
