import ChatCommands.Duration.Basic
import ChatCommands.Number.Decimal
import ChatCommands.Text.DecimalDigit

/-! # Time strings

Times such as `1h20m30s`: one or more groups of an amount and a unit. Units may come in any order
and repeat, and the amounts add up.
-/

namespace ChatCommands

open Number Text

inductive TimeUnit
  | second
  | minute
  | hour
  | day
  deriving DecidableEq, Repr

namespace TimeUnit

def ofLetter? : Char → Option TimeUnit
  | 's' => some second
  | 'm' => some minute
  | 'h' => some hour
  | 'd' => some day
  | _ => none

def millis : TimeUnit → Nat
  | second => 1000
  | minute => 60000
  | hour => 3600000
  | day => 86400000

end TimeUnit

inductive TimeError
  | format
  | amount (reason : DecimalError)
  | overflow
  deriving DecidableEq, Repr

def TimeError.message : TimeError → String
  | format => "input is not a valid time (expected e.g. 1h20m30s)"
  | amount reason => "failed to parse time amount: " ++ reason.message
  | overflow => "time is too large"

namespace TimeString

/-- Whether the rest of a text completes groups of digits and a unit up to its end, when it starts
after a group or else within the digits of one. The digits may be of any script here. -/
def completes (inDigits : Bool) : List Char → Bool
  | [] => !inDigits
  | c :: cs =>
    if isDecimalDigit c then completes true cs
    else inDigits && (TimeUnit.ofLetter? c).isSome && completes false cs

/-- Whether a text consists of groups alone, of one or more: `^(?:\d+[smhd])+$`. -/
def accepts (s : List Char) : Bool :=
  !s.isEmpty && completes false s

/-- The group that a text starts with, and the text after it: `(\d+)([smhd])`. No unit is a digit,
so that a group takes all digits there are. -/
def group? (s : List Char) : Option ((List Char × TimeUnit) × List Char) :=
  match s.takeWhile isDecimalDigit, s.dropWhile isDecimalDigit with
  | c :: digits, letter :: rest =>
    (TimeUnit.ofLetter? letter).map fun unit => ((c :: digits, unit), rest)
  | _, _ => none

theorem length_of_group? {s rest : List Char} {group : List Char × TimeUnit}
    (h : group? s = some (group, rest)) : rest.length < s.length := by
  unfold group? at h
  split at h
  · rename_i letter after hdrop
    obtain ⟨unit, -, hgroup⟩ := Option.map_eq_some_iff.mp h
    cases hgroup
    have hle := (List.dropWhile_sublist isDecimalDigit (l := s)).length_le
    rw [hdrop, List.length_cons] at hle
    omega
  · cases h

/-- The groups in a text from left to right, whatever stands between them. -/
def found (s : List Char) : List (List Char × TimeUnit) :=
  match _h : group? s with
  | some (group, rest) => group :: found rest
  | none =>
    match s with
    | [] => []
    | _ :: cs => found cs
termination_by s.length
decreasing_by
  · exact length_of_group? _h
  · exact Nat.lt_succ_self _

/-- Adds the groups up from the left; every product and every sum has to fit a 64-bit word. -/
def total (sum : Nat) : List (List Char × TimeUnit) → Except TimeError Nat
  | [] => .ok sum
  | (digits, unit) :: rest =>
    match readDecimal maxWord digits with
    | .error reason => .error (.amount reason)
    | .ok amount =>
      if amount * unit.millis ≤ maxWord && amount * unit.millis + sum ≤ maxWord then
        total (amount * unit.millis + sum) rest
      else .error .overflow

/-- The milliseconds that a time string denotes. The whole text has to match before its groups are
looked for. -/
def toMillis (s : List Char) : Except TimeError Nat :=
  if accepts s then total 0 (found s) else .error .format

end TimeString

end ChatCommands
