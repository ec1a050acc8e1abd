import ChatCommands.Command.Basic
import ChatCommands.Timer.Basic

/-! # Running cooldowns

The table maps a command and those who share its cooldown to the moment at which the window
closes. Moments are clock readings in nanoseconds. Entries are made on use and dropped when they
are found to have expired.
-/

namespace ChatCommands

abbrev CooldownKey := CommandId × ScopeKey

abbrev CooldownTable := List (CooldownKey × Nat)

def Cooldown.key (cooldown : Cooldown) (command : CommandId) (ctx : Context) : CooldownKey :=
  (command, cooldown.scope.key ctx)

namespace CooldownTable

def drop (table : CooldownTable) (key : CooldownKey) : CooldownTable :=
  table.filter (·.1 != key)

def put (table : CooldownTable) (key : CooldownKey) (expiry : Nat) : CooldownTable :=
  (key, expiry) :: table.drop key

/-- The time until the window of a key closes, if it is open. An expired entry is dropped. -/
def remaining (table : CooldownTable) (now : Nat) (key : CooldownKey) :
    Option Duration × CooldownTable :=
  match table.lookup key with
  | none => (none, table)
  | some expiry => if expiry > now then (some ⟨expiry - now⟩, table) else (none, table.drop key)

/-- Checks a cooldown: while a window is open this gives the time that is left, and otherwise it opens
one. A cooldown of no duration never counts. As with a timer, the end of the window must not lie past
the horizon. -/
def check (table : CooldownTable) (now : Nat) (cooldown : Cooldown) (key : CooldownKey) :
    Except TimerError (Option Duration) × CooldownTable :=
  if cooldown.duration.nanos == 0 then (.ok none, table)
  else
    match table.remaining now key with
    | (some left, table) => (.ok (some left), table)
    | (none, table) =>
      if Timers.horizon < now + cooldown.duration.nanos then (.error .pastHorizon, table)
      else (.ok none, table.put key (now + cooldown.duration.nanos))

def reset (table : CooldownTable) (key : CooldownKey) : CooldownTable :=
  table.drop key

end CooldownTable

end ChatCommands
