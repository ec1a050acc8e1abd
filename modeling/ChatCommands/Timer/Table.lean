/-! # Timer tables

The timers that a timer task keeps: an agenda of deadlines in the order in which they pass, and
the jobs behind them. Timers with the same deadline pass in the order of their ids.
-/

namespace ChatCommands

structure TimerTable (J : Type) where
  /-- Deadlines with the ids of their timers, earliest first. -/
  agenda : List (Nat × Nat) := []
  /-- The job of each timer, by id. -/
  jobs : List (Nat × J) := []
  deriving Repr, Inhabited

namespace TimerTable

variable {J : Type}

/-- Inserts an entry in front of the first one that passes after it. -/
def enter (deadline id : Nat) : List (Nat × Nat) → List (Nat × Nat)
  | [] => [(deadline, id)]
  | (d, i) :: rest =>
    if deadline < d || (deadline == d && id < i) then (deadline, id) :: (d, i) :: rest
    else (d, i) :: enter deadline id rest

def insert (t : TimerTable J) (id deadline : Nat) (job : J) : TimerTable J :=
  ⟨enter deadline id t.agenda, t.jobs.filter (·.1 != id) ++ [(id, job)]⟩

def earliest? (t : TimerTable J) : Option Nat :=
  t.agenda.head?.map (·.1)

/-- Takes out the first timer if its deadline has passed: its id, and its job if the table still
holds one. -/
def popDue? (t : TimerTable J) (now : Nat) : Option (Nat × Option J × TimerTable J) :=
  match t.agenda with
  | [] => none
  | (deadline, id) :: rest =>
    if deadline ≤ now then some (id, t.jobs.lookup id, ⟨rest, t.jobs.filter (·.1 != id)⟩) else none

/-- Drops the jobs of timers that are not to be kept, and the deadlines without a job. -/
def prune (t : TimerTable J) (keep : Nat → Bool) : TimerTable J :=
  let jobs := t.jobs.filter fun (id, _) => keep id
  ⟨t.agenda.filter fun (_, id) => jobs.any (·.1 == id), jobs⟩

end TimerTable

end ChatCommands
