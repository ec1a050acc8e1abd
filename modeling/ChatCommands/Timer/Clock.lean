import ChatCommands.Timer.Basic

/-! # Timers in time

A timer task that lives on a clock. It handles its messages before it looks at deadlines, and the
jobs it hands over run at that moment. It is taken to wake at the very nanosecond of a deadline. A
runtime whose timers count in milliseconds wakes it later, so that what is shown here of moments
holds there up to that delay.
-/

namespace ChatCommands

/-- How many steps a phase takes at most until the task waits or has finished. -/
def TimerPhase.weight : TimerPhase → Nat
  | .waiting | .finished => 0
  | .firing _ => 1
  | .draining => 2
  | .stopping => 3

namespace Timers

variable {J : Type}

/-- The next step of the task at a moment, if it has anything to do. -/
def act? (t : Timers J) (now : Nat) : Option (Timers J) :=
  match t.phase with
  | .waiting => t.receive?.or (t.fire? now)
  | .firing moment => some ((t.fire? moment).getD t.rest)
  | .stopping => some t.close
  | .draining => some t.drain
  | .finished => none

/-- The next step of the task and its moment, which is that of the first deadline when there is
nothing to do before. -/
def next? (t : Timers J) (clock : Nat) : Option (Nat × Timers J) :=
  match t.act? clock with
  | some s => some (clock, s)
  | none => do
    let deadline ← t.table.earliest?
    let s ← t.act? deadline
    some (deadline, s)

/-- How many steps are left at most if no client does anything more. -/
def stepsLeft (t : Timers J) : Nat :=
  4 * t.inbox.length + 2 * t.table.agenda.length + t.table.jobs.length + TimerPhase.weight t.phase

theorem turn_eq (t : Timers J) (id : Nat) (arm : Arm) :
    (t.turn id arm).2.inbox = t.inbox ∧ (t.turn id arm).2.table = t.table ∧
      (t.turn id arm).2.phase = t.phase := by
  unfold turn
  split <;> simp

theorem length_enter (deadline id : Nat) (agenda : List (Nat × Nat)) :
    (TimerTable.enter deadline id agenda).length = agenda.length + 1 := by
  induction agenda with
  | nil => rfl
  | cons entry rest ih =>
    rw [TimerTable.enter]
    split
    · simp
    · simp [ih]

theorem stepsLeft_receive? {t s : Timers J} (hp : t.phase = .waiting) (h : t.receive? = some s) :
    s.stepsLeft < t.stepsLeft := by
  unfold receive? at h
  split at h
  · simp at h
  · rename_i id deadline job rest hin
    have := List.length_filter_le (fun entry : Nat × J => entry.1 != id) t.table.jobs
    cases h
    simp only [stepsLeft, TimerTable.insert, length_enter, hin, List.length_cons,
      List.length_append, List.length_nil]
    omega
  · rename_i rest hin
    cases h
    simp [stepsLeft, hin, hp, TimerPhase.weight]
    omega

theorem stepsLeft_fire? {t s : Timers J} {now : Nat} (h : t.fire? now = some s) :
    s.stepsLeft + TimerPhase.weight t.phase < t.stepsLeft := by
  have pop {id : Nat} {job? : Option J} {table : TimerTable J}
      (hp : t.table.popDue? now = some (id, job?, table)) :
      table.agenda.length + 1 = t.table.agenda.length ∧
        table.jobs.length ≤ t.table.jobs.length := by
    unfold TimerTable.popDue? at hp
    split at hp
    · simp at hp
    · rename_i hagenda
      split at hp <;> simp only [Option.some.injEq, Prod.mk.injEq, reduceCtorEq] at hp
      obtain ⟨rfl, -, rfl⟩ := hp
      exact ⟨by simp [hagenda], List.length_filter_le _ _⟩
  unfold fire? at h
  split at h
  · simp at h
  · rename_i hp
    have := pop hp
    cases h
    simp only [stepsLeft, TimerPhase.weight]
    omega
  · rename_i id job table hp
    have := pop hp
    have ht := turn_eq { t with table := table, phase := .firing now } id .fired
    simp only at h
    split at h <;> rename_i u hu <;> cases h <;> simp only [hu] at ht <;>
      simp only [stepsLeft, ht, TimerPhase.weight] <;> omega

theorem stepsLeft_rest (t : Timers J) :
    t.rest.stepsLeft + TimerPhase.weight t.phase ≤ t.stepsLeft := by
  have h₁ := List.length_filter_le (fun entry : Nat × J => t.isPending entry.1) t.table.jobs
  have h₂ := List.length_filter_le (fun entry : Nat × Nat => (t.table.jobs.filter
    fun entry : Nat × J => t.isPending entry.1).any (·.1 == entry.2)) t.table.agenda
  simp only [stepsLeft, rest, TimerTable.prune, TimerPhase.weight]
  omega

theorem stepsLeft_drain {t : Timers J} (hp : t.phase = .draining) :
    t.drain.stepsLeft < t.stepsLeft := by
  unfold drain
  split
  · rename_i hjobs
    simp [stepsLeft, turn_eq, hjobs]
  · split <;> rename_i hin <;> simp [stepsLeft, turn_eq, hin, hp, TimerPhase.weight]

theorem stepsLeft_act? {t s : Timers J} {now : Nat} (h : t.act? now = some s) :
    s.stepsLeft < t.stepsLeft := by
  unfold act? at h
  split at h
  · rename_i hp
    rcases hr : t.receive? with _ | u <;> rw [hr] at h
    · have := stepsLeft_fire? (t := t) h
      omega
    · cases h
      exact stepsLeft_receive? hp hr
  · rename_i moment hp
    cases h
    rcases hf : t.fire? moment with _ | u
    · have := stepsLeft_rest t
      simp only [hp, TimerPhase.weight, Option.getD_none] at this ⊢
      omega
    · have := stepsLeft_fire? hf
      simp only [Option.getD_some]
      omega
  · rename_i hp
    cases h
    simp [stepsLeft, close, hp, TimerPhase.weight]
  · rename_i hp
    cases h
    exact stepsLeft_drain hp
  · simp at h

theorem stepsLeft_next? {t s : Timers J} {clock moment : Nat}
    (h : t.next? clock = some (moment, s)) : s.stepsLeft < t.stepsLeft := by
  unfold next? at h
  split at h
  · rename_i ha
    cases h
    exact stepsLeft_act? ha
  · obtain ⟨deadline, -, h⟩ := Option.bind_eq_some_iff.mp h
    obtain ⟨u, ha, h⟩ := Option.bind_eq_some_iff.mp h
    cases h
    exact stepsLeft_act? ha

end Timers

/-- Timers with the time. -/
structure TimedTimers (J : Type) where
  clock : Nat := 0
  timers : Timers J := {}
  deriving Repr, Inhabited

namespace TimedTimers

variable {J : Type}

/-- Takes every step of the task that is due by the moment `target` and ends there. Returns the
jobs that were handed over on the way, with their moments, in order. That the task wakes at the
exact moment of a deadline is assumed of the runtime. -/
def advance (target : Nat) (t : TimedTimers J) : List (Nat × J) × TimedTimers J :=
  match _h : t.timers.next? t.clock with
  | none => ([], ⟨target, t.timers⟩)
  | some (moment, s) =>
    if moment ≤ target then
      let onward := advance target ⟨moment, { s with handed := [] }⟩
      (s.handed.map (fun job => (moment, job)) ++ onward.1, onward.2)
    else ([], ⟨target, t.timers⟩)
termination_by t.timers.stepsLeft
decreasing_by exact (Timers.stepsLeft_next? _h : s.stepsLeft < t.timers.stepsLeft)

/-- Takes every step that needs no time. -/
def settle (t : TimedTimers J) : List (Nat × J) × TimedTimers J :=
  t.advance t.clock

/-- Sets a timer from now. -/
def schedule (t : TimedTimers J) (delay : Nat) (job : J) :
    Except TimerError (Nat × TimedTimers J) :=
  (t.timers.schedule t.clock delay job).map fun (id, timers) => (id, { t with timers := timers })

def cancel (t : TimedTimers J) (id : Nat) : Bool × TimedTimers J :=
  let turned := t.timers.cancel id
  (turned.1, { t with timers := turned.2 })

def shutdown (t : TimedTimers J) : TimedTimers J :=
  { t with timers := t.timers.shutdown }

end TimedTimers

end ChatCommands
