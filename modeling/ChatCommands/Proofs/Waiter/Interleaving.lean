import ChatCommands.Proofs.Timer.Acts
import ChatCommands.Proofs.Timer.Ends
import ChatCommands.Waiter

/-! # Waiting under all interleavings

Calls begin to wait and events are offered, while the task fires timers and the jobs that it handed
over wait for their turn to run, all in any order. What is seen of this is written down: it tells
who listens, who gets which reply, and who gets none.
-/

namespace ChatCommands

open Relation

/-- What is seen of a waiter. -/
inductive WaiterEvent (E : Type)
  /-- A call entered its listener. It fails, and nobody waits, if the timer could not be set. -/
  | began (id : Nat) (wants : E → Bool) (waits : Bool)
  /-- An event was offered, and completed some listeners. -/
  | offered (event : E) (ids : List Nat)
  /-- The job of a listener's timer ran, and may have found the listener. -/
  | expired (id : Nat) (found : Bool)

namespace WaiterEvent

variable {E : Type}

/-- The listener that a call entered, and whether it waits. -/
def beginning? : WaiterEvent E → Option (Nat × Bool)
  | began id _ waits => some (id, waits)
  | _ => none

/-- The listener whose job ran. -/
def expired? : WaiterEvent E → Option Nat
  | expired id _ => some id
  | _ => none

/-- What is sent to listeners. -/
def sent : WaiterEvent E → List (Nat × Option E)
  | began .. => []
  | offered event ids => ids.map fun id => (id, some event)
  | expired id found => if found then [(id, none)] else []

end WaiterEvent

/-! ## What a log tells -/

namespace WaiterLog

open WaiterEvent

variable {E : Type}

/-- The calls that go on to wait once they have entered their listeners. -/
def callers (log : List (WaiterEvent E)) : List Nat :=
  ((log.filterMap beginning?).filter (·.2)).map Prod.fst

/-- The listeners of calls that failed. -/
def deserted (log : List (WaiterEvent E)) : List Nat :=
  ((log.filterMap beginning?).filter (!·.2)).map Prod.fst

def replies (log : List (WaiterEvent E)) : List (Nat × Option E) :=
  log.flatMap WaiterEvent.sent

/-- The calls that have returned, with what they return. A reply to a call that failed goes
nowhere. -/
def results (log : List (WaiterEvent E)) : List (Nat × Option E) :=
  (replies log).filter fun reply => (callers log).contains reply.1

/-- Since a call entered its listener, no event was offered that it wants, and the job of its timer
has not run. -/
inductive Listening : List (WaiterEvent E) → Nat → (E → Bool) → Bool → Prop
  | began {log : List (WaiterEvent E)} {id : Nat} {wants : E → Bool} {waits : Bool} :
      Listening (log ++ [.began id wants waits]) id wants waits
  | stays {log : List (WaiterEvent E)} {entry : WaiterEvent E} {id : Nat} {wants : E → Bool}
      {waits : Bool} : Listening log id wants waits →
      (∀ event ids, entry = .offered event ids → wants event = false) →
      (∀ found, entry ≠ .expired id found) → Listening (log ++ [entry]) id wants waits

/-- The event was the first one that the call wants, and came before the job of its timer. -/
def FirstWanted (log : List (WaiterEvent E)) (id : Nat) (waits : Bool) (event : E) : Prop :=
  ∃ before ids after wants, log = before ++ .offered event ids :: after ∧
    Listening before id wants waits ∧ wants event = true

/-- The job of the call's timer ran before any event that the call wants. -/
def ExpiredFirst (log : List (WaiterEvent E)) (id : Nat) (waits : Bool) : Prop :=
  ∃ before found after wants, log = before ++ .expired id found :: after ∧
    Listening before id wants waits

variable {log : List (WaiterEvent E)} {entry : WaiterEvent E} {id : Nat} {wants : E → Bool}
  {waits : Bool}

theorem not_listening_nil : ¬Listening [] id wants waits := by
  intro h
  generalize hlog : [] = log at h
  cases h <;> simp at hlog

theorem listening_concat : Listening (log ++ [entry]) id wants waits ↔
    entry = .began id wants waits ∨ Listening log id wants waits ∧
      (∀ event ids, entry = .offered event ids → wants event = false) ∧
      ∀ found, entry ≠ .expired id found := by
  constructor
  · intro h
    generalize hlog : log ++ [entry] = later at h
    cases h with
    | began =>
      obtain ⟨rfl, hentry⟩ := List.append_inj' hlog rfl
      exact Or.inl (List.singleton_inj.mp hentry)
    | stays hlistening hwants hexpired =>
      obtain ⟨rfl, hentry⟩ := List.append_inj' hlog rfl
      cases hentry
      exact Or.inr ⟨hlistening, hwants, hexpired⟩
  · rintro (rfl | ⟨hlistening, hwants, hexpired⟩)
    · exact .began
    · exact .stays hlistening hwants hexpired

theorem firstWanted_concat {event : E} : FirstWanted (log ++ [entry]) id waits event ↔
    FirstWanted log id waits event ∨ ∃ ids wants, entry = .offered event ids ∧
      Listening log id wants waits ∧ wants event = true := by
  constructor
  · rintro ⟨before, ids, after, wants, heq, hlistening, hwants⟩
    rcases TimerAct.eq_append_cons_of_concat heq with ⟨rfl, rfl⟩ | ⟨rest, rfl⟩
    · exact Or.inr ⟨ids, wants, rfl, hlistening, hwants⟩
    · exact Or.inl ⟨before, ids, rest, wants, rfl, hlistening, hwants⟩
  · rintro (⟨before, ids, after, wants, rfl, hwanted⟩ | ⟨ids, wants, rfl, hwanted⟩)
    · exact ⟨before, ids, after ++ [entry], wants, by simp, hwanted⟩
    · exact ⟨log, ids, [], wants, rfl, hwanted⟩

theorem expiredFirst_concat : ExpiredFirst (log ++ [entry]) id waits ↔
    ExpiredFirst log id waits ∨ ∃ found wants, entry = .expired id found ∧
      Listening log id wants waits := by
  constructor
  · rintro ⟨before, found, after, wants, heq, hlistening⟩
    rcases TimerAct.eq_append_cons_of_concat heq with ⟨rfl, rfl⟩ | ⟨rest, rfl⟩
    · exact Or.inr ⟨found, wants, rfl, hlistening⟩
    · exact Or.inl ⟨before, found, rest, wants, rfl, hlistening⟩
  · rintro (⟨before, found, after, wants, rfl, hlistening⟩ | ⟨found, wants, rfl, hlistening⟩)
    · exact ⟨before, found, after ++ [entry], wants, by simp, hlistening⟩
    · exact ⟨log, found, [], wants, rfl, hlistening⟩

/-- Whoever listens has entered a listener. -/
theorem Listening.mem (h : Listening log id wants waits) : .began id wants waits ∈ log := by
  induction h with
  | began => simp
  | stays _ _ _ ih => exact List.mem_append_left _ ih

theorem mem_callers : id ∈ callers log ↔ ∃ wants, .began id wants true ∈ log := by
  simp only [callers, List.mem_map, List.mem_filter, List.mem_filterMap]
  constructor
  · rintro ⟨⟨_, _⟩, ⟨⟨entry, hentry, hbegan⟩, rfl⟩, rfl⟩
    cases entry with
    | began id wants waits =>
      cases hbegan
      exact ⟨wants, hentry⟩
    | offered _ _ | expired _ _ => cases hbegan
  · rintro ⟨wants, hentry⟩
    exact ⟨(id, true), ⟨⟨_, hentry, rfl⟩, rfl⟩, rfl⟩

theorem mem_deserted : id ∈ deserted log ↔ ∃ wants, .began id wants false ∈ log := by
  simp only [deserted, List.mem_map, List.mem_filter, List.mem_filterMap]
  constructor
  · rintro ⟨⟨_, waits⟩, ⟨⟨entry, hentry, hbegan⟩, hwaits⟩, rfl⟩
    cases entry with
    | began id wants waits =>
      cases hbegan
      simp only [Bool.not_eq_eq_eq_not, Bool.not_true] at hwaits
      exact ⟨wants, hwaits ▸ hentry⟩
    | offered _ _ | expired _ _ => cases hbegan
  · rintro ⟨wants, hentry⟩
    exact ⟨(id, false), ⟨⟨_, hentry, rfl⟩, rfl⟩, rfl⟩

theorem mem_results {reply? : Option E} : (id, reply?) ∈ results log ↔
    (id, reply?) ∈ replies log ∧ id ∈ callers log := by
  rw [results, List.mem_filter, List.contains_iff_mem]

theorem replies_concat (log : List (WaiterEvent E)) (entry : WaiterEvent E) :
    replies (log ++ [entry]) = replies log ++ entry.sent := by
  rw [replies, List.flatMap_append, List.flatMap_singleton, replies]

end WaiterLog

/-! ## What calls do -/

namespace EventWaiter

variable {E J : Type} (w : EventWaiter E)

/-- A listener is entered whether or not its timer can be set. -/
theorem wait_cases (wants : E → Bool) (timeout? : Option Duration) (timers : TimedTimers J)
    (job : Nat → J) :
    (∃ timer later, timers.schedule (timeout?.getD w.defaultTimeout).nanos (job w.nextId) =
      .ok (timer, later) ∧
      w.wait wants timeout? timers job = (.ok w.nextId, w.enter ⟨wants, some timer⟩, later)) ∨
    ∃ e, w.wait wants timeout? timers job = (.error e, w.enter ⟨wants, none⟩, timers) := by
  unfold wait
  split
  · rename_i timer later hset
    exact Or.inl ⟨timer, later, hset, rfl⟩
  · rename_i e _
    exact Or.inr ⟨e, rfl⟩

theorem offer_eq (event : E) (timers : TimedTimers J) : w.offer event timers =
    ((w.listeners.filter (·.2.wants event)).map Prod.fst,
      { w with listeners := w.listeners.filter (!·.2.wants event) },
      ((w.listeners.filter (·.2.wants event)).filterMap (·.2.timer?)).foldl
        (fun timers id => (timers.cancel id).2) timers) := by
  unfold offer
  rw [List.partition_eq_filter_filter]
  rfl

theorem mem_listeners_expire {id : Nat} {entry : Nat × Listener E} :
    entry ∈ (w.expire id).2.listeners ↔ entry ∈ w.listeners ∧ entry.1 ≠ id := by
  simp [expire]

end EventWaiter

/-! ## Histories -/

/-- A waiter and its timers, whose jobs bear their handles and the ids of the listeners. -/
structure WaiterHistory (E : Type) where
  clock : Nat := 0
  timers : Timers (Nat × Nat) := {}
  waiter : EventWaiter E
  log : List (WaiterEvent E) := []

namespace WaiterHistory

variable {E : Type}

def timed (h : WaiterHistory E) : TimedTimers (Nat × Nat) :=
  ⟨h.clock, h.timers⟩

/-- A call enters its listener. -/
def wait (h : WaiterHistory E) (wants : E → Bool) (timeout? : Option Duration) : WaiterHistory E :=
  let begun := h.waiter.wait wants timeout? h.timed fun id => (h.timers.arms.length, id)
  { h with
    timers := begun.2.2.timers
    waiter := begun.2.1
    log := h.log ++ [.began h.waiter.nextId wants begun.1.isOk] }

def offer (h : WaiterHistory E) (event : E) : WaiterHistory E :=
  let offered := h.waiter.offer event h.timed
  { h with
    timers := offered.2.2.timers
    waiter := offered.2.1
    log := h.log ++ [.offered event offered.1] }

/-- The job of a listener's timer runs. -/
def expire (h : WaiterHistory E) (id : Nat) : WaiterHistory E :=
  let expired := h.waiter.expire id
  { h with waiter := expired.2, log := h.log ++ [.expired id expired.1] }

inductive Step : WaiterHistory E → WaiterHistory E → Prop
  | tick (h : WaiterHistory E) (nanos : Nat) : Step h { h with clock := h.clock + nanos }
  | wait (h : WaiterHistory E) (wants : E → Bool) (timeout? : Option Duration) :
      Step h (h.wait wants timeout?)
  | offer (h : WaiterHistory E) (event : E) : Step h (h.offer event)
  | task {h : WaiterHistory E} {t : Timers (Nat × Nat)} : Timers.TaskStep h.clock h.timers t →
      Step h { h with timers := t }
  | run {h : WaiterHistory E} (position : Nat) {timer id : Nat} {t : Timers (Nat × Nat)} :
      h.timers.takeHanded? position = some ((timer, id), t) →
      Step h ({ h with timers := t }.expire id)

/-- The history of a new waiter comes about by calls, events, steps of the task and jobs in some
order. -/
def Reachable (h : WaiterHistory E) : Prop :=
  ∃ defaultTimeout, ReflTransGen Step { waiter := { defaultTimeout := defaultTimeout } } h

end WaiterHistory

end ChatCommands
