import ChatCommands.Duration.Basic
import ChatCommands.Timer.Clock

/-! # Waiting for events

Handlers may wait for a later event, such as a reply of the same user. A listener completes once,
with the first event that it is waiting for or when its time is up, and is gone then.
-/

namespace ChatCommands

structure Listener (E : Type) where
  wants : E → Bool
  /-- The handle of the timer that ends the wait, if it could be set. -/
  timer? : Option Nat := none

/-- The listeners for events of type `E`, by id. -/
structure EventWaiter (E : Type) where
  defaultTimeout : Duration
  listeners : List (Nat × Listener E) := []
  nextId : Nat := 0

namespace EventWaiter

variable {E J : Type}

/-- The number of listeners that still wait. -/
def pending (w : EventWaiter E) : Nat :=
  w.listeners.length

/-- Enters a listener. -/
def enter (w : EventWaiter E) (listener : Listener E) : EventWaiter E :=
  { w with listeners := w.listeners ++ [(w.nextId, listener)], nextId := w.nextId + 1 }

/-- Waits for an event, for the default time unless another is given. `job` is what the timer of a
listener runs. Returns the id of the listener. When its timer cannot be set, nobody waits any more,
but the listener is there. -/
def wait (w : EventWaiter E) (wants : E → Bool) (timeout? : Option Duration)
    (timers : TimedTimers J) (job : Nat → J) :
    Except TimerError Nat × EventWaiter E × TimedTimers J :=
  match timers.schedule (timeout?.getD w.defaultTimeout).nanos (job w.nextId) with
  | .ok (timer, timers) => (.ok w.nextId, w.enter ⟨wants, some timer⟩, timers)
  | .error e => (.error e, w.enter ⟨wants, none⟩, timers)

/-- Offers an event to every listener. Returns the ids of those it completes. -/
def offer (w : EventWaiter E) (event : E) (timers : TimedTimers J) :
    List Nat × EventWaiter E × TimedTimers J :=
  let (matched, others) := w.listeners.partition fun (_, l) => l.wants event
  (matched.map (·.1), { w with listeners := others },
    (matched.filterMap (·.2.timer?)).foldl (fun timers id => (timers.cancel id).2) timers)

/-- Runs the job of a listener's timer, and tells whether the listener was still waiting. -/
def expire (w : EventWaiter E) (id : Nat) : Bool × EventWaiter E :=
  (w.listeners.any (·.1 == id), { w with listeners := w.listeners.filter (·.1 != id) })

end EventWaiter

end ChatCommands
