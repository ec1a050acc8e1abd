import ChatCommands.Duration.Basic
import ChatCommands.Timer.Clock

/-! # Timeouts

A timeout can be started again and again, and calls back when it runs out. At most one of its
timers is pending at a time. The job of each of its timers is to call back, if a callback is set by
then.
-/

namespace ChatCommands

/-- A timeout with callbacks of type `C`. -/
structure Timeout (C : Type) where
  duration : Duration
  /-- A disabled timeout never starts. -/
  enabled : Bool := true
  callback? : Option C := none
  /-- The handle of the timer set last, unless the timeout was stopped since. -/
  current? : Option Nat := none
  deriving Repr, Inhabited

inductive CallbackError
  | alreadySet
  deriving DecidableEq, Repr

def CallbackError.message : CallbackError → String
  | alreadySet => "a timeout callback was already set"

namespace Timeout

variable {C J : Type}

/-- Sets the callback, which can be done only once. -/
def onTimeout (t : Timeout C) (callback : C) : Except CallbackError (Timeout C) :=
  match t.callback? with
  | some _ => .error .alreadySet
  | none => .ok { t with callback? := some callback }

def isArmed (t : Timeout C) (timers : TimedTimers J) : Bool :=
  t.current?.any timers.timers.isPending

/-- Sets a timer whose job is `job`, and answers that it did. -/
def arm (t : Timeout C) (timers : TimedTimers J) (job : J) :
    Except TimerError Bool × Timeout C × TimedTimers J :=
  match timers.schedule t.duration.nanos job with
  | .ok (id, timers) => (.ok true, { t with current? := some id }, timers)
  | .error e => (.error e, t, timers)

/-- Starts the timeout unless it is disabled or pending, and tells whether it did. -/
def start (t : Timeout C) (timers : TimedTimers J) (job : J) :
    Except TimerError Bool × Timeout C × TimedTimers J :=
  if !t.enabled || t.isArmed timers then (.ok false, t, timers) else t.arm timers job

/-- Starts the timeout with a new duration, which it keeps. A pending timeout keeps its own. -/
def startWith (t : Timeout C) (duration : Duration) (timers : TimedTimers J) (job : J) :
    Except TimerError Bool × Timeout C × TimedTimers J :=
  if t.isArmed timers then (.ok false, t, timers)
  else { t with duration := duration }.start timers job

/-- Stops the timeout, and tells whether it was pending. -/
def stop (t : Timeout C) (timers : TimedTimers J) : Bool × Timeout C × TimedTimers J :=
  match t.current? with
  | none => (false, t, timers)
  | some id =>
    let cancelled := timers.cancel id
    (cancelled.1, { t with current? := none }, cancelled.2)

/-- Stops the timeout and starts it with its whole duration, unless it is disabled. -/
def restart (t : Timeout C) (timers : TimedTimers J) (job : J) :
    Except TimerError Bool × Timeout C × TimedTimers J :=
  if !t.enabled then (.ok false, t, timers)
  else
    let stopped := t.stop timers
    stopped.2.1.arm stopped.2.2 job

end Timeout

end ChatCommands
