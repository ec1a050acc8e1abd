import ChatCommands.Timer.Table

/-! # Timers

One task keeps all timers. Clients send it messages, and when a deadline passes it hands the job of
the timer over, to be run at any later time. Each timer ends at most once: it fires or it is
cancelled, and whoever turns its arm first decides.

Every function here is one step of a client or of the task; the steps may come in any order that
the phase of the task allows.
-/

namespace ChatCommands

/-- The state of one timer, shared by the task and the holders of its handle. -/
inductive Arm
  | armed
  | fired
  | cancelled
  deriving DecidableEq, Repr, Inhabited

inductive TimerMessage (J : Type)
  | schedule (id deadline : Nat) (job : J)
  | shutdown
  deriving Repr

/-- What the timer task is about. -/
inductive TimerPhase
  /-- It waits for a message or a deadline. -/
  | waiting
  /-- It has woken at a moment and fires all that is due then. -/
  | firing (now : Nat)
  /-- It was told to shut down, and messages still come in. -/
  | stopping
  /-- No more messages come in, and it cancels all that is left. -/
  | draining
  | finished
  deriving DecidableEq, Repr, Inhabited

/-- Why a timer cannot be set, or a window of a cooldown cannot be opened. -/
inductive TimerError
  /-- Its end lies past the horizon. -/
  | pastHorizon
  deriving DecidableEq, Repr

def TimerError.message : TimerError → String
  | pastHorizon => "overflow when adding duration to instant"

/-- The timer task and all it shares with its clients. The handle of a timer is its position
among the arms. -/
structure Timers (J : Type) where
  arms : List Arm := []
  inbox : List (TimerMessage J) := []
  table : TimerTable J := {}
  phase : TimerPhase := .waiting
  /-- Jobs that were handed over and have not run. -/
  handed : List J := []
  deriving Repr, Inhabited

namespace Timers

variable {J : Type}

def arm? (t : Timers J) (id : Nat) : Option Arm :=
  t.arms[id]?

def isPending (t : Timers J) (id : Nat) : Bool :=
  t.arm? id == some .armed

def hasFired (t : Timers J) (id : Nat) : Bool :=
  t.arm? id == some .fired

/-- The task still takes messages. -/
def isRunning (t : Timers J) : Bool :=
  match t.phase with
  | .draining | .finished => false
  | _ => true

/-- Ends a timer that is still armed, and tells whether it did. -/
def turn (t : Timers J) (id : Nat) (arm : Arm) : Bool × Timers J :=
  if t.isPending id then (true, { t with arms := t.arms.set id arm }) else (false, t)

/-! ## Steps of clients -/

/-- The last moment that a clock can tell, in nanoseconds from the start. Clocks count the seconds
since the machine came up in 63 bits, and the start is taken to be an hour after that. -/
def horizon : Nat :=
  (1 <<< 63 - 3600) * 1000000000 - 1

/-- Sets a timer that runs its job after a delay, and returns its handle. Once the task takes no
more messages, the timer is cancelled on the spot. To find the task running and to put the message
in are one step here: nothing closes the channel to the task in the middle of a send. -/
def schedule (t : Timers J) (now delay : Nat) (job : J) : Except TimerError (Nat × Timers J) :=
  let id := t.arms.length
  if horizon < now + delay then .error .pastHorizon
  else if t.isRunning then
    .ok (id, { t with
      arms := t.arms ++ [.armed]
      inbox := t.inbox ++ [.schedule id (now + delay) job] })
  else .ok (id, { t with arms := t.arms ++ [.cancelled] })

/-- Cancels a timer, and tells whether that kept it from firing. -/
def cancel (t : Timers J) (id : Nat) : Bool × Timers J :=
  t.turn id .cancelled

/-- Tells the task to stop. Timers that are still armed then are cancelled. -/
def shutdown (t : Timers J) : Timers J :=
  if t.isRunning then { t with inbox := t.inbox ++ [.shutdown] } else t

/-! ## Steps of the task -/

/-- Handles the next message. -/
def receive? (t : Timers J) : Option (Timers J) :=
  match t.inbox with
  | [] => none
  | .schedule id deadline job :: rest =>
    some { t with inbox := rest, table := t.table.insert id deadline job }
  | .shutdown :: rest => some { t with inbox := rest, phase := .stopping }

/-- Fires the first timer that is due, or passes over it when it was cancelled. -/
def fire? (t : Timers J) (now : Nat) : Option (Timers J) :=
  match t.table.popDue? now with
  | none => none
  | some (_, none, table) => some { t with table := table, phase := .firing now }
  | some (id, some job, table) =>
    let t := { t with table := table, phase := .firing now }
    match t.turn id .fired with
    | (true, t) => some { t with handed := t.handed ++ [job] }
    | (false, t) => some t

/-- Forgets cancelled timers once all that was due has been dealt with. -/
def rest (t : Timers J) : Timers J :=
  { t with table := t.table.prune t.isPending, phase := .waiting }

/-- Takes no more messages. -/
def close (t : Timers J) : Timers J :=
  { t with phase := .draining }

/-- Cancels one of the timers that are left, in the table first and then in the inbox. -/
def drain (t : Timers J) : Timers J :=
  match t.table.jobs with
  | (id, _) :: jobs =>
    let t := (t.turn id .cancelled).2
    { t with table := { t.table with jobs := jobs } }
  | [] =>
    match t.inbox with
    | .schedule id _ _ :: inbox =>
      let t := (t.turn id .cancelled).2
      { t with inbox := inbox }
    | .shutdown :: inbox => { t with inbox := inbox }
    | [] => { t with phase := .finished }

/-- Takes one of the jobs that were handed over, to run it. -/
def takeHanded? (t : Timers J) (position : Nat) : Option (J × Timers J) :=
  t.handed[position]?.map fun job => (job, { t with handed := t.handed.eraseIdx position })

end Timers

end ChatCommands
