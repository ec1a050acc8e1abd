import ChatCommands.Dispatcher.Basic
import ChatCommands.Lanes.Clock

/-! # Running handlers in time

Dispatched messages and the handlers they start, on a clock. A handler starts when its message is
dispatched, or, when scheduled, as soon as its lane gets to it; it takes its time and ends.
-/

namespace ChatCommands

/-- What a handler does with an invocation: how many nanoseconds it takes and how it ends. -/
structure Behaviour where
  duration : Nat
  ending : Ending
  deriving Repr, Inhabited

/-- A handler is a function of its invocation alone: it sees neither the moment nor what others have
done, and what it will do is settled when it is handed over. -/
abbrev Handler := Invocation → Behaviour

/-- A message whose handler is to be run. -/
structure Call where
  /-- The number of the message. -/
  message : Nat
  command : Command Handler
  invocation : Invocation
  ending : Ending

def Call.outcome (call : Call) : Outcome Handler :=
  .ofEnding call.command call.invocation call.ending

/-- The outcome of a scheduled call, given what came back from its lane. -/
def Call.received (call : Call) : Option (Receipt Call) → Outcome Handler
  | some (.result call) => call.outcome
  | _ =>
    .failed ⟨call.command.path, call.invocation.values,
      .panicked "scheduled handler was dropped"⟩

/-- The state of a dispatcher at work. -/
structure Run where
  /-- Nanoseconds since the start. -/
  clock : Nat := 0
  cooldowns : CooldownTable := []
  /-- Handlers that run on the tasks of their messages, with the moments at which they end. -/
  inline : List (Nat × Call) := []
  lanes : Lanes Call := {}
  /-- The handlers entered so far, with the moments. -/
  calls : List (Nat × Call) := []
  /-- The outcomes so far, with the moments and the numbers of their messages. -/
  outcomes : List (Nat × Nat × Outcome Handler) := []
  /-- The dispatches that broke off, with the moments and the numbers of their messages. -/
  broken : List (Nat × Nat × TimerError) := []

namespace Run

def settleOutcome (r : Run) (message : Nat) (outcome : Outcome Handler) : Run :=
  { r with outcomes := r.outcomes ++ [(r.clock, message, outcome)] }

def breakOff (r : Run) (message : Nat) (error : TimerError) : Run :=
  { r with broken := r.broken ++ [(r.clock, message, error)] }

/-- Starts the handler of a call on the task of its message. -/
def startInline (r : Run) (duration : Nat) (call : Call) : Run :=
  { r with
    calls := r.calls ++ [(r.clock, call)]
    inline := r.inline ++ [(r.clock + duration, call)] }

/-- Hands a call to the lane of its ordering key. A handler that panics is caught there. -/
def schedule (r : Run) (duration : Nat) (call : Call) : Run :=
  let job : Job Call := { duration := duration, task := call }
  { r with lanes := r.lanes.submit (call.command.orderingKey call.invocation) job }

/-- Dispatches a message under a number of its own. -/
def dispatch (d : Dispatcher Handler) (message : Nat) (m : Message) (r : Run) : Run :=
  let decided := d.decide r.clock r.cooldowns m
  let r := { r with cooldowns := decided.2 }
  match decided.1 with
  | .settled outcome => r.settleOutcome message outcome
  | .broken error => r.breakOff message error
  | .run command invocation =>
    match command.handler? with
    | none => r.settleOutcome message (.invalidArguments command)
    | some handler =>
      let behaviour := handler invocation
      let call : Call := ⟨message, command, invocation, behaviour.ending⟩
      match d.execution with
      | .inline => r.startInline behaviour.duration call
      | .scheduled => r.schedule behaviour.duration call

/-- Notes what a step of a lane showed. -/
def observe (r : Run) : Option (LaneEvent Call) → Run
  | none => r
  | some (.started call) => { r with calls := r.calls ++ [(r.clock, call)] }
  | some (.ended call receipt?) => r.settleOutcome call.message (call.received receipt?)

/-- The end of the inline handler that ends first. -/
def nextInline? (r : Run) : Option Run :=
  (earliest? (·.1) r.inline).map fun (before, (ends, call), after) =>
    { r with clock := ends, inline := before ++ after }.settleOutcome call.message call.outcome

/-- The step of a lane that comes first. -/
def nextLane? (r : Run) : Option Run :=
  (earliest? (·.due r.clock) r.lanes.workers).map fun (before, w, after) =>
    let taken := r.lanes.step (w.due r.clock) before w after
    { r with clock := w.due r.clock, lanes := taken.1 }.observe taken.2

/-- The state after the next step, whenever that is. -/
def next? (r : Run) : Option Run :=
  match r.nextInline?, r.nextLane? with
  | some a, some b => some (if b.clock < a.clock then b else a)
  | some a, none => some a
  | none, b? => b?

/-- How many steps are left at most if nothing more is dispatched. -/
def stepsLeft (r : Run) : Nat :=
  r.inline.length + r.lanes.stepsLeft

theorem observe_lanes (r : Run) (event? : Option (LaneEvent Call)) :
    (r.observe event?).inline = r.inline ∧ (r.observe event?).lanes = r.lanes := by
  match event? with
  | none | some (.started _) | some (.ended _ _) => exact ⟨rfl, rfl⟩

theorem stepsLeft_nextInline? {r s : Run} (h : r.nextInline? = some s) :
    s.stepsLeft < r.stepsLeft := by
  obtain ⟨⟨before, ⟨ends, call⟩, after⟩, he, rfl⟩ := Option.map_eq_some_iff.mp h
  simp [stepsLeft, settleOutcome, eq_append_of_earliest? he]

theorem stepsLeft_nextLane? {r s : Run} (h : r.nextLane? = some s) :
    s.stepsLeft < r.stepsLeft := by
  obtain ⟨⟨before, w, after⟩, he, rfl⟩ := Option.map_eq_some_iff.mp h
  have := Lanes.stepsLeft_step (eq_append_of_earliest? he) (w.due r.clock)
  simp only [stepsLeft, observe_lanes]
  omega

theorem stepsLeft_next? {r s : Run} (h : r.next? = some s) : s.stepsLeft < r.stepsLeft := by
  unfold next? at h
  split at h
  · rename_i ha hb
    split at h <;> cases h
    · exact stepsLeft_nextLane? hb
    · exact stepsLeft_nextInline? ha
  · rename_i ha _
    exact stepsLeft_nextInline? (ha.trans h)
  · exact stepsLeft_nextLane? h

/-- Takes every step that is due by the moment `target`, in time order, and ends there. -/
def advance (target : Nat) (r : Run) : Run :=
  match _h : r.next? with
  | none => { r with clock := target }
  | some s => if s.clock ≤ target then s.advance target else { r with clock := target }
termination_by r.stepsLeft
decreasing_by exact stepsLeft_next? _h

/-- Takes every step that needs no time. -/
def settle (r : Run) : Run :=
  r.advance r.clock

def outcome? (r : Run) (message : Nat) : Option (Outcome Handler) :=
  (r.outcomes.find? (·.2.1 == message)).map (·.2.2)

/-- Nothing more will come of a message: its outcome is there, or its dispatch broke off. -/
def isOver (r : Run) (message : Nat) : Bool :=
  (r.outcome? message).isSome || r.broken.any (·.2.1 == message)

/-- Lets time pass until the dispatch of a message is over. -/
def await (message : Nat) (r : Run) : Run :=
  if r.isOver message then r
  else
    match _h : r.next? with
    | none => r
    | some s => s.await message
termination_by r.stepsLeft
decreasing_by exact stepsLeft_next? _h

/-- Dispatches a message in the background. -/
def send (d : Dispatcher Handler) (message : Nat) (m : Message) (r : Run) : Run :=
  (r.dispatch d message m).settle

/-- Dispatches a message and waits until that is over. -/
def sendAndAwait (d : Dispatcher Handler) (message : Nat) (m : Message) (r : Run) : Run :=
  ((r.dispatch d message m).await message).settle

/-- The remaining time of the cooldown of a command for a context. -/
def remaining (r : Run) (command : CommandId) (cooldown : Cooldown) (ctx : Context) :
    Option Duration × Run :=
  let answer := r.cooldowns.remaining r.clock (cooldown.key command ctx)
  (answer.1, { r with cooldowns := answer.2 })

def resetCooldown (r : Run) (command : CommandId) (cooldown : Cooldown) (ctx : Context) : Run :=
  { r with cooldowns := r.cooldowns.reset (cooldown.key command ctx) }

end Run

end ChatCommands
