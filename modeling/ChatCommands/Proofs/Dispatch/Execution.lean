import Mathlib.Data.List.Induction
import ChatCommands.Proofs.Dispatch.Access
import ChatCommands.Proofs.Dispatch.Mirrors
import ChatCommands.Proofs.Dispatch.Outcomes

/-! # Inline and scheduled execution

Whether handlers run on the tasks of their messages or are scheduled cannot be seen as long as
every message is waited for, or no command has an ordering key: what is decided does not depend on
it, and no call ever finds another one in its lane.
-/

namespace ChatCommands

open scoped List

namespace Dispatcher

/-- No command of the catalog has an ordering key. -/
def Unkeyed {H : Type} (d : Dispatcher H) : Prop :=
  ∀ chain, d.catalog.root.Holds chain → chain.last.orderingKey? = none

/-- What is run is in the catalog. -/
theorem exists_chain_of_run {H : Type} {d : Dispatcher H} {now : Nat} {cooldowns : CooldownTable}
    {m : Message} {c : Command H} {invocation : Invocation}
    (h : (d.decide now cooldowns m).1 = .run c invocation) :
    ∃ chain, d.catalog.root.Holds chain ∧ chain.last = c := by
  obtain ⟨fit, hfit, rfl, -⟩ := exists_fit_of_run h
  obtain ⟨leadIn, rest, -, hres⟩ := fit?_eq_some_iff.mp hfit
  obtain ⟨chain, hfollows, hchain, -⟩ := Catalog.exists_chain_of_matched hres
  exact ⟨chain, hfollows.holds, (chain.command_of_fit? hchain).1.symm⟩

theorem Unkeyed.orderingKey_of_run {H : Type} {d : Dispatcher H} (hd : d.Unkeyed) {now : Nat}
    {cooldowns : CooldownTable} {m : Message} {c : Command H} {invocation : Invocation}
    (h : (d.decide now cooldowns m).1 = .run c invocation) : c.orderingKey invocation = none := by
  obtain ⟨chain, hchain, rfl⟩ := exists_chain_of_run h
  rw [Signature.orderingKey, hd chain hchain, Option.map_none]

end Dispatcher

/-- Every message is waited for before anything else is done. -/
def Act.Sequential (acts : List Act) : Prop :=
  ∀ m mode, .message m mode ∈ acts → mode = .awaited

/-- After every message, what can be done without time passing is done. -/
def Act.Settled (acts : List Act) : Prop :=
  ∀ m, .message m .posted ∉ acts

namespace Run

/-- The run of a dispatcher with handlers on the tasks of their messages. -/
def inlineHistory (d : Dispatcher Handler) (acts : List Act) : Run :=
  history { d with execution := .inline } acts

def scheduledHistory (d : Dispatcher Handler) (acts : List Act) : Run :=
  history { d with execution := .scheduled } acts

variable {r s : Run} {d : Dispatcher Handler} {i : Nat} {m : Message}

/-- Does what was decided about a message, with the handler run in the given way. -/
def enact (r : Run) (execution : ExecutionMode) (i : Nat) : Decision Handler → Run
  | .settled outcome => r.settleOutcome i outcome
  | .broken error => r.breakOff i error
  | .run c invocation =>
    match c.handler? with
    | none => r.settleOutcome i (.invalidArguments c)
    | some handler =>
      r.handOver execution (handler invocation).duration
        ⟨i, c, invocation, (handler invocation).ending⟩

/-- What is decided does not depend on how handlers are run. -/
theorem dispatch_eq_enact (d : Dispatcher Handler) (execution : ExecutionMode) (i : Nat)
    (m : Message) (r : Run) : r.dispatch { d with execution := execution } i m =
      enact { r with cooldowns := (d.decide r.clock r.cooldowns m).2 } execution i
        (d.decide r.clock r.cooldowns m).1 := by
  have hdecide : Dispatcher.decide { d with execution := execution } = d.decide := rfl
  rw [Run.dispatch, hdecide]
  cases (d.decide r.clock r.cooldowns m).1 with
  | settled outcome => rfl
  | broken error => rfl
  | run c invocation =>
    cases hhandler : c.handler? with
    | none => simp only [enact, hhandler]
    | some handler =>
      simp only [enact, hhandler]
      cases execution <;> rfl

theorem Mirrors.dispatch (h : r.Mirrors s) (d : Dispatcher Handler) (i : Nat) (m : Message)
    (hkey : ∀ c invocation, (d.decide s.clock s.cooldowns m).1 = .run c invocation →
      c.orderingKey invocation = none ∨ s.lanes.workers = []) :
    (r.dispatch { d with execution := .inline } i m).Mirrors
      (s.dispatch { d with execution := .scheduled } i m) := by
  have hopened := h.setCooldowns (d.decide s.clock s.cooldowns m).2
  have hsame : d.decide r.clock r.cooldowns m = d.decide s.clock s.cooldowns m := by
    rw [h.clock, h.cooldowns]
  rw [dispatch_eq_enact, dispatch_eq_enact, hsame]
  cases hdecided : (d.decide s.clock s.cooldowns m).1 with
  | settled outcome => exact hopened.settle i outcome
  | broken error => exact hopened.breakOff i error
  | run c invocation =>
    cases hhandler : c.handler? with
    | none =>
      simp only [enact, hhandler]
      exact hopened.settle i (.invalidArguments c)
    | some handler =>
      simp only [enact, hhandler]
      exact hopened.handOver (handler invocation).duration
        ⟨i, c, invocation, (handler invocation).ending⟩ (hkey c invocation hdecided)

theorem next?_of_idle (hr : r.inline = []) (hlanes : r.lanes = {}) : r.next? = none := by
  simp [next?, Run.nextInline?, nextLane?, hr, hlanes, earliest?]

theorem inline_settle (hr : r.inline = []) (hlanes : r.lanes = {}) : r.settle.inline = [] := by
  rw [Run.settle, advance_of_rests (next?_of_idle hr hlanes)]
  exact hr

theorem isOver_settleOutcome (r : Run) (message : Nat) (outcome : Outcome Handler) :
    (r.settleOutcome message outcome).isOver message = true := by
  simp [Run.isOver, Run.outcome?, settleOutcome]

/-- Nothing is left to be done once a message is over that was dispatched alone. -/
theorem inline_sendAndAwait (hr : r.inline = []) (hlanes : r.lanes = {})
    (hgoing : r.isOver i = false) (d : Dispatcher Handler) (m : Message) :
    (r.sendAndAwait { d with execution := .inline } i m).inline = [] := by
  rw [sendAndAwait]
  rcases r.dispatch_cases { d with execution := .inline } i m with
    ⟨o, -, hdispatch⟩ | ⟨-, kept, hdispatch, -⟩ |
    ⟨-, -, fit, duration, call, opened, -, hmessage, -, -, hdispatch⟩
  · rw [hdispatch, await_of_rests (next?_of_idle (r := r.settleOutcome i o) hr hlanes)]
    exact inline_settle (r := r.settleOutcome i o) hr hlanes
  · have hidle : (breakOff { r with cooldowns := kept } i .pastHorizon).next? = none :=
      next?_of_idle hr hlanes
    rw [hdispatch, await_of_rests hidle, settle, advance_of_rests hidle]
    exact hr
  · rw [hdispatch, handOver]
    -- The one call that is on its way is the next to end, and nobody waits any longer.
    have hnext : (startInline { r with cooldowns := opened } duration call).next? =
        some (settleOutcome { r with
          clock := r.clock + duration
          cooldowns := opened
          calls := r.calls ++ [(r.clock, call)] } i call.outcome) := by
      simp [next?, Run.nextInline?, nextLane?, startInline, hr, hlanes, earliest?, hmessage]
    have hpending : (startInline { r with cooldowns := opened } duration call).isOver i = false :=
      hgoing
    rw [await_of_next? hpending hnext, await_of_isOver (isOver_settleOutcome _ _ _)]
    exact inline_settle hr hlanes

/-- Both agree on all that is seen of them. -/
structure Agrees (r s : Run) : Prop where
  clock : r.clock = s.clock
  cooldowns : r.cooldowns = s.cooldowns
  calls : r.calls = s.calls
  outcomes : r.outcomes = s.outcomes
  broken : r.broken = s.broken

theorem Mirrors.agrees (h : r.Mirrors s) (hbusy : s.Busy) : r.Agrees s where
  clock := h.clock.symm
  cooldowns := h.cooldowns.symm
  calls := by
    have hnone : s.lanes.workers.filterMap (Worker.entry? s.clock) = [] := by
      refine List.filterMap_eq_nil_iff.mpr fun w hw => ?_
      obtain ⟨job, ends, hstage⟩ := hbusy w hw
      rw [Worker.entry?, Worker.held?, hstage, Option.map_none]
    rw [h.calls, hnone, List.append_nil]
  outcomes := h.outcomes.symm
  broken := h.broken.symm

theorem Mirrors.workers_eq_nil (h : r.Mirrors s) (hbusy : s.Busy) (hr : r.inline = []) :
    s.lanes.workers = [] := by
  refine List.eq_nil_iff_forall_not_mem.mpr fun w hw => ?_
  obtain ⟨job, ends, hstage⟩ := hbusy w hw
  have hnone := List.filterMap_eq_nil_iff.mp (h.inline.symm.trans hr) w hw
  simp [Worker.finish?, hstage] at hnone

/-- The two runs after the same acts. -/
structure Paired (d : Dispatcher Handler) (acts : List Act) : Prop where
  mirrors : (inlineHistory d acts).Mirrors (scheduledHistory d acts)
  busy : Act.Settled acts → (scheduledHistory d acts).Busy
  idle : Act.Sequential acts → (inlineHistory d acts).inline = []

theorem inlineHistory_concat (d : Dispatcher Handler) (acts : List Act) (act : Act) :
    inlineHistory d (acts ++ [act]) =
      (inlineHistory d acts).perform { d with execution := .inline } acts.length act :=
  history_append _ _ _

theorem scheduledHistory_concat (d : Dispatcher Handler) (acts : List Act) (act : Act) :
    scheduledHistory d (acts ++ [act]) =
      (scheduledHistory d acts).perform { d with execution := .scheduled } acts.length act :=
  history_append _ _ _

theorem Mirrors.settled (h : r.Mirrors s) (hsound : s.Sound) :
    r.settle.Mirrors s.settle ∧ s.settle.Busy := by
  rw [Run.settle, ← h.clock]
  exact h.advance hsound (Nat.le_refl _)

/-- What is decided about a message has no key that is in use. -/
theorem Paired.key_free {acts : List Act} (h : Paired d acts)
    (hacts : Act.Sequential acts ∨ d.Unkeyed) {now : Nat} {cooldowns : CooldownTable}
    {c : Command Handler} {invocation : Invocation}
    (hrun : (d.decide now cooldowns m).1 = .run c invocation) :
    c.orderingKey invocation = none ∨ (scheduledHistory d acts).lanes.workers = [] := by
  rcases hacts with hacts | hd
  · have hsettled : Act.Settled acts := fun m hm => by cases hacts m .posted hm
    exact Or.inr (h.mirrors.workers_eq_nil (h.busy hsettled) (h.idle hacts))
  · exact Or.inl (hd.orderingKey_of_run hrun)

theorem isOver_fresh (d : Dispatcher Handler) (acts : List Act) :
    (history d acts).isOver acts.length = false := by
  obtain ⟨hledger⟩ := stands_history d acts
  rw [isOver_eq_false_iff, hledger.outcomes, hledger.errors]
  exact ⟨rfl, rfl⟩

theorem Paired.message {acts : List Act} (h : Paired d acts)
    (hacts : Act.Sequential acts ∨ d.Unkeyed) (m : Message) (mode : Mode) :
    Paired d (acts ++ [.message m mode]) := by
  have hdispatch := h.mirrors.dispatch d acts.length m fun _ _ => h.key_free hacts
  have hsent := (sound_history { d with execution := .scheduled } acts).dispatch
    { d with execution := .scheduled } acts.length m
  have hmem : Act.message m mode ∈ acts ++ [.message m mode] := List.mem_concat_self
  cases mode with
  | posted =>
    refine ⟨?_, fun hsettled => absurd hmem (hsettled m), fun hacts => by cases hacts _ _ hmem⟩
    rw [inlineHistory_concat, scheduledHistory_concat]
    exact hdispatch
  | background =>
    obtain ⟨hmirrors, hbusy⟩ := hdispatch.settled hsent
    refine ⟨?_, fun _ => ?_, fun hacts => by cases hacts _ _ hmem⟩
    · rw [inlineHistory_concat, scheduledHistory_concat]
      exact hmirrors
    · rw [scheduledHistory_concat]
      exact hbusy
  | awaited =>
    obtain ⟨hmirrors, hbusy⟩ :=
      (hdispatch.await hsent acts.length).settled (hsent.await acts.length).sound
    refine ⟨?_, fun _ => ?_, fun hacts => ?_⟩
    · rw [inlineHistory_concat, scheduledHistory_concat]
      exact hmirrors
    · rw [scheduledHistory_concat]
      exact hbusy
    · rw [inlineHistory_concat]
      have hidle := h.idle fun m mode hm => hacts m mode (List.mem_append_left _ hm)
      exact inline_sendAndAwait hidle h.mirrors.noLanes (isOver_fresh _ acts) d m

theorem Paired.pass {acts : List Act} (h : Paired d acts) (nanos : Nat) :
    Paired d (acts ++ [.pass nanos]) := by
  have hsound := sound_history { d with execution := .scheduled } acts
  obtain ⟨hmirrors, hbusy⟩ := h.mirrors.advance hsound (Nat.le_add_right _ nanos)
  rw [h.mirrors.clock] at hmirrors hbusy
  refine ⟨?_, fun _ => ?_, fun hacts => ?_⟩
  · rw [inlineHistory_concat, scheduledHistory_concat, perform, perform, h.mirrors.clock]
    exact hmirrors
  · rw [scheduledHistory_concat, perform, h.mirrors.clock]
    exact hbusy
  · have hidle := h.idle fun m mode hm => hacts m mode (List.mem_append_left _ hm)
    rw [inlineHistory_concat, perform,
      advance_of_rests (next?_of_idle hidle h.mirrors.noLanes)]
    exact hidle

/-- What is done to the cooldowns is done to both. -/
theorem Paired.setCooldowns {acts : List Act} {act : Act} (h : Paired d acts)
    {table : CooldownTable}
    (hinline : inlineHistory d (acts ++ [act]) = { inlineHistory d acts with cooldowns := table })
    (hscheduled : scheduledHistory d (acts ++ [act]) =
      { scheduledHistory d acts with cooldowns := table }) : Paired d (acts ++ [act]) := by
  refine ⟨?_, fun hsettled => ?_, fun hacts => ?_⟩
  · rw [hinline, hscheduled]
    exact h.mirrors.setCooldowns table
  · rw [hscheduled]
    exact h.busy fun m hm => hsettled m (List.mem_append_left _ hm)
  · rw [hinline]
    exact h.idle fun m mode hm => hacts m mode (List.mem_append_left _ hm)

theorem Paired.concat {acts : List Act} (h : Paired d acts)
    (hacts : Act.Sequential acts ∨ d.Unkeyed) (act : Act) : Paired d (acts ++ [act]) := by
  cases act with
  | message m mode => exact h.message hacts m mode
  | pass nanos => exact h.pass nanos
  | remaining command cooldown ctx =>
    have hsame : ((scheduledHistory d acts).cooldowns.remaining (scheduledHistory d acts).clock
        (cooldown.key command ctx)).2 = ((inlineHistory d acts).cooldowns.remaining
          (inlineHistory d acts).clock (cooldown.key command ctx)).2 := by
      rw [h.mirrors.clock, h.mirrors.cooldowns]
    refine h.setCooldowns (inlineHistory_concat d acts _) ?_
    exact (scheduledHistory_concat d acts _).trans
      (congrArg (fun table => { scheduledHistory d acts with cooldowns := table }) hsame)
  | reset command cooldown ctx =>
    refine h.setCooldowns (inlineHistory_concat d acts _) ?_
    rw [scheduledHistory_concat, perform, resetCooldown, h.mirrors.cooldowns]

theorem paired (d : Dispatcher Handler) (acts : List Act)
    (hacts : Act.Sequential acts ∨ d.Unkeyed) : Paired d acts := by
  induction acts using List.reverseRecOn with
  | nil =>
    have hnone : ∀ {α : Type} {p : α → Prop}, ∀ a ∈ ([] : List α), p a := by simp
    exact ⟨⟨rfl, rfl, rfl, rfl, rfl, rfl, rfl, rfl, hnone, hnone⟩, fun _ => hnone, fun _ => rfl⟩
  | append_singleton acts act ih =>
    have hbefore : Act.Sequential acts ∨ d.Unkeyed :=
      hacts.imp_left fun hacts m mode hm => hacts m mode (List.mem_append_left _ hm)
    exact (ih hbefore).concat hbefore act

/-- As long as every message is waited for, or no command has an ordering key, it cannot be seen
whether handlers are scheduled, neither at the end nor on the way. This is said of handlers that are
functions of their invocations: what a handler does, and how long it takes, is settled when its
message is dispatched, and it passes no state on. -/
theorem execution_modes_agree (d : Dispatcher Handler) (acts : List Act)
    (hacts : Act.Sequential acts ∨ d.Unkeyed) : ∀ before, before <+: acts →
      (inlineHistory d before).settle.Agrees (scheduledHistory d before).settle ∧
      (Act.Settled before → (inlineHistory d before).Agrees (scheduledHistory d before)) := by
  rintro before ⟨later, rfl⟩
  have hpaired := paired d before
    (hacts.imp_left fun hacts m mode hm => hacts m mode (List.mem_append_left _ hm))
  obtain ⟨hmirrors, hbusy⟩ := hpaired.mirrors.settled (sound_history _ before)
  exact ⟨hmirrors.agrees hbusy, fun hsettled => hpaired.mirrors.agrees (hpaired.busy hsettled)⟩

/-- A command that greets, one caller after the other, for five nanoseconds each. -/
def greeting : Definition Handler where
  trigger := "hi"
  handler? := some fun _ => ⟨5, .done⟩
  orderingKey? := some fun invocation => toString invocation.context.author.id

def greeter : Dispatcher Handler where
  catalog := ((({} : Catalog Handler).define greeting).toOption).getD {}
  conversions := .none
  leadIns := { optionalInPrivate := true }
  developers := []
  execution := .inline
  permissions := .lenient

/-- Two greetings, each waited for, some time apart. -/
def greetings : List Act :=
  [.message ⟨"hi", {}⟩ .awaited, .pass 3, .message ⟨"hi", {}⟩ .awaited]

theorem execution_modes_agree_greetings : Act.Sequential greetings ∧
    ∀ before, before <+: greetings →
      (inlineHistory greeter before).settle.Agrees (scheduledHistory greeter before).settle ∧
      (Act.Settled before → (inlineHistory greeter before).Agrees
        (scheduledHistory greeter before)) := by
  have hacts : Act.Sequential greetings := by
    intro m mode hm
    simp only [greetings, List.mem_cons, Act.message.injEq, List.not_mem_nil, or_false,
      reduceCtorEq, false_or] at hm
    exact hm.elim And.right And.right
  exact ⟨hacts, execution_modes_agree greeter greetings (Or.inl hacts)⟩

end Run

end ChatCommands
