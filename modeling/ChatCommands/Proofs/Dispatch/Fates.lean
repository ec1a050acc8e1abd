import ChatCommands.Proofs.Dispatch.Moves
import ChatCommands.Proofs.Dispatch.Stages

/-! # The fate of a message

A message is settled when it is dispatched, or its dispatch breaks off, or its call waits, runs and
ends, and nothing else can become of it. So it comes to one outcome unless its dispatch breaks off,
and its handler is entered at most once.
-/

namespace ChatCommands

open Relation
open scoped List

/-- Those of the calls that are for a message. -/
def ofMessage (i : Nat) (calls : List Call) : List Call :=
  calls.filter (·.message == i)

theorem ofMessage_cons_self {call : Call} (calls : List Call) :
    ofMessage call.message (call :: calls) = call :: ofMessage call.message calls := by
  simp [ofMessage]

theorem ofMessage_cons_of_ne {i : Nat} {call : Call} (h : call.message ≠ i) (calls : List Call) :
    ofMessage i (call :: calls) = ofMessage i calls :=
  List.filter_cons_of_neg (by simpa using h)

theorem ofMessage_perm {calls others : List Call} (h : calls ~ others) (i : Nat) :
    ofMessage i calls ~ ofMessage i others :=
  h.filter _

/-- What a message has come to, or will come to if time is left to it. -/
inductive Fate
  | unsent
  | settled (outcome : Outcome Handler)
  | broken (error : TimerError)
  | called (call : Call)

namespace Run

/-- The handlers that were entered for a message. -/
def callsOf (r : Run) (i : Nat) : List Call :=
  ofMessage i r.entered

def outcomesOf (r : Run) (i : Nat) : List (Outcome Handler) :=
  (r.results.filter (·.1 == i)).map Prod.snd

/-- Why dispatches of a message broke off. -/
def errorsOf (r : Run) (i : Nat) : List TimerError :=
  (r.broken.filter (·.2.1 == i)).map (·.2.2)

/-- All that a state holds of a message. -/
structure Ledger (r : Run) (i : Nat) (waiting running entered : List Call)
    (outcomes : List (Outcome Handler)) (errors : List TimerError) : Prop where
  waiting : ofMessage i r.waiting ~ waiting
  running : ofMessage i r.running ~ running
  entered : r.callsOf i = entered
  outcomes : r.outcomesOf i = outcomes
  errors : r.errorsOf i = errors

/-- How far a message has come on the way to its fate. -/
inductive Stands (r : Run) (i : Nat) : Fate → Prop
  | unsent : r.Ledger i [] [] [] [] [] → Stands r i .unsent
  | settled {outcome : Outcome Handler} :
      r.Ledger i [] [] [] [outcome] [] → Stands r i (.settled outcome)
  | broken {error : TimerError} : r.Ledger i [] [] [] [] [error] → Stands r i (.broken error)
  | waiting {call : Call} : r.Ledger i [call] [] [] [] [] → Stands r i (.called call)
  | running {call : Call} : r.Ledger i [] [call] [call] [] [] → Stands r i (.called call)
  | ended {call : Call} : r.Ledger i [] [] [call] [call.outcome] [] → Stands r i (.called call)

variable {r s : Run} {i : Nat} {fate : Fate}

theorem Ledger.congr {waiting running entered : List Call} {outcomes : List (Outcome Handler)}
    {errors : List TimerError} (h : r.Ledger i waiting running entered outcomes errors)
    (hw : ofMessage i s.waiting ~ ofMessage i r.waiting)
    (hr : ofMessage i s.running ~ ofMessage i r.running) (he : s.callsOf i = r.callsOf i)
    (ho : s.outcomesOf i = r.outcomesOf i) (hb : s.errorsOf i = r.errorsOf i) :
    s.Ledger i waiting running entered outcomes errors :=
  ⟨hw.trans h.waiting, hr.trans h.running, he.trans h.entered, ho.trans h.outcomes,
    hb.trans h.errors⟩

theorem Stands.congr (h : r.Stands i fate) (hw : ofMessage i s.waiting ~ ofMessage i r.waiting)
    (hr : ofMessage i s.running ~ ofMessage i r.running) (he : s.callsOf i = r.callsOf i)
    (ho : s.outcomesOf i = r.outcomesOf i) (hb : s.errorsOf i = r.errorsOf i) :
    s.Stands i fate := by
  cases h with
  | unsent h => exact .unsent (h.congr hw hr he ho hb)
  | settled h => exact .settled (h.congr hw hr he ho hb)
  | broken h => exact .broken (h.congr hw hr he ho hb)
  | waiting h => exact .waiting (h.congr hw hr he ho hb)
  | running h => exact .running (h.congr hw hr he ho hb)
  | ended h => exact .ended (h.congr hw hr he ho hb)

theorem outcomesOf_settle_self {outcome : Outcome Handler}
    (h : s.results = r.results ++ [(i, outcome)]) :
    s.outcomesOf i = r.outcomesOf i ++ [outcome] := by
  simp [outcomesOf, h]

theorem outcomesOf_settle_of_ne {j : Nat} {outcome : Outcome Handler}
    (h : s.results = r.results ++ [(j, outcome)]) (hne : j ≠ i) :
    s.outcomesOf i = r.outcomesOf i := by
  simp [outcomesOf, h, hne]

theorem outcomesOf_congr (h : s.results = r.results) : s.outcomesOf i = r.outcomesOf i := by
  rw [outcomesOf, h, outcomesOf]

theorem errorsOf_congr (h : s.broken = r.broken) : s.errorsOf i = r.errorsOf i := by
  rw [errorsOf, h, errorsOf]

theorem callsOf_congr (h : s.entered = r.entered) : s.callsOf i = r.callsOf i := by
  rw [callsOf, h, callsOf]

theorem callsOf_enter_self {call : Call} (h : s.entered = r.entered ++ [call]) :
    s.callsOf call.message = r.callsOf call.message ++ [call] := by
  simp [callsOf, ofMessage, h]

theorem callsOf_enter_of_ne {call : Call} (h : s.entered = r.entered ++ [call])
    (hne : call.message ≠ i) : s.callsOf i = r.callsOf i := by
  simp [callsOf, ofMessage, h, hne]

/-- A call can only be entered from where it waits, and only end where it runs. -/
theorem Stands.moves (h : r.Stands i fate) (hm : r.Moves s) : s.Stands i fate := by
  -- A call of another message passes the ledger by. A call of the message itself is the one in it,
  -- since the lists that it leaves hold at most one.
  cases hm with
  | idle hw hr he ho hb =>
    replace hb : s.errorsOf i = r.errorsOf i := errorsOf_congr hb
    exact h.congr (ofMessage_perm hw i) (ofMessage_perm hr i) (callsOf_congr he)
      (outcomesOf_congr ho) hb
  | enters call hw hr he ho hb =>
    replace hb : s.errorsOf i = r.errorsOf i := errorsOf_congr hb
    have hw := ofMessage_perm hw i
    have hr := ofMessage_perm hr i
    by_cases hi : call.message = i
    · subst hi
      rw [ofMessage_cons_self] at hw hr
      cases h with
      | unsent h | settled h | broken h | running h | ended h =>
        exact absurd (hw.symm.trans h.waiting) (by simp)
      | waiting h =>
        obtain ⟨rfl, hrest⟩ := List.cons.inj (List.perm_singleton.mp (hw.symm.trans h.waiting))
        refine .running ⟨List.Perm.of_eq hrest, hr.trans (h.running.cons _), ?_, ?_,
          hb.trans h.errors⟩
        · rw [callsOf_enter_self he, h.entered, List.nil_append]
        · rw [outcomesOf_congr ho, h.outcomes]
    · rw [ofMessage_cons_of_ne hi] at hw hr
      exact h.congr hw.symm hr (callsOf_enter_of_ne he hi) (outcomesOf_congr ho) hb
  | ends call hw hr he ho hb =>
    replace hb : s.errorsOf i = r.errorsOf i := errorsOf_congr hb
    have hw := ofMessage_perm hw i
    have hr := ofMessage_perm hr i
    by_cases hi : call.message = i
    · subst hi
      rw [ofMessage_cons_self] at hr
      cases h with
      | unsent h | settled h | broken h | waiting h | ended h =>
        exact absurd (hr.symm.trans h.running) (by simp)
      | running h =>
        obtain ⟨rfl, hrest⟩ := List.cons.inj (List.perm_singleton.mp (hr.symm.trans h.running))
        refine .ended ⟨hw.trans h.waiting, List.Perm.of_eq hrest, ?_, ?_, hb.trans h.errors⟩
        · rw [callsOf_congr he, h.entered]
        · rw [outcomesOf_settle_self ho, h.outcomes, List.nil_append]
    · rw [ofMessage_cons_of_ne hi] at hr
      exact h.congr hw hr.symm (callsOf_congr he) (outcomesOf_settle_of_ne ho hi) hb

theorem Stands.leads (h : r.Stands i fate) (hl : r.Leads s) : s.Stands i fate := by
  obtain ⟨hmoves, -, -⟩ := hl
  induction hmoves with
  | refl => exact h
  | tail _ hm ih => exact ih.moves hm

/-- Hands a call over to be run, as a dispatcher does that executes handlers in the given way. -/
def handOver (r : Run) (execution : ExecutionMode) (duration : Nat) (call : Call) : Run :=
  match execution with
  | .inline => r.startInline duration call
  | .scheduled => r.schedule duration call

theorem cooldowns_handOver (r : Run) (execution : ExecutionMode) (duration : Nat) (call : Call) :
    (r.handOver execution duration call).cooldowns = r.cooldowns := by
  cases execution <;> rfl

theorem Sound.handOver (hr : r.Sound) (execution : ExecutionMode) (duration : Nat) (call : Call) :
    (r.handOver execution duration call).Sound := by
  cases execution with
  | inline => exact ⟨hr.served, hr.received⟩
  | scheduled =>
    obtain ⟨hserved, hwaiting, hrunning⟩ := hr.served.submit
      (call.command.orderingKey call.invocation) { duration := duration, task := call }
    refine ⟨hserved, fun job hjob => ?_⟩
    rw [Run.handOver, schedule, Lanes.jobs, List.mem_append, hwaiting.mem_iff, hrunning,
      List.mem_cons, or_assoc, ← List.mem_append] at hjob
    rcases hjob with rfl | hjob
    · rfl
    · exact hr.received job hjob

theorem entered_startInline (r : Run) (duration : Nat) (call : Call) :
    (r.startInline duration call).entered = r.entered ++ [call] := by
  simp [startInline, entered]

theorem running_startInline (r : Run) (duration : Nat) (call : Call) :
    (r.startInline duration call).running ~ call :: r.running := by
  simp only [running, startInline, List.map_append, List.append_assoc]
  exact List.perm_middle

theorem results_settleOutcome (r : Run) (i : Nat) (outcome : Outcome Handler) :
    (r.settleOutcome i outcome).results = r.results ++ [(i, outcome)] := by
  simp [settleOutcome, results]

theorem Sound.waiting_schedule (hr : r.Sound) (duration : Nat) (call : Call) :
    (r.schedule duration call).waiting ~ call :: r.waiting :=
  (hr.served.submit (call.command.orderingKey call.invocation)
    { duration := duration, task := call }).2.1.map Job.task

theorem Sound.running_schedule (hr : r.Sound) (duration : Nat) (call : Call) :
    (r.schedule duration call).running = r.running := by
  rw [running, schedule, (hr.served.submit _ _).2.2, running]

/-- A call that is handed over runs at once or waits for its lane. -/
theorem Stands.handOver {call : Call} (hr : r.Sound) (h : r.Stands call.message .unsent)
    (execution : ExecutionMode) (duration : Nat) :
    (r.handOver execution duration call).Stands call.message (.called call) := by
  obtain ⟨h⟩ := h
  cases execution with
  | inline =>
    have hr := ofMessage_perm (r.running_startInline duration call) call.message
    rw [ofMessage_cons_self] at hr
    refine .running ⟨h.waiting, hr.trans (h.running.cons _), ?_, h.outcomes, h.errors⟩
    rw [Run.handOver, callsOf_enter_self (r.entered_startInline duration call), h.entered]
    rfl
  | scheduled =>
    have hw := ofMessage_perm (hr.waiting_schedule duration call) call.message
    rw [ofMessage_cons_self] at hw
    refine .waiting ⟨hw.trans (h.waiting.cons _), ?_, h.entered, h.outcomes, h.errors⟩
    rw [Run.handOver, hr.running_schedule]
    exact h.running

theorem Stands.handOver_of_ne {call : Call} (hr : r.Sound) (h : r.Stands i fate)
    (hne : call.message ≠ i) (execution : ExecutionMode) (duration : Nat) :
    (r.handOver execution duration call).Stands i fate := by
  cases execution with
  | inline =>
    have hr := ofMessage_perm (r.running_startInline duration call) i
    rw [ofMessage_cons_of_ne hne] at hr
    exact h.congr (List.Perm.refl _) hr
      (callsOf_enter_of_ne (r.entered_startInline duration call) hne) rfl rfl
  | scheduled =>
    have hw := ofMessage_perm (hr.waiting_schedule duration call) i
    rw [ofMessage_cons_of_ne hne] at hw
    refine h.congr hw ?_ rfl rfl rfl
    rw [Run.handOver, hr.running_schedule]

theorem Stands.settleOutcome (h : r.Stands i .unsent) (outcome : Outcome Handler) :
    (r.settleOutcome i outcome).Stands i (.settled outcome) := by
  obtain ⟨h⟩ := h
  refine .settled ⟨h.waiting, h.running, h.entered, ?_, h.errors⟩
  rw [outcomesOf_settle_self (r.results_settleOutcome i outcome), h.outcomes, List.nil_append]

theorem Stands.settleOutcome_of_ne {j : Nat} (h : r.Stands i fate) (hne : j ≠ i)
    (outcome : Outcome Handler) : (r.settleOutcome j outcome).Stands i fate :=
  h.congr (List.Perm.refl _) (List.Perm.refl _) rfl
    (outcomesOf_settle_of_ne (r.results_settleOutcome j outcome) hne) rfl

theorem Stands.breakOff (h : r.Stands i .unsent) (error : TimerError) :
    (r.breakOff i error).Stands i (.broken error) := by
  obtain ⟨h⟩ := h
  refine .broken ⟨h.waiting, h.running, h.entered, h.outcomes, ?_⟩
  have herrors := h.errors
  unfold errorsOf at herrors ⊢
  simp [Run.breakOff, herrors]

theorem Stands.breakOff_of_ne {j : Nat} (h : r.Stands i fate) (hne : j ≠ i) (error : TimerError) :
    (r.breakOff j error).Stands i fate :=
  h.congr (List.Perm.refl _) (List.Perm.refl _) rfl rfl (by simp [errorsOf, Run.breakOff, hne])

end Run

end ChatCommands
