import ChatCommands.Proofs.Dispatch.History

/-! # One outcome for each message

A message is refused by the first stage at which it fails, with the cooldowns as they were, or has
its handler entered once, behind a fresh cooldown, and whatever that handler does settles its one
outcome. Only where that cooldown would end past the horizon, the dispatch breaks off and there is
no outcome.
-/

namespace ChatCommands

/-- The outcome that a message with the fate comes to. -/
def Fate.outcome? : Fate → Option (Outcome Handler)
  | unsent | broken _ => none
  | settled outcome => some outcome
  | called call => some call.outcome

namespace Run

variable {d : Dispatcher Handler} {r s : Run} {i : Nat} {m : Message} {fate : Fate}
  {o : Outcome Handler}

theorem outcome?_eq_head? (r : Run) (i : Nat) : r.outcome? i = (r.outcomesOf i).head? := by
  simp [Run.outcome?, outcomesOf, results, List.filter_map, List.head?_filter, Function.comp_def]

theorem isOver_eq_false_iff :
    r.isOver i = false ↔ r.outcomesOf i = [] ∧ r.errorsOf i = [] := by
  simp only [isOver, outcome?_eq_head?, Bool.or_eq_false_iff, Option.isSome_eq_false_iff,
    Option.isNone_iff_eq_none, List.head?_eq_none_iff, errorsOf, List.map_eq_nil_iff,
    List.filter_eq_nil_iff, List.any_eq_false]

theorem Stands.errorsOf_eq_nil (h : r.Stands i fate) (ho : fate.outcome? = some o) :
    r.errorsOf i = [] := by
  cases h with
  | unsent h | broken h => cases ho
  | settled h | waiting h | running h | ended h => exact h.errors

theorem Stands.outcomesOf_cases (h : r.Stands i fate) (ho : fate.outcome? = some o) :
    r.outcomesOf i = [] ∨ r.outcomesOf i = [o] := by
  cases h with
  | unsent h | broken h => cases ho
  | settled h =>
    cases ho
    exact Or.inr h.outcomes
  | waiting h | running h => exact Or.inl h.outcomes
  | ended h =>
    cases ho
    exact Or.inr h.outcomes

/-- A message that is not on its way any more has come to its outcome. -/
theorem Stands.outcomesOf_of_rest (h : r.Stands i fate) (ho : fate.outcome? = some o)
    (hw : r.waiting = []) (hr : r.running = []) : r.outcomesOf i = [o] := by
  cases h with
  | unsent h | broken h => cases ho
  | settled h =>
    cases ho
    exact h.outcomes
  | waiting h =>
    have hperm := h.waiting
    rw [hw] at hperm
    exact absurd hperm.symm (by simp [ofMessage])
  | running h =>
    have hperm := h.running
    rw [hr] at hperm
    exact absurd hperm.symm (by simp [ofMessage])
  | ended h =>
    cases ho
    exact h.outcomes

theorem Stands.exists_outcome (hr : r.Sound) (h : r.Stands i fate) (ho : fate.outcome? = some o) :
    ∃ least, ∀ nanos, least ≤ nanos → (r.advance (r.clock + nanos)).outcomesOf i = [o] := by
  obtain ⟨moment, hrest⟩ := hr.exists_rest
  refine ⟨moment, fun nanos hnanos => ?_⟩
  obtain ⟨hw, hrun⟩ := hrest (r.clock + nanos) (by omega)
  exact (h.leads (hr.advance _)).outcomesOf_of_rest ho hw hrun

theorem Stands.outcomesOf_await (hr : r.Sound) (h : r.Stands i fate)
    (ho : fate.outcome? = some o) : (r.await i).outcomesOf i = [o] := by
  fun_induction Run.await i r with
  | case1 r hover =>
    rcases h.outcomesOf_cases ho with hnone | hone
    · have hgoing := isOver_eq_false_iff.mpr ⟨hnone, h.errorsOf_eq_nil ho⟩
      cases hover.symm.trans hgoing
    · exact hone
  | case2 r _ hnext =>
    obtain ⟨hw, hrun⟩ := hr.rests hnext
    exact h.outcomesOf_of_rest ho hw hrun
  | case3 r _ s hs ih =>
    have hnext := hr.next? hs
    exact ih hnext.sound (h.leads hnext)

theorem Stands.outcomesOf_leads (h : r.Stands i fate) (ho : fate.outcome? = some o)
    (hl : r.Leads s) (hone : r.outcomesOf i = [o]) : s.outcomesOf i = [o] := by
  rcases (h.leads hl).outcomesOf_cases ho with hnone | hkept
  · have hsub := ((hl.results_prefix.sublist.filter (·.1 == i)).map Prod.snd).subset
    change r.outcomesOf i ⊆ s.outcomesOf i at hsub
    rw [hone, hnone] at hsub
    simp at hsub
  · exact hkept

/-- What a state shows of a message that comes to the outcome, sooner or later. -/
structure Shows (s : Run) (d : Dispatcher Handler) (i : Nat) (m : Message)
    (o : Outcome Handler) : Prop where
  /-- No other outcome, and no outcome twice. -/
  outcomes : s.outcomesOf i = [] ∨ s.outcomesOf i = [o]
  /-- No handler but that of the resolved command, and that not twice. -/
  calls : s.callsOf i = [] ∨ ∃ call fit, s.callsOf i = [call] ∧ d.fit? m = some fit ∧
    call.command = fit.command
  /-- Only an outcome that tells how the handler ended is to come once it was entered. -/
  ofHandler : s.callsOf i ≠ [] → o.ofHandler = true
  /-- Such an outcome is not there before the handler was entered. -/
  entered : s.outcomesOf i ≠ [] → o.ofHandler = true → s.callsOf i ≠ []
  /-- The dispatch has not broken off. -/
  errors : s.errorsOf i = []

theorem Stands.shows_settled (h : s.Stands i (.settled o)) (ho : o.ofHandler = false) :
    s.Shows d i m o := by
  cases h with
  | settled h =>
    refine ⟨Or.inr h.outcomes, Or.inl h.entered, fun hne => absurd h.entered hne, ?_, h.errors⟩
    intro _ hof
    rw [ho] at hof
    cases hof

theorem Stands.shows_called {call : Call} {fit : Fit Handler} (h : s.Stands i (.called call))
    (hfit : d.fit? m = some fit) (hcommand : call.command = fit.command) :
    s.Shows d i m call.outcome := by
  refine ⟨h.outcomesOf_cases rfl, ?_, fun _ => call.ofHandler_outcome, ?_, h.errorsOf_eq_nil rfl⟩
  · cases h with
    | waiting h => exact Or.inl h.entered
    | running h | ended h => exact Or.inr ⟨call, fit, h.entered, hfit, hcommand⟩
  · intro hne _
    cases h with
    | waiting h | running h => exact absurd h.outcomes hne
    | ended h => simp [h.entered]

theorem history_message (d : Dispatcher Handler) (before later : List Act) (m : Message)
    (mode : Mode) : history d (before ++ .message m mode :: later) =
      ((history d before).perform d before.length (.message m mode)).follow d (before.length + 1)
        later := by
  rw [history_append, Run.follow]

theorem history_pass (d : Dispatcher Handler) (acts : List Act) (nanos : Nat) :
    history d (acts ++ [.pass nanos]) =
      (history d acts).advance ((history d acts).clock + nanos) := by
  rw [history_append, Run.follow, Run.perform, Run.follow]

variable {before : List Act}

/-- The fate that a message has from its dispatch on is never changed. -/
theorem stands_after
    (h : ((history d before).dispatch d before.length m).Stands before.length fate) (mode : Mode)
    (later : List Act) :
    (history d (before ++ .message m mode :: later)).Stands before.length fate := by
  have hr := sound_history d before
  rw [history_message]
  refine Stands.follow (hr.perform d _ _) ?_ (Or.inl (Nat.lt_succ_self _)) d
  exact h.leads (hr.leads_perform d before.length m mode)

theorem exists_outcome_after
    (h : ((history d before).dispatch d before.length m).Stands before.length fate)
    (ho : fate.outcome? = some o) (mode : Mode) (later : List Act) :
    ∃ least, ∀ nanos, least ≤ nanos →
      (history d (before ++ .message m mode :: later ++ [.pass nanos])).outcomesOf before.length =
        [o] := by
  obtain ⟨least, hleast⟩ := (stands_after h mode later).exists_outcome (sound_history d _) ho
  refine ⟨least, fun nanos hnanos => ?_⟩
  rw [history_pass]
  exact hleast nanos hnanos

theorem outcomesOf_awaited
    (h : ((history d before).dispatch d before.length m).Stands before.length fate)
    (ho : fate.outcome? = some o) :
    (history d (before ++ [.message m .awaited])).outcomesOf before.length = [o] := by
  have hr := (sound_history d before).dispatch d before.length m
  have hawaited := hr.await before.length
  rw [history_message]
  exact (h.leads hawaited).outcomesOf_leads ho (hawaited.sound.advance _) (h.outcomesOf_await hr ho)

theorem cooldowns_sent (d : Dispatcher Handler) (before : List Act) (m : Message) (mode : Mode) :
    (history d (before ++ [.message m mode])).cooldowns =
      ((history d before).dispatch d before.length m).cooldowns := by
  rw [history_message]
  exact ((sound_history d before).leads_perform d before.length m mode).cooldowns

/-- A message whose dispatch breaks off has no other fate, whatever is done before and after it. -/
theorem Breaks.stands_after (h : Breaks d (history d before) m) (mode : Mode) (later : List Act) :
    (history d (before ++ .message m mode :: later)).Stands before.length
      (.broken .pastHorizon) := by
  refine Run.stands_after ?_ mode later
  rcases (history d before).dispatch_cases d before.length m with
    ⟨o, hfail, -⟩ | ⟨-, kept, hdispatch, -⟩ | ⟨hgoes, -⟩
  · cases h.1.symm.trans hfail
  · rw [hdispatch]
    exact ((stands_history d before).setCooldowns kept).breakOff .pastHorizon
  · exact absurd h hgoes

/-- Windows that look the same from some moment on leave the same time to everyone who asks then. -/
theorem remaining_congr {table kept : CooldownTable} {now : Nat}
    (h : ∀ later key, now ≤ later → kept.left? later key = table.left? later key) {moment : Nat}
    (hle : now ≤ moment) (key : CooldownKey) :
    (kept.remaining moment key).1 = (table.remaining moment key).1 := by
  rw [CooldownTable.fst_remaining, CooldownTable.fst_remaining, h moment key hle]

/-- Each message comes to exactly one outcome, whatever is done before and after it, unless its
dispatch breaks off. A handler is entered for it at most once, and exactly when the outcome tells
how the handler ended. Any other outcome is that of the first stage at which the message fails, and
leaves all cooldowns as they were. A message that has its handler entered changes the cooldown of
its command alone, and does so before its call is handed over. A message whose dispatch breaks off
comes to no outcome, enters no handler and leaves all cooldowns as they were. Handlers are functions
of their invocations here, so that what one does and how long it takes is settled at dispatch. -/
theorem messages_come_to_one_outcome_or_break_off (d : Dispatcher Handler) (before : List Act)
    (m : Message) (mode : Mode) :
    (¬Breaks d (history d before) m → ∃ o,
      (∀ later, (history d (before ++ .message m mode :: later)).Shows d before.length m o) ∧
      (∀ later, ∃ least, ∀ nanos, least ≤ nanos →
        (history d (before ++ .message m mode :: later ++ [.pass nanos])).outcomesOf
          before.length = [o]) ∧
      (mode = .awaited →
        (history d (before ++ [.message m mode])).outcomesOf before.length = [o]) ∧
      (o.ofHandler = false →
        d.firstFailure? (history d before).clock (history d before).cooldowns m = some o ∧
        (history d (before ++ [.message m mode])).outcomesOf before.length = [o] ∧
        ∀ moment key,
          ((history d (before ++ [.message m mode])).cooldowns.remaining moment key).1 =
            ((history d before).cooldowns.remaining moment key).1) ∧
      (o.ofHandler = true →
        d.firstFailure? (history d before).clock (history d before).cooldowns m = none ∧
        ∃ fit duration call stamped, d.fit? m = some fit ∧
          call.message = before.length ∧ call.command = fit.command ∧ call.outcome = o ∧
          Dispatcher.Stamps fit.command m.context (history d before).clock
            (history d before).cooldowns stamped ∧
          (history d before).dispatch d before.length m =
            { history d before with cooldowns := stamped }.handOver d.execution duration call ∧
          (history d (before ++ [.message m mode])).cooldowns = stamped)) ∧
    (Breaks d (history d before) m →
      (∀ later,
        (history d (before ++ .message m mode :: later)).outcomesOf before.length = [] ∧
        (history d (before ++ .message m mode :: later)).callsOf before.length = [] ∧
        (history d (before ++ .message m mode :: later)).errorsOf before.length =
          [.pastHorizon]) ∧
      ∀ moment key, (history d before).clock ≤ moment →
        ((history d (before ++ [.message m mode])).cooldowns.remaining moment key).1 =
          ((history d before).cooldowns.remaining moment key).1) := by
  have hr := sound_history d before
  have hunsent := stands_history d before
  have hcooldowns := cooldowns_sent d before m mode
  rcases (history d before).dispatch_cases d before.length m with
    ⟨o, hfail, hdispatch⟩ | ⟨hbreaks, kept, hdispatch, hkept⟩ |
    ⟨hgoes, hnone, fit, duration, call, stamped, hfit, hmessage, hcommand, hstamps, hdispatch⟩
  · have hof : o.ofHandler = false := by
      obtain ⟨stage, -, hstage⟩ := List.exists_of_findSome?_eq_some hfail
      exact Dispatcher.ofHandler_of_failure? hstage
    have hfate := hunsent.settleOutcome o
    rw [← hdispatch] at hfate
    constructor
    case right =>
      rintro ⟨hnone, -⟩
      cases hnone.symm.trans hfail
    refine fun _ => ⟨o, ?_, exists_outcome_after hfate rfl mode, ?_, ?_, ?_⟩
    · intro later
      exact (stands_after hfate mode later).shows_settled hof
    · rintro rfl
      exact outcomesOf_awaited hfate rfl
    · intro _
      refine ⟨hfail, ?_, ?_⟩
      · cases stands_after hfate mode [] with
        | settled h => exact h.outcomes
      · intro moment key
        rw [hcooldowns, hdispatch]
        rfl
    · intro htrue
      rw [hof] at htrue
      cases htrue
  · refine ⟨absurd hbreaks, fun _ => ⟨fun later => ?_, fun moment key hle => ?_⟩⟩
    · cases hbreaks.stands_after mode later with
      | broken h => exact ⟨h.outcomes, h.entered, h.errors⟩
    · rw [hcooldowns, hdispatch]
      exact remaining_congr hkept hle key
  · have hfate := hunsent.setCooldowns stamped
    rw [← hmessage] at hfate
    replace hfate := hfate.handOver (hr.setCooldowns stamped) d.execution duration
    rw [← hdispatch, hmessage] at hfate
    refine ⟨fun _ => ⟨call.outcome, ?_, exists_outcome_after hfate rfl mode, ?_, ?_, ?_⟩,
      fun hbreaks => absurd hbreaks hgoes⟩
    · intro later
      exact (stands_after hfate mode later).shows_called hfit hcommand
    · rintro rfl
      exact outcomesOf_awaited hfate rfl
    · intro hfalse
      rw [call.ofHandler_outcome] at hfalse
      cases hfalse
    · intro _
      refine ⟨hnone, fit, duration, call, stamped, hfit, hmessage, hcommand, rfl, hstamps,
        hdispatch, ?_⟩
      rw [hcooldowns, hdispatch, cooldowns_handOver]

/-- A command that may never be run again. -/
def onceOnly : Definition Handler where
  trigger := "hi"
  handler? := some fun _ => ⟨0, .done⟩
  cooldown? := some ⟨.longest, .global⟩

def onceGreeter : Dispatcher Handler where
  catalog := ((({} : Catalog Handler).define onceOnly).toOption).getD {}
  conversions := .none
  leadIns := { optionalInPrivate := true }
  developers := []
  execution := .inline
  permissions := .lenient

/-- A message may come to no outcome, even if it is waited for and whatever is done later. -/
theorem message_may_have_no_outcome : ¬∃ later o,
    o ∈ (history onceGreeter (.message ⟨"hi", {}⟩ .awaited :: later)).outcomesOf 0 := by
  rintro ⟨later, o, ho⟩
  have hbroken : ((onceGreeter.decide 0 [] ⟨"hi", {}⟩).1 matches .broken .pastHorizon) = true := by
    decide +kernel
  have hbreaks : Breaks onceGreeter (history onceGreeter []) ⟨"hi", {}⟩ := by
    rw [breaks_iff]
    change (onceGreeter.decide 0 [] ⟨"hi", {}⟩).1 = _
    cases hdecide : (onceGreeter.decide 0 [] ⟨"hi", {}⟩).1 with
    | broken error =>
      cases error
      rfl
    | settled outcome | run c invocation =>
      rw [hdecide] at hbroken
      cases hbroken
  cases hbreaks.stands_after .awaited later with
  | broken h =>
    have hnone : (history onceGreeter (.message ⟨"hi", {}⟩ .awaited :: later)).outcomesOf 0 = [] :=
      h.outcomes
    rw [hnone] at ho
    cases ho

end Run

end ChatCommands
