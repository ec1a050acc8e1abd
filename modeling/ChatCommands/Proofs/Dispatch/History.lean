import ChatCommands.Proofs.Dispatch.Fates

/-! # Histories of a dispatcher

Messages may be dispatched one upon the other or be waited for, and time may pass between them.
Whatever else happens, each message comes to one outcome, which its first failing stage or its
handler settles, unless its dispatch breaks off.
-/

namespace ChatCommands

open Relation
open scoped List

variable {H : Type}

/-- The outcome tells how the handler of the command ended. -/
def Outcome.ofHandler : Outcome H → Bool
  | failed _ | cancelled _ | success _ => true
  | _ => false

theorem Call.ofHandler_outcome (call : Call) : call.outcome.ofHandler = true := by
  rw [Call.outcome]
  cases call.ending <;> rfl

namespace Dispatcher

/-- No stage fails with an outcome that a handler would settle. -/
theorem ofHandler_of_failure? {d : Dispatcher H} {now : Nat} {cooldowns : CooldownTable}
    {m : Message} {stage : Stage} {o : Outcome H}
    (h : d.failure? now cooldowns m stage = some o) : o.ofHandler = false := by
  cases stage with
  | leadIn =>
    simp only [failure?] at h
    split at h <;> cases h
    rfl
  | resolution =>
    obtain ⟨resolution, -, h⟩ := Option.bind_eq_some_iff.mp h
    cases resolution <;> cases h <;> rfl
  | location | botAuthor | developer | callerPermissions | agentPermissions =>
    obtain ⟨fit, -, h⟩ := Option.bind_eq_some_iff.mp h
    split at h <;> cases h
    rfl
  | cooldown =>
    obtain ⟨fit, -, h⟩ := Option.bind_eq_some_iff.mp h
    obtain ⟨cooldown, -, h⟩ := Option.bind_eq_some_iff.mp h
    split at h
    · cases h
    · obtain ⟨left, -, rfl⟩ := Option.map_eq_some_iff.mp h
      rfl

/-- All cooldowns but that of the command stay as they are, and that one is open from now on,
unless it takes no time. -/
structure Stamps (c : Command H) (ctx : Context) (now : Nat) (table stamped : CooldownTable) :
    Prop where
  others : ∀ moment key, (∀ cooldown, c.cooldown? = some cooldown → key ≠ cooldown.key c.id ctx) →
    (stamped.remaining moment key).1 = (table.remaining moment key).1
  own : ∀ cooldown, c.cooldown? = some cooldown → cooldown.duration.nanos ≠ 0 →
    stamped.lookup (cooldown.key c.id ctx) = some (now + cooldown.duration.nanos)

theorem stamps_of_lookup {c : Command H} {ctx : Context} {now : Nat}
    {table stamped : CooldownTable}
    (h : ∀ key, stamped.lookup key =
      match window? c ctx now with
      | none => table.lookup key
      | some (own, expiry) => if key = own then some expiry else table.lookup key) :
    Stamps c ctx now table stamped := by
  constructor
  · intro moment key hne
    have hlookup : stamped.lookup key = table.lookup key := by
      rw [h, window?]
      cases hc : c.cooldown? with
      | none => rfl
      | some cooldown =>
        rw [Option.bind_some]
        split
        · rfl
        · rename_i heq
          split at heq
          · cases heq
          · cases heq
            rw [if_neg (hne cooldown hc)]
    rw [CooldownTable.fst_remaining, CooldownTable.fst_remaining, CooldownTable.left?,
      CooldownTable.left?, hlookup]
  · intro cooldown hc hz
    rw [h, window?, hc, Option.bind_some, if_neg hz]
    exact if_pos rfl

end Dispatcher

/-- What the sender of a message waits for before anything else is done. -/
inductive Mode
  /-- Nothing. -/
  | posted
  /-- What can be done without time passing. -/
  | background
  /-- The outcome. -/
  | awaited
  deriving DecidableEq, Repr

/-- What may be done with a dispatcher at work. -/
inductive Act
  | message (m : Message) (mode : Mode)
  | pass (nanos : Nat)
  | remaining (command : CommandId) (cooldown : Cooldown) (ctx : Context)
  /-- A window is closed early, by someone or because the table forgets what it has no room for. -/
  | reset (command : CommandId) (cooldown : Cooldown) (ctx : Context)

namespace Run

variable {d : Dispatcher Handler} {r : Run} {i j : Nat} {m : Message}

/-- Does something as number `i`, which is also the number of the message if there is one. -/
def perform (d : Dispatcher Handler) (i : Nat) (act : Act) (r : Run) : Run :=
  match act with
  | .message m .posted => r.dispatch d i m
  | .message m .background => r.send d i m
  | .message m .awaited => r.sendAndAwait d i m
  | .pass nanos => r.advance (r.clock + nanos)
  | .remaining command cooldown ctx => (r.remaining command cooldown ctx).2
  | .reset command cooldown ctx => r.resetCooldown command cooldown ctx

/-- Does one thing after the other, with numbers from `i` on. -/
def follow (d : Dispatcher Handler) (i : Nat) (acts : List Act) (r : Run) : Run :=
  match acts with
  | [] => r
  | act :: acts => (r.perform d i act).follow d (i + 1) acts

/-- The state after all that was done from the start. -/
def history (d : Dispatcher Handler) (acts : List Act) : Run :=
  follow d 0 acts {}

/-- The dispatch of a message breaks off: it fails at no stage, but the window of its command would
close past the horizon. -/
def Breaks (d : Dispatcher Handler) (r : Run) (m : Message) : Prop :=
  d.firstFailure? r.clock r.cooldowns m = none ∧
    ∃ fit, d.fit? m = some fit ∧ Dispatcher.Overruns fit.command r.clock

/-- A dispatch settles the outcome of the first failing stage and nothing else, or breaks off with
all windows as they are, or hands a call over, behind the cooldown of its command. -/
theorem dispatch_cases (d : Dispatcher Handler) (i : Nat) (m : Message) (r : Run) :
    (∃ o, d.firstFailure? r.clock r.cooldowns m = some o ∧
      r.dispatch d i m = r.settleOutcome i o) ∨
    (Breaks d r m ∧ ∃ kept,
      r.dispatch d i m = { r with cooldowns := kept }.breakOff i .pastHorizon ∧
      ∀ later key, r.clock ≤ later → kept.left? later key = r.cooldowns.left? later key) ∨
    (¬Breaks d r m ∧ d.firstFailure? r.clock r.cooldowns m = none ∧ ∃ fit duration call opened,
      d.fit? m = some fit ∧ call.message = i ∧ call.command = fit.command ∧
      Dispatcher.Stamps fit.command m.context r.clock r.cooldowns opened ∧
      r.dispatch d i m = { r with cooldowns := opened }.handOver d.execution duration call) := by
  cases hfail : d.firstFailure? r.clock r.cooldowns m with
  | some o =>
    refine Or.inl ⟨o, rfl, ?_⟩
    rw [dispatch, Dispatcher.decide_of_failure hfail]
  | none =>
    right
    obtain ⟨leadIn, rest, fit, -, hfit, ⟨hpast, kept, hdecide, hkept⟩ |
      ⟨hin, opened, hdecide, hlookup⟩⟩ := Dispatcher.decide_of_no_failure hfail
    · left
      refine ⟨⟨hfail, fit, hfit, hpast⟩, kept, ?_, hkept⟩
      rw [dispatch, hdecide]
    · right
      have hgoes : ¬Breaks d r m := by
        rintro ⟨-, other, hother, hpast⟩
        cases hfit.symm.trans hother
        exact hin hpast
      obtain ⟨invocation, hdecide⟩ : ∃ invocation,
          d.decide r.clock r.cooldowns m = (.run fit.command invocation, opened) := ⟨_, hdecide⟩
      obtain ⟨handler, hhandler⟩ :=
        Option.isSome_iff_exists.mp (Dispatcher.isInvocable_of_fit? hfit)
      refine ⟨hgoes, rfl, fit, (handler invocation).duration,
        ⟨i, fit.command, invocation, (handler invocation).ending⟩, opened, hfit, rfl, rfl,
        Dispatcher.stamps_of_lookup hlookup, ?_⟩
      rw [dispatch, hdecide]
      simp only [hhandler]
      cases d.execution <;> rfl

/-- It breaks off just where nothing is decided about the message. -/
theorem breaks_iff : Breaks d r m ↔
    (d.decide r.clock r.cooldowns m).1 = .broken .pastHorizon := by
  cases hfail : d.firstFailure? r.clock r.cooldowns m with
  | some o =>
    rw [Dispatcher.decide_of_failure hfail]
    constructor
    · rintro ⟨hnone, -⟩
      cases hnone.symm.trans hfail
    · intro hbroken
      cases hbroken
  | none =>
    obtain ⟨_, _, fit, -, hfit, ⟨hpast, _, hdecide, -⟩ | ⟨hin, _, hdecide, -⟩⟩ :=
      Dispatcher.decide_of_no_failure hfail
    · rw [hdecide]
      exact iff_of_true ⟨hfail, fit, hfit, hpast⟩ rfl
    · rw [hdecide]
      constructor
      · rintro ⟨-, other, hother, hpast⟩
        cases hfit.symm.trans hother
        exact absurd hpast hin
      · intro hbroken
        cases hbroken

theorem Sound.setCooldowns (hr : r.Sound) (table : CooldownTable) :
    Sound { r with cooldowns := table } :=
  ⟨hr.served, hr.received⟩

theorem Stands.setCooldowns {fate : Fate} (h : r.Stands i fate) (table : CooldownTable) :
    Stands { r with cooldowns := table } i fate :=
  h.congr (List.Perm.refl _) (List.Perm.refl _) rfl rfl rfl

theorem Sound.dispatch (hr : r.Sound) (d : Dispatcher Handler) (i : Nat) (m : Message) :
    (r.dispatch d i m).Sound := by
  rcases r.dispatch_cases d i m with
    ⟨o, -, hdispatch⟩ | ⟨-, kept, hdispatch, -⟩ |
    ⟨-, -, fit, duration, call, opened, -, -, -, -, hdispatch⟩
  · rw [hdispatch]
    exact ⟨hr.served, hr.received⟩
  · rw [hdispatch]
    exact ⟨hr.served, hr.received⟩
  · rw [hdispatch]
    exact (hr.setCooldowns opened).handOver _ _ _

/-- A dispatch does nothing about other messages. -/
theorem Stands.dispatch_of_ne {fate : Fate} (hr : r.Sound) (h : r.Stands j fate) (hne : i ≠ j)
    (d : Dispatcher Handler) (m : Message) : (r.dispatch d i m).Stands j fate := by
  rcases r.dispatch_cases d i m with
    ⟨o, -, hdispatch⟩ | ⟨-, kept, hdispatch, -⟩ |
    ⟨-, -, fit, duration, call, opened, -, rfl, -, -, hdispatch⟩
  · rw [hdispatch]
    exact h.settleOutcome_of_ne hne o
  · rw [hdispatch]
    exact (h.setCooldowns kept).breakOff_of_ne hne _
  · rw [hdispatch]
    exact (h.setCooldowns opened).handOver_of_ne (hr.setCooldowns opened) hne _ _

/-- Once a message was dispatched, only steps follow until its sender goes on. -/
theorem Sound.leads_perform (hr : r.Sound) (d : Dispatcher Handler) (i : Nat) (m : Message)
    (mode : Mode) : (r.dispatch d i m).Leads (r.perform d i (.message m mode)) := by
  have hsent := hr.dispatch d i m
  cases mode with
  | posted => exact hsent.refl
  | background => exact hsent.advance _
  | awaited =>
    have hawaited := hsent.await i
    exact hawaited.trans (hawaited.sound.advance _)

theorem Sound.perform (hr : r.Sound) (d : Dispatcher Handler) (i : Nat) (act : Act) :
    (r.perform d i act).Sound := by
  cases act with
  | message m mode => exact (hr.leads_perform d i m mode).sound
  | pass nanos => exact (hr.advance _).sound
  | remaining command cooldown ctx => exact hr.setCooldowns _
  | reset command cooldown ctx => exact hr.setCooldowns _

theorem Stands.perform_of_ne {fate : Fate} (hr : r.Sound) (h : r.Stands j fate) (hne : i ≠ j)
    (d : Dispatcher Handler) (act : Act) : (r.perform d i act).Stands j fate := by
  cases act with
  | message m mode => exact (h.dispatch_of_ne hr hne d m).leads (hr.leads_perform d i m mode)
  | pass nanos => exact h.leads (hr.advance _)
  | remaining command cooldown ctx => exact h.setCooldowns _
  | reset command cooldown ctx => exact h.setCooldowns _

theorem Sound.follow (hr : r.Sound) (d : Dispatcher Handler) (i : Nat) (acts : List Act) :
    (r.follow d i acts).Sound := by
  induction acts generalizing i r with
  | nil => exact hr
  | cons act acts ih => exact ih (hr.perform d i act) (i + 1)

/-- Nothing that is done changes the fate of a message with another number. -/
theorem Stands.follow {fate : Fate} {acts : List Act} (hr : r.Sound) (h : r.Stands j fate)
    (hj : j < i ∨ i + acts.length ≤ j) (d : Dispatcher Handler) :
    (r.follow d i acts).Stands j fate := by
  induction acts generalizing i r with
  | nil => exact h
  | cons act acts ih =>
    rw [List.length_cons] at hj
    exact ih (hr.perform d i act) (h.perform_of_ne hr (by omega) d act) (by omega)

theorem follow_append (d : Dispatcher Handler) (i : Nat) (acts later : List Act) (r : Run) :
    r.follow d i (acts ++ later) = (r.follow d i acts).follow d (i + acts.length) later := by
  induction acts generalizing i r with
  | nil => rfl
  | cons act acts ih =>
    rw [List.cons_append, Run.follow, ih, Run.follow, List.length_cons, Nat.add_right_comm,
      Nat.add_assoc]

theorem sound_start : Sound {} :=
  ⟨List.Perm.refl _, fun job hjob => by cases hjob⟩

theorem sound_history (d : Dispatcher Handler) (acts : List Act) : (history d acts).Sound :=
  sound_start.follow d 0 acts

theorem stands_history (d : Dispatcher Handler) (acts : List Act) :
    (history d acts).Stands acts.length .unsent := by
  refine Stands.follow sound_start ?_ (Or.inr (Nat.le_of_eq (Nat.zero_add _))) d
  exact .unsent ⟨List.Perm.refl _, List.Perm.refl _, rfl, rfl, rfl⟩

theorem history_append (d : Dispatcher Handler) (acts later : List Act) :
    history d (acts ++ later) = (history d acts).follow d acts.length later := by
  rw [history, follow_append, Nat.zero_add, history]

end Run

end ChatCommands
