import Mathlib.Data.List.Basic
import Mathlib.Data.Nat.Basic
import Mathlib.Order.Basic
import ChatCommands.Proofs.Dispatch.Fates

/-! # Scheduled calls beside inline ones

A dispatcher that schedules its handlers goes through more steps than one that runs them inline:
workers come up, start their calls and look for others. As long as no call has to wait in a lane
for another one, each of these steps is a step of the inline run as well, or is not seen.
-/

namespace ChatCommands

/-! ## Two dispatchers side by side -/

/-- The end of the call that a worker has at hand, if it starts now at the latest. -/
def Worker.finish? (clock : Nat) (w : Worker Call) : Option (Nat × Call) :=
  match w.stage with
  | .holding job => some (clock + job.duration, job.task)
  | .running job ends => some (ends, job.task)
  | .between => none

/-- The entry of the call that a worker is about to start. -/
def Worker.entry? (clock : Nat) (w : Worker Call) : Option (Nat × Call) :=
  w.held?.map fun job => (clock, job.task)

namespace Run

/-- The first state, of a dispatcher that runs handlers inline, is that of the second one, which
schedules them, up to calls that are about to start. -/
structure Mirrors (r s : Run) : Prop where
  clock : s.clock = r.clock
  cooldowns : s.cooldowns = r.cooldowns
  outcomes : s.outcomes = r.outcomes
  broken : s.broken = r.broken
  calls : r.calls = s.calls ++ s.lanes.workers.filterMap (Worker.entry? s.clock)
  inline : r.inline = s.lanes.workers.filterMap (Worker.finish? s.clock)
  noLanes : r.lanes = {}
  noInline : s.inline = []
  /-- No call waits for another one. -/
  free : ∀ entry ∈ s.lanes.queues, entry.2 = []
  ahead : ∀ w ∈ s.lanes.workers, s.clock ≤ w.due s.clock

/-- Every worker has started its call. -/
def Busy (s : Run) : Prop :=
  ∀ w ∈ s.lanes.workers, ∃ job ends, w.stage = .running job ends

variable {r s s' : Run}

theorem Mirrors.next?_inline (h : r.Mirrors s) : r.next? = r.nextInline? := by
  have hnone : r.nextLane? = none := by simp [nextLane?, h.noLanes, earliest?]
  unfold next?
  rw [hnone]
  cases r.nextInline? <;> rfl

theorem Mirrors.next?_scheduled (h : r.Mirrors s) : s.next? = s.nextLane? := by
  have hnone : s.nextInline? = none := by simp [nextInline?, h.noInline, earliest?]
  unfold next?
  rw [hnone]

theorem Mirrors.rests (h : r.Mirrors s) (hs : s.next? = none) :
    s.lanes.workers = [] ∧ r.next? = none := by
  rw [h.next?_scheduled, nextLane?, Option.map_eq_none_iff] at hs
  have hworkers := eq_nil_of_earliest? hs
  have hinline := h.inline
  rw [hworkers] at hinline
  refine ⟨hworkers, ?_⟩
  rw [h.next?_inline, nextInline?, hinline]
  rfl

theorem entry?_eq_none_of_lt {clock : Nat} {w : Worker Call} (h : clock < w.due clock) :
    w.entry? clock = none := by
  obtain ⟨lane?, stage⟩ := w
  cases stage with
  | holding job | between => exact absurd h (Nat.lt_irrefl _)
  | running job ends => rfl

/-- No call has started before the first worker that is about to start one. -/
theorem filterMap_entry?_eq_nil {clock : Nat} {workers : List (Worker Call)}
    (h : ∀ w ∈ workers, clock < w.due clock) : workers.filterMap (Worker.entry? clock) = [] :=
  List.filterMap_eq_nil_iff.mpr fun w hw => entry?_eq_none_of_lt (h w hw)

variable {queues : List (String × List (Job Call))} {before after : List (Worker Call)}
  {w : Worker Call} {lane? : Option String} {job : Job Call}

/-- A call that starts was entered inline when it was dispatched, which is now. -/
theorem Mirrors.starts (h : r.Mirrors s)
    (hw : s.lanes.workers = before ++ ⟨lane?, .holding job⟩ :: after)
    (hbefore : ∀ a ∈ before, s.clock < a.due s.clock) :
    r.Mirrors { s with
      lanes := ⟨s.lanes.queues, before ++ ⟨lane?, .running job (s.clock + job.duration)⟩ :: after⟩
      calls := s.calls ++ [(s.clock, job.task)] } where
  clock := h.clock
  cooldowns := h.cooldowns
  outcomes := h.outcomes
  broken := h.broken
  calls := by
    have hcalls := h.calls
    rw [hw, List.filterMap_append, filterMap_entry?_eq_nil hbefore] at hcalls
    rw [hcalls, List.filterMap_append, filterMap_entry?_eq_nil hbefore]
    simp [List.filterMap_cons, Worker.entry?, Worker.held?]
  inline := by
    rw [h.inline, hw]
    simp [Worker.finish?]
  noLanes := h.noLanes
  noInline := h.noInline
  free := h.free
  ahead := by
    have hahead := h.ahead
    rw [hw] at hahead
    simp only [List.forall_mem_append, List.forall_mem_cons] at hahead ⊢
    exact ⟨hahead.1, Nat.le_add_right _ _, hahead.2.2⟩

/-- A worker that has nothing more to do goes unseen. -/
theorem Mirrors.goes (h : r.Mirrors s) (hw : s.lanes.workers = before ++ ⟨lane?, .between⟩ :: after)
    {left : List (String × List (Job Call))} (hleft : ∀ entry ∈ left, entry.2 = []) :
    r.Mirrors { s with lanes := ⟨left, before ++ after⟩ } where
  clock := h.clock
  cooldowns := h.cooldowns
  outcomes := h.outcomes
  broken := h.broken
  calls := by
    rw [h.calls, hw]
    simp [List.filterMap_cons, Worker.entry?, Worker.held?]
  inline := by
    rw [h.inline, hw]
    simp [List.filterMap_cons, Worker.finish?]
  noLanes := h.noLanes
  noInline := h.noInline
  free := hleft
  ahead := by
    have hahead := h.ahead
    rw [hw] at hahead
    simp only [List.forall_mem_append, List.forall_mem_cons] at hahead ⊢
    exact ⟨hahead.1, hahead.2.2⟩

/-- Whatever is due before the clock moves on is due at its old time. -/
theorem finish?_of_due_le {clock later : Nat} {w : Worker Call} (h : later ≤ w.due clock)
    (hclock : clock ≤ later) : w.finish? later = w.finish? clock ∧ w.entry? later = w.entry? clock ∧
      later ≤ w.due later := by
  obtain ⟨lane?, stage⟩ := w
  cases stage with
  | holding job | between =>
    obtain rfl : later = clock := Nat.le_antisymm h hclock
    exact ⟨rfl, rfl, Nat.le_refl _⟩
  | running job ends => exact ⟨rfl, rfl, h⟩

/-- As long as nothing is due, the clock can move on. -/
theorem Mirrors.wait (h : r.Mirrors s) {later : Nat} (hclock : s.clock ≤ later)
    (hdue : ∀ w ∈ s.lanes.workers, later ≤ w.due s.clock) :
    Mirrors { r with clock := later } { s with clock := later } where
  clock := rfl
  cooldowns := h.cooldowns
  outcomes := h.outcomes
  broken := h.broken
  calls := by
    rw [h.calls]
    refine congrArg (s.calls ++ ·) (List.filterMap_congr fun w hw => ?_)
    exact (finish?_of_due_le (hdue w hw) hclock).2.1.symm
  inline := by
    rw [h.inline]
    refine List.filterMap_congr fun w hw => ?_
    exact (finish?_of_due_le (hdue w hw) hclock).1.symm
  noLanes := h.noLanes
  noInline := h.noInline
  free := h.free
  ahead w hw := (finish?_of_due_le (hdue w hw) hclock).2.2

/-- A call that ends does so in both, and with the same outcome. -/
theorem Mirrors.ends (h : r.Mirrors s) {ends : Nat}
    (hw : s.lanes.workers = before ++ ⟨lane?, .running job ends⟩ :: after) :
    Mirrors { r with inline := before.filterMap (Worker.finish? s.clock) ++
        after.filterMap (Worker.finish? s.clock) }
      { s with lanes := ⟨s.lanes.queues, before ++ ⟨lane?, .between⟩ :: after⟩ } where
  clock := h.clock
  cooldowns := h.cooldowns
  outcomes := h.outcomes
  broken := h.broken
  calls := by
    rw [h.calls, hw]
    simp [List.filterMap_cons, Worker.entry?, Worker.held?]
  inline := by simp [List.filterMap_cons, Worker.finish?]
  noLanes := h.noLanes
  noInline := h.noInline
  free := h.free
  ahead := by
    have hahead := h.ahead
    rw [hw] at hahead
    simp only [List.forall_mem_append, List.forall_mem_cons] at hahead ⊢
    exact ⟨hahead.1, Nat.le_refl _, hahead.2.2⟩

theorem Mirrors.settle (h : r.Mirrors s) (message : Nat) (outcome : Outcome Handler) :
    (r.settleOutcome message outcome).Mirrors (s.settleOutcome message outcome) where
  clock := h.clock
  cooldowns := h.cooldowns
  outcomes := by rw [settleOutcome, settleOutcome, h.outcomes, h.clock]
  broken := h.broken
  calls := h.calls
  inline := h.inline
  noLanes := h.noLanes
  noInline := h.noInline
  free := h.free
  ahead := h.ahead

theorem Mirrors.breakOff (h : r.Mirrors s) (message : Nat) (error : TimerError) :
    (r.breakOff message error).Mirrors (s.breakOff message error) where
  clock := h.clock
  cooldowns := h.cooldowns
  outcomes := h.outcomes
  broken := by rw [Run.breakOff, Run.breakOff, h.broken, h.clock]
  calls := h.calls
  inline := h.inline
  noLanes := h.noLanes
  noInline := h.noInline
  free := h.free
  ahead := h.ahead

/-- Queues without jobs hold none for a worker that comes back. -/
theorem take_of_free (key : String) (h : ∀ entry ∈ queues, entry.2 = []) :
    (Lanes.take key queues).1 = none ∧ ∀ entry ∈ (Lanes.take key queues).2, entry.2 = [] := by
  induction queues with
  | nil => exact ⟨rfl, h⟩
  | cons entry queues ih =>
    obtain ⟨name, queue⟩ := entry
    obtain ⟨hqueue, hrest⟩ := List.forall_mem_cons.mp h
    obtain rfl : queue = [] := hqueue
    simp only [Lanes.take]
    split
    · exact ⟨rfl, hrest⟩
    · exact ⟨(ih hrest).1, List.forall_mem_cons.mpr ⟨rfl, (ih hrest).2⟩⟩

theorem step_between_of_free {lanes : Lanes Call} (h : ∀ entry ∈ lanes.queues, entry.2 = [])
    (now : Nat) (before after : List (Worker Call)) (lane? : Option String) :
    ∃ left, lanes.step now before ⟨lane?, .between⟩ after = (⟨left, before ++ after⟩, none) ∧
      ∀ entry ∈ left, entry.2 = [] := by
  cases lane? with
  | none => exact ⟨lanes.queues, rfl, h⟩
  | some key =>
    obtain ⟨hnone, hleft⟩ := take_of_free key h
    refine ⟨(Lanes.take key lanes.queues).2, ?_, hleft⟩
    simp only [Lanes.step]
    split
    · rename_i htake
      rw [htake] at hnone
      cases hnone
    · rename_i htake
      rw [htake]

theorem due_le_of_finish? {clock : Nat} {w : Worker Call} {entry : Nat × Call}
    (h : w.finish? clock = some entry) : w.due clock ≤ entry.1 := by
  obtain ⟨lane?, stage⟩ := w
  cases stage with
  | holding job =>
    cases h
    exact Nat.le_add_right _ _
  | running job ends =>
    cases h
    exact Nat.le_refl _
  | between => cases h

/-- The call of the worker that is due first is the one that ends first inline. -/
theorem Mirrors.nextInline? (h : r.Mirrors s) {ends : Nat} (hclock : s.clock ≤ ends)
    (hearliest : earliest? (·.due s.clock) s.lanes.workers =
      some (before, ⟨lane?, .running job ends⟩, after)) :
    r.nextInline? = some ({ r with
      clock := ends
      inline := before.filterMap (Worker.finish? ends) ++ after.filterMap (Worker.finish? ends)
      }.settleOutcome job.task.message job.task.outcome) := by
  obtain ⟨hbefore, hafter⟩ := earliest?_spec hearliest
  have hinline : r.inline = before.filterMap (Worker.finish? ends) ++
      (ends, job.task) :: after.filterMap (Worker.finish? ends) := by
    have hwait := (h.wait hclock (le_due_of_earliest? hearliest)).inline
    rw [eq_append_of_earliest? hearliest, List.filterMap_append] at hwait
    exact hwait
  -- Whatever is due at a moment ends then or later, on the old clock and on the new one.
  have hends : ∀ {a : Worker Call} {entry : Nat × Call}, ends ≤ a.due s.clock →
      a.finish? ends = some entry → a.due s.clock ≤ entry.1 := by
    intro a entry hdue hfinish
    rw [(finish?_of_due_le hdue hclock).1] at hfinish
    exact due_le_of_finish? hfinish
  have hfirst : earliest? (·.1) r.inline = some (before.filterMap (Worker.finish? ends),
      (ends, job.task), after.filterMap (Worker.finish? ends)) := by
    rw [hinline]
    refine earliest?_eq_some ?_ ?_ <;> intro entry hentry <;>
      obtain ⟨a, ha, hfinish⟩ := List.mem_filterMap.mp hentry
    · exact (hbefore a ha).trans_le (hends (hbefore a ha).le hfinish)
    · exact (hafter a ha).trans (hends (hafter a ha) hfinish)
  rw [Run.nextInline?, hfirst]
  rfl

/-- The next step of the scheduled run is not seen, or is one of the inline run as well. -/
theorem Mirrors.next (h : r.Mirrors s) (hsound : s.Sound) (hs : s.next? = some s') :
    (s'.clock = s.clock ∧ r.Mirrors s') ∨ ∃ r', r.next? = some r' ∧ r'.Mirrors s' := by
  rw [h.next?_scheduled, nextLane?] at hs
  obtain ⟨⟨before, w, after⟩, hearliest, rfl⟩ := Option.map_eq_some_iff.mp hs
  have hw := eq_append_of_earliest? hearliest
  obtain ⟨hbefore, hafter⟩ := earliest?_spec hearliest
  obtain ⟨lane?, stage⟩ := w
  cases stage with
  | holding job => exact Or.inl ⟨rfl, h.starts hw hbefore⟩
  | between =>
    obtain ⟨left, hstep, hleft⟩ := step_between_of_free h.free s.clock before after lane?
    have hgone := h.goes hw hleft
    refine Or.inl ⟨?_, ?_⟩
    · simp only [Worker.due, hstep, observe]
    · simpa only [Worker.due, hstep, observe] using hgone
  | running job ends =>
    have hmem : (⟨lane?, .running job ends⟩ : Worker Call) ∈ s.lanes.workers := by
      rw [hw]
      exact List.mem_append_cons_self
    have hreceipt : job.receipt? = some (.result job.task) := by
      refine hsound.received job (List.mem_append_right _ ?_)
      exact List.mem_filterMap.mpr ⟨_, hmem, rfl⟩
    have hclock := h.ahead _ hmem
    have hends := (h.wait hclock (le_due_of_earliest? hearliest)).ends hw
    refine Or.inr ⟨_, h.next?_inline.trans (h.nextInline? hclock hearliest), ?_⟩
    simpa only [Worker.due, Lanes.step, observe, Call.received, hreceipt]
      using hends.settle job.task.message job.task.outcome

/-- No worker is due before the next step. -/
theorem Mirrors.le_due (h : r.Mirrors s) (hs : s.next? = some s') :
    ∀ w ∈ s.lanes.workers, s'.clock ≤ w.due s.clock := by
  rw [h.next?_scheduled, nextLane?] at hs
  obtain ⟨⟨before, w, after⟩, hearliest, rfl⟩ := Option.map_eq_some_iff.mp hs
  have hclock : ∀ (t : Run) (event? : Option (LaneEvent Call)),
      (t.observe event?).clock = t.clock := by
    intro t event?
    match event? with
    | none | some (.started _) | some (.ended _ _) => rfl
  simpa only [hclock] using le_due_of_earliest? hearliest

/-- Time passes for both alike, and at its end no call is about to start. -/
theorem Mirrors.advance (h : r.Mirrors s) (hsound : s.Sound) {target : Nat}
    (htarget : s.clock ≤ target) :
    (r.advance target).Mirrors (s.advance target) ∧ (s.advance target).Busy := by
  fun_induction Run.advance target s generalizing r with
  | case1 s hs =>
    obtain ⟨hworkers, hr⟩ := h.rests hs
    rw [advance_of_rests hr]
    exact ⟨h.wait htarget (by simp [hworkers]), by simp [Busy, hworkers]⟩
  | case2 s s' hs hle ih =>
    have hsound' := (hsound.next? hs).sound
    rcases h.next hsound hs with ⟨-, hunseen⟩ | ⟨r', hr, hnext⟩
    · exact ih hunseen hsound' hle
    · rw [advance_of_next? hr, if_pos (hnext.clock ▸ hle)]
      exact ih hnext hsound' hle
  | case3 s s' hs hlater =>
    have hdue : ∀ w ∈ s.lanes.workers, target < w.due s.clock := fun w hw =>
      (Nat.lt_of_not_le hlater).trans_le (h.le_due hs w hw)
    rcases h.next hsound hs with ⟨hclock, -⟩ | ⟨r', hr, hnext⟩
    · exact absurd (hclock ▸ htarget) hlater
    · rw [advance_of_next? hr, if_neg (hnext.clock ▸ hlater)]
      refine ⟨h.wait htarget fun w hw => (hdue w hw).le, fun w hw => ?_⟩
      obtain ⟨job, hstage⟩ := Worker.running_of_lt_due (htarget.trans_lt (hdue w hw))
      exact ⟨job, _, hstage⟩

theorem Mirrors.isOver (h : r.Mirrors s) (message : Nat) :
    r.isOver message = s.isOver message := by
  rw [Run.isOver, Run.isOver, Run.outcome?, Run.outcome?, h.outcomes, h.broken]

/-- Whoever waits for an outcome waits in both for the same steps. -/
theorem Mirrors.await (h : r.Mirrors s) (hsound : s.Sound) (message : Nat) :
    (r.await message).Mirrors (s.await message) := by
  fun_induction Run.await message s generalizing r with
  | case1 s hover =>
    rw [await_of_isOver (by rwa [h.isOver])]
    exact h
  | case2 s _ hs =>
    rw [await_of_rests (h.rests hs).2]
    exact h
  | case3 s hgoing s' hs ih =>
    have hsound' := (hsound.next? hs).sound
    rcases h.next hsound hs with ⟨-, hunseen⟩ | ⟨r', hr, hnext⟩
    · exact ih hunseen hsound'
    · rw [await_of_next? (by rwa [h.isOver, ← Bool.not_eq_true]) hr]
      exact ih hnext hsound'

/-! ## Handing calls over -/

theorem Mirrors.setCooldowns (h : r.Mirrors s) (table : CooldownTable) :
    Mirrors { r with cooldowns := table } { s with cooldowns := table } where
  clock := h.clock
  cooldowns := rfl
  outcomes := h.outcomes
  broken := h.broken
  calls := h.calls
  inline := h.inline
  noLanes := h.noLanes
  noInline := h.noInline
  free := h.free
  ahead := h.ahead

/-- A job that has no key, or finds all lanes down, gets a worker of its own. -/
theorem submit_of_free {lanes : Lanes Call} (h : ∀ entry ∈ lanes.queues, entry.2 = [])
    {key? : Option String} (hkey : key? = none ∨ lanes.workers = []) (job : Job Call) :
    ∃ queues lane?, lanes.submit key? job =
      ⟨queues, lanes.workers ++ [⟨lane?, .holding job⟩]⟩ ∧ ∀ entry ∈ queues, entry.2 = [] := by
  cases key? with
  | none => exact ⟨lanes.queues, none, rfl, h⟩
  | some key =>
    rcases hkey with hkey | hworkers
    · cases hkey
    · refine ⟨lanes.queues.filter (·.1 != key) ++ [(key, [])], some key, ?_, ?_⟩
      · simp [Lanes.submit, Lanes.hasWorker, Lanes.openLane, hworkers]
      · intro entry hentry
        rcases List.mem_append.mp hentry with hentry | hentry
        · exact h entry (List.mem_of_mem_filter hentry)
        · rw [List.mem_singleton.mp hentry]

theorem Mirrors.handOver (h : r.Mirrors s) (duration : Nat) (call : Call)
    (hkey : call.command.orderingKey call.invocation = none ∨ s.lanes.workers = []) :
    (r.startInline duration call).Mirrors (s.schedule duration call) := by
  obtain ⟨queues, lane?, hsubmit, hfree⟩ :=
    submit_of_free h.free hkey { duration := duration, task := call }
  rw [schedule, hsubmit]
  exact {
    clock := h.clock
    cooldowns := h.cooldowns
    outcomes := h.outcomes
    broken := h.broken
    calls := by
      rw [startInline, h.calls]
      simp [Worker.entry?, Worker.held?, h.clock]
    inline := by
      rw [startInline, h.inline]
      simp [Worker.finish?, h.clock]
    noLanes := h.noLanes
    noInline := h.noInline
    free := hfree
    ahead := by
      simp only [List.forall_mem_append, List.forall_mem_singleton]
      exact ⟨h.ahead, Nat.le_refl _⟩ }

end Run

end ChatCommands
