import Mathlib.Logic.Relation
import ChatCommands.Dispatcher.Run
import ChatCommands.Proofs.Lanes.Earliest
import ChatCommands.Proofs.Lanes.Served

/-! # Calls on the move

A call waits for its lane, runs, and ends. A step of a run moves at most one call, notes its entry
and its outcome on the way, and leaves the cooldowns alone. Time takes every call to its end.
-/

namespace ChatCommands

open Relation
open scoped List

namespace Run

/-- The calls whose handlers have yet to be entered. -/
def waiting (r : Run) : List Call :=
  r.lanes.waiting.map Job.task

/-- The calls whose handlers were entered and have not ended. -/
def running (r : Run) : List Call :=
  r.inline.map Prod.snd ++ r.lanes.running.map Job.task

/-- The calls whose handlers were entered, in order. -/
def entered (r : Run) : List Call :=
  r.calls.map Prod.snd

/-- The outcomes so far, with the numbers of their messages. -/
def results (r : Run) : List (Nat × Outcome Handler) :=
  r.outcomes.map Prod.snd

/-- The lanes lose no call, and each call comes back from them. -/
structure Sound (r : Run) : Prop where
  served : r.lanes.Served
  received : ∀ job ∈ r.lanes.jobs, job.receipt? = some (.result job.task)

/-- What a step does to the calls. -/
inductive Moves (r s : Run) : Prop
  | idle : s.waiting ~ r.waiting → s.running ~ r.running → s.entered = r.entered →
      s.results = r.results → s.broken = r.broken → Moves r s
  | enters (call : Call) : r.waiting ~ call :: s.waiting → s.running ~ call :: r.running →
      s.entered = r.entered ++ [call] → s.results = r.results → s.broken = r.broken → Moves r s
  | ends (call : Call) : s.waiting ~ r.waiting → r.running ~ call :: s.running →
      s.entered = r.entered → s.results = r.results ++ [(call.message, call.outcome)] →
      s.broken = r.broken → Moves r s

/-- The second state comes from the first while nothing is dispatched. -/
structure Leads (r s : Run) : Prop where
  moves : ReflTransGen Moves r s
  sound : s.Sound
  cooldowns : s.cooldowns = r.cooldowns

variable {r s : Run}

theorem Sound.nextInline? (hr : r.Sound) (h : r.nextInline? = some s) : r.Leads s := by
  obtain ⟨⟨before, ⟨ends, call⟩, after⟩, he, rfl⟩ := Option.map_eq_some_iff.mp h
  refine ⟨.single (.ends call (List.Perm.refl _) ?_ rfl ?_ rfl), ⟨hr.served, hr.received⟩, rfl⟩
  · simp only [running, eq_append_of_earliest? he, settleOutcome, List.map_append, List.map_cons]
    exact List.perm_middle.append_right _
  · simp [results, settleOutcome]

theorem Sound.nextLane? (hr : r.Sound) (h : r.nextLane? = some s) : r.Leads s := by
  obtain ⟨⟨before, w, after⟩, he, rfl⟩ := Option.map_eq_some_iff.mp h
  have hworkers := eq_append_of_earliest? he
  have hjobs := hr.served.jobs_step hworkers (w.due r.clock)
  obtain ⟨hserved, hcases⟩ := hr.served.step_cases hworkers (w.due r.clock)
  have hreceived : ∀ job ∈ (r.lanes.step (w.due r.clock) before w after).1.jobs,
      job.receipt? = some (.result job.task) := fun job hjob => hr.received job (hjobs hjob)
  simp only
  generalize r.lanes.step (w.due r.clock) before w after = taken at *
  obtain ⟨lanes, event?⟩ := taken
  rcases hcases with ⟨job, hevent, hwaiting, hrunning⟩ | ⟨job, hevent, hwaiting, hrunning⟩ |
    ⟨hevent, hwaiting, hrunning⟩
  · obtain rfl := hevent
    refine ⟨.single (.enters job.task (hwaiting.map Job.task) ?_ ?_ rfl rfl),
      ⟨hserved, hreceived⟩, rfl⟩
    · exact ((hrunning.map Job.task).append_left _).trans List.perm_middle
    · simp [entered, observe]
  · obtain rfl := hevent
    have hreceipt := hr.received job (by simp [Lanes.jobs, hrunning.mem_iff])
    refine ⟨.single (.ends job.task (hwaiting.map Job.task) ?_ rfl ?_ rfl),
      ⟨hserved, hreceived⟩, rfl⟩
    · exact ((hrunning.map Job.task).append_left _).trans List.perm_middle
    · simp [results, observe, settleOutcome, Call.received, hreceipt]
  · obtain rfl := hevent
    exact ⟨.single (.idle (hwaiting.map Job.task) ((hrunning.map Job.task).append_left _) rfl rfl
      rfl), ⟨hserved, hreceived⟩, rfl⟩

theorem Sound.next? (hr : r.Sound) (h : r.next? = some s) : r.Leads s := by
  unfold Run.next? at h
  split at h
  · rename_i ha hb
    split at h <;> cases h
    · exact hr.nextLane? hb
    · exact hr.nextInline? ha
  · rename_i ha _
    exact hr.nextInline? (ha.trans h)
  · exact hr.nextLane? h

theorem Sound.refl (hr : r.Sound) : r.Leads r :=
  ⟨.refl, hr, rfl⟩

theorem Leads.trans {t : Run} (hrs : r.Leads s) (hst : s.Leads t) : r.Leads t :=
  ⟨hrs.moves.trans hst.moves, hst.sound, hst.cooldowns.trans hrs.cooldowns⟩

theorem Moves.results_prefix (h : r.Moves s) : r.results <+: s.results := by
  cases h with
  | idle _ _ _ ho _ | enters _ _ _ _ ho _ => exact ho ▸ List.prefix_rfl
  | ends _ _ _ _ ho _ =>
    rw [ho]
    exact List.prefix_append _ _

/-- An outcome that is there stays there. -/
theorem Leads.results_prefix (h : r.Leads s) : r.results <+: s.results := by
  obtain ⟨hmoves, -, -⟩ := h
  induction hmoves with
  | refl => exact List.prefix_rfl
  | tail _ hm ih => exact ih.trans hm.results_prefix

theorem Sound.setClock (hr : r.Sound) (clock : Nat) : r.Leads { r with clock := clock } :=
  ⟨.single (.idle (List.Perm.refl _) (List.Perm.refl _) rfl rfl rfl), ⟨hr.served, hr.received⟩,
    rfl⟩

theorem Sound.advance (hr : r.Sound) (target : Nat) : r.Leads (r.advance target) := by
  fun_induction Run.advance target r with
  | case1 r _ => exact hr.setClock target
  | case2 r s hs _ ih =>
    have hnext := hr.next? hs
    exact hnext.trans (ih hnext.sound)
  | case3 r s _ _ => exact hr.setClock target

theorem Sound.await (hr : r.Sound) (message : Nat) : r.Leads (r.await message) := by
  fun_induction Run.await message r with
  | case1 r _ => exact hr.refl
  | case2 r _ _ => exact hr.refl
  | case3 r _ s hs ih =>
    have hnext := hr.next? hs
    exact hnext.trans (ih hnext.sound)

/-- When no step is left, no call is on its way. -/
theorem Sound.rests (hr : r.Sound) (h : r.next? = none) : r.waiting = [] ∧ r.running = [] := by
  unfold Run.next? at h
  split at h
  · cases h
  · cases h
  · rename_i hinline
    have hi : r.inline = [] := eq_nil_of_earliest? (Option.map_eq_none_iff.mp hinline)
    have hw : r.lanes.workers = [] := eq_nil_of_earliest? (Option.map_eq_none_iff.mp h)
    -- Without workers there are no lanes, so that no call is left in a queue.
    have hq : r.lanes.queues = [] := by
      have hserved := hr.served
      rw [Lanes.Served, hw] at hserved
      exact List.map_eq_nil_iff.mp (List.nil_perm.mp hserved)
    constructor
    · simp [waiting, Lanes.waiting, hw, hq]
    · simp [running, Lanes.running, hi, hw]

theorem advance_of_rests (h : r.next? = none) (target : Nat) :
    r.advance target = { r with clock := target } := by
  rw [Run.advance]
  split
  · rfl
  · rename_i hs
    rw [h] at hs
    cases hs

theorem advance_of_next? (h : r.next? = some s) (target : Nat) :
    r.advance target =
      if s.clock ≤ target then s.advance target else { r with clock := target } := by
  rw [Run.advance]
  split
  · rename_i hs
    rw [h] at hs
    cases hs
  · rename_i t ht
    obtain rfl := Option.some.inj (h.symm.trans ht)
    rfl

theorem await_of_isOver {message : Nat} (h : r.isOver message = true) : r.await message = r := by
  rw [Run.await, if_pos h]

theorem await_of_rests (h : r.next? = none) (message : Nat) : r.await message = r := by
  rw [Run.await]
  split
  · rfl
  · split
    · rfl
    · rename_i hs
      rw [h] at hs
      cases hs

theorem await_of_next? {message : Nat} (hgoing : r.isOver message = false)
    (h : r.next? = some s) : r.await message = s.await message := by
  rw [Run.await, if_neg (by simp [hgoing])]
  split
  · rename_i hs
    rw [h] at hs
    cases hs
  · rename_i t ht
    obtain rfl := Option.some.inj (h.symm.trans ht)
    rfl

/-- From some moment on, all calls have ended. -/
theorem Sound.exists_rest (r : Run) (hr : r.Sound) : ∃ moment, ∀ target, moment ≤ target →
    (r.advance target).waiting = [] ∧ (r.advance target).running = [] := by
  cases hn : r.next? with
  | none =>
    refine ⟨0, fun target _ => ?_⟩
    rw [advance_of_rests hn]
    exact hr.rests hn
  | some s =>
    obtain ⟨moment, hmoment⟩ := Sound.exists_rest s (hr.next? hn).sound
    refine ⟨max moment s.clock, fun target htarget => ?_⟩
    rw [advance_of_next? hn, if_pos (by omega)]
    exact hmoment target (by omega)
termination_by r.stepsLeft
decreasing_by exact stepsLeft_next? hn

end Run

end ChatCommands
