import ChatCommands.Proofs.Timer.Sweep

/-! # The table of a timer task

A timer comes into the table when the task hears of it. It leaves it when the task wakes and the
timer is due, or when the task finds that it has ended. Whatever clients do meanwhile, each deadline
has its job and each job its deadline, and the task wakes in time for every timer that is armed.
-/

namespace ChatCommands

open Relation
open scoped List

namespace Timers

variable {J : Type} {timers : List (Nat × J)} {t s : Timers J} {now id : Nat}

/-- The table of `s` still has the jobs and deadlines of all timers that are armed there. -/
def Retains (t s : Timers J) : Prop :=
  ∀ id, s.isPending id = true → (id ∈ t.listed → id ∈ s.listed) ∧
    ∀ deadline, (deadline, id) ∈ t.table.agenda → (deadline, id) ∈ s.table.agenda

theorem retains_of_table (h : s.table = t.table) : t.Retains s := by
  intro id _
  rw [listed, listed, h]
  exact ⟨fun hid => hid, fun _ hid => hid⟩

/-- Dropping timers loses none that is armed if all of these are to be kept. -/
theorem retains_filter (keep : Nat → Bool)
    (hagenda : s.table.agenda = t.table.agenda.filter (keep ·.2))
    (hjobs : s.table.jobs = t.table.jobs.filter (keep ·.1))
    (hkeep : ∀ id, s.isPending id = true → keep id = true) : t.Retains s := by
  intro id hid
  rw [listed_filter keep hjobs, hagenda]
  constructor
  · intro hmem
    exact List.mem_filter.mpr ⟨hmem, hkeep id hid⟩
  · intro deadline hmem
    exact List.mem_filter.mpr ⟨hmem, hkeep id hid⟩

theorem retains_receive? (hs : t.receive? = some s) : t.Retains s := by
  obtain ⟨new, deadline, job, -, heq⟩ | ⟨-, heq⟩ := receive?_cases hs
  · intro id _
    have hjobs : s.table.jobs = t.table.jobs.filter (·.1 != new) ++ [(new, job)] := by
      rw [heq, TimerTable.insert]
    have hagenda : s.table.agenda = TimerTable.enter deadline new t.table.agenda := by
      rw [heq, TimerTable.insert]
    constructor
    · intro hid
      rw [listed, hjobs, List.map_append]
      by_cases hne : id = new
      · simp [hne]
      · obtain ⟨entry, hentry, rfl⟩ := List.mem_map.mp hid
        apply List.mem_append_left
        exact List.mem_map_of_mem (List.mem_filter.mpr ⟨hentry, by simpa using hne⟩)
    · intro _ hmem
      rw [hagenda]
      exact TimerTable.mem_enter.mpr (Or.inr hmem)
  · apply retains_of_table
    rw [heq]

theorem retains_fire? (hl : t.table.Lists timers) (hs : t.fire? now = some s) : t.Retains s := by
  obtain ⟨deadline, first, job, -, -, hagenda, hjobs, -, -, -, harms⟩ := fire?_cases hl hs
  apply retains_filter (· != first) (hl.agenda_filter hagenda).symm hjobs
  intro id hid
  have hne : id ≠ first := by
    rintro rfl
    obtain ⟨hp, harms, -⟩ | ⟨hp, harms, -⟩ := harms
    · exact ((isPending_set hp (by decide) harms).mp hid).1 rfl
    · rw [isPending_congr harms, hp] at hid
      cases hid
  simpa using hne

theorem retains_look (t : Timers J) (looked : Nat) : t.Retains (t.look looked) := by
  obtain ⟨-, hlook⟩ | ⟨hp, hlook⟩ := t.look_cases looked
  · exact retains_of_table (by rw [hlook])
  · intro id hid
    have hne : id ≠ looked := by
      rintro rfl
      rw [isPending_congr (t.arms_look id), hp] at hid
      cases hid
    have hlisted : (t.look looked).listed = t.listed.filter (· != looked) :=
      listed_filter (· != looked) (by rw [hlook])
    rw [hlisted, hlook]
    exact ⟨fun hmem => List.mem_filter.mpr ⟨hmem, by simpa using hne⟩, fun _ hmem => hmem⟩

/-- A deadline that has its job is not dropped. -/
theorem retains_forget
    (h : ∀ deadline id, (deadline, id) ∈ t.table.agenda → t.isPending id = true → id ∈ t.listed) :
    t.Retains t.forget := by
  intro id hid
  refine ⟨fun hmem => hmem, fun deadline hmem => ?_⟩
  obtain ⟨entry, hentry, rfl⟩ := List.mem_map.mp (h deadline id hmem hid)
  exact List.mem_filter.mpr ⟨hmem, List.any_eq_true.mpr ⟨entry, hentry, beq_self_eq_true _⟩⟩

theorem fire?_of_missing {left : TimerTable J} (h : t.table.popDue? now = some (id, none, left)) :
    t.fire? now ≠ none := by
  simp [fire?, h]

end Timers

namespace TimerHistory

variable {K : Type} {h h' : TimerHistory K} {id deadline now : Nat} {job : Nat × K}

/-- The task has yet to hear of the timer. -/
def Unheard (h : TimerHistory K) (id : Nat) : Prop :=
  id ∈ h.called ∨ id ∈ h.timers.queued

/-- The table has the jobs and deadlines of all armed timers that the task has heard of. -/
theorem Kept.mem_table (hk : h.Kept) (hr : h.timers.isRunning = true)
    (hid : h.timers.isPending id = true) (hset : h.made[id]? = some (deadline, job)) :
    h.Unheard id ∨ id ∈ h.timers.listed ∧ (deadline, id) ∈ h.timers.table.agenda := by
  have hlists := (hk.tracks hr).lists
  rcases hk.accounted id hid with hmem | hcalled
  · rcases List.mem_append.mp hmem with hlisted | hqueued
    · refine Or.inr ⟨hlisted, ?_⟩
      obtain ⟨⟨_, other⟩, hother, rfl⟩ := List.mem_map.mp hlisted
      obtain ⟨_, hknown⟩ := hlists.known _ other hother
      cases hset.symm.trans hknown
      exact (hlists.mem_agenda _ _).mpr ⟨_, hother, hset⟩
    · exact Or.inl (Or.inr hqueued)
  · exact Or.inl (Or.inl hcalled)

/-- As long as the task runs, it loses no timer that is armed. -/
theorem Kept.retains (hk : h.Kept) (hr : h.timers.isRunning = true) (hs : h.Step h') :
    h.timers.Retains h'.timers := by
  have hcancel : ∀ id, (h.timers.cancel id).2.table = h.timers.table :=
    fun id => (Timers.turn_eq h.timers id .cancelled).2.1
  cases hs with
  | tick _ | make _ _ _ | send _ _ _ _ | refuse _ _ _ _ | abandon _ _ _ | close _ =>
    exact Timers.retains_of_table rfl
  | giveUp _ _ _ => exact Timers.retains_of_table (hcancel _)
  | cancel id => exact Timers.retains_of_table (hcancel id)
  | shutdown =>
    apply Timers.retains_of_table
    obtain ⟨-, heq⟩ | ⟨-, heq⟩ := h.timers.shutdown_cases <;> rw [heq]
  | receive _ hs => exact Timers.retains_receive? hs
  | wake _ hs => exact Timers.retains_fire? (hk.tracks hr).lists hs
  | fire _ hs => exact Timers.retains_fire? (hk.tracks hr).lists hs
  | rest keep _ _ hkeep =>
    obtain ⟨-, hagenda, hjobs⟩ := (hk.tracks hr).lists.prune keep
    exact Timers.retains_filter keep hagenda hjobs hkeep
  | drain hp _ => simp [Timers.isRunning, hp] at hr
  | run _ htake =>
    obtain ⟨_, -, heq⟩ := Option.map_eq_some_iff.mp htake
    cases heq
    exact Timers.retains_of_table rfl

end TimerHistory

namespace TimerLoop

open TimerHistory

variable {K : Type} {l l' : TimerLoop K} {h : TimerHistory K} {ids : List Nat}
  {full : TimerTable (Nat × K)} {keep : Nat → Bool} {id deadline now : Nat} {job : Nat × K}

/-- What can be relied on about the table. -/
structure InOrder (l : TimerLoop K) : Prop where
  /-- Whenever the task waits, the deadlines and the jobs are those of the same timers. -/
  same_timers : l.history.timers.phase = .waiting →
    l.history.timers.table.agenda.map Prod.snd ~ l.history.timers.listed ∧
      l.history.timers.listed.Nodup
  /-- No deadline that passes is without a job. -/
  none_missing : ∀ now, l.history.timers.phase = .waiting ∨ l.history.timers.phase = .firing now →
    ∀ id left, l.history.timers.table.popDue? now ≠ some (id, none, left)
  /-- When the task waits again, all that is left is due after the moment at which it woke. -/
  caught_up : ∀ now l', l.history.timers.phase = .firing now → l.Step l' →
    l'.history.timers.phase = .waiting → ∀ id ∈ l'.history.timers.listed,
      ∃ deadline job, l'.history.made[id]? = some (deadline, job) ∧ now < deadline
  /-- No step of the task loses a timer that is armed. -/
  none_lost : ∀ l', l.history.timers.isRunning = true → l.Step l' →
    l.history.timers.Retains l'.history.timers
  /-- The task sleeps no longer than to the deadline of any armed timer that it has heard of. -/
  wakes_in_time : l.history.timers.phase = .waiting → ∀ id deadline job,
    l.history.timers.isPending id = true → l.history.made[id]? = some (deadline, job) →
      l.history.Unheard id ∨
        ∃ moment, l.history.timers.table.earliest? = some moment ∧ moment ≤ deadline

/-- A deadline of an armed timer has its job, also while the task forgets others. -/
theorem Sweeps.mem_listed (hs : Sweeps h ids full keep now)
    (hmem : (deadline, id) ∈ h.timers.table.agenda) (hid : h.timers.isPending id = true) :
    id ∈ h.timers.listed := by
  rw [hs.table] at hmem
  obtain ⟨job, hjob, -⟩ := (hs.tracks.lists.mem_agenda deadline id).mp hmem
  rw [hs.listed_eq]
  exact List.mem_filter.mpr ⟨List.mem_map_of_mem hjob, hs.keeps hid⟩

/-- All that is left when the task has forgotten is due later. -/
theorem Sweeps.lt_deadline (hs : Sweeps h ids full keep now) (hid : id ∈ h.timers.listed) :
    ∃ deadline job, h.made[id]? = some (deadline, job) ∧ now < deadline := by
  have hlists := hs.tracks.lists
  rw [hs.listed_eq] at hid
  obtain ⟨⟨_, job⟩, hjob, rfl⟩ := List.mem_map.mp (List.mem_of_mem_filter hid)
  obtain ⟨deadline, hset⟩ := hlists.known _ job hjob
  have hmem := (hlists.mem_agenda deadline _).mpr ⟨job, hjob, hset⟩
  obtain ⟨first, hfirst, hle⟩ := hlists.earliest?_le hmem
  have hahead := hs.ahead first hfirst
  exact ⟨deadline, job, hset, by omega⟩

theorem Refines.kept_of_waiting (hl : Refines l) (hp : l.history.timers.phase = .waiting) :
    l.history.Kept := by
  cases hl with
  | whole hr => exact hr.kept
  | swept hs => cases hs.phase.symm.trans hp

theorem Refines.none_missing (hl : Refines l) (now : Nat)
    (hp : l.history.timers.phase = .waiting ∨ l.history.timers.phase = .firing now)
    (id : Nat) (left : TimerTable (Nat × K)) :
    l.history.timers.table.popDue? now ≠ some (id, none, left) := by
  intro hmissing
  cases hl with
  | @whole h hr =>
    have hrunning : h.timers.isRunning = true := by
      rcases hp with hp | hp <;> rw [Timers.isRunning, hp]
    obtain ⟨_, _, hjob, -⟩ := (hr.kept.tracks hrunning).lists.popDue? hmissing
    cases hjob
  | swept hs =>
    rcases hp with hp | hp
    · cases hs.phase.symm.trans hp
    · cases hs.phase.symm.trans hp
      exact Timers.fire?_of_missing hmissing hs.fire?_eq_none

theorem Refines.caught_up (hl : Refines l) (hp : l.history.timers.phase = .firing now)
    (hs : l.Step l') (hp' : l'.history.timers.phase = .waiting)
    (hid : id ∈ l'.history.timers.listed) :
    ∃ deadline job, l'.history.made[id]? = some (deadline, job) ∧ now < deadline := by
  cases hs with
  | moves _ hstays => cases (hstays now hp).symm.trans hp'
  | sweep _ _ _ => cases hp.symm.trans hp'
  | @look h looked _ =>
    have hphase : (h.timers.look looked).phase = h.timers.phase := by
      obtain ⟨-, hlook⟩ | ⟨-, hlook⟩ := h.timers.look_cases looked <;> rw [hlook]
    cases hp.symm.trans (hphase.symm.trans hp')
  | aside ha => cases hp.symm.trans (ha.2.1.symm.trans hp')
  | forget =>
    cases hl with
    | swept hsweeps =>
      cases hsweeps.phase.symm.trans hp
      exact hsweeps.lt_deadline hid

theorem Refines.none_lost (hl : Refines l) (hr : l.history.timers.isRunning = true)
    (hs : l.Step l') : l.history.timers.Retains l'.history.timers := by
  cases hs with
  | moves hs _ =>
    cases hl with
    | whole hreachable => exact hreachable.kept.retains hr hs
  | sweep _ _ _ => exact Timers.retains_of_table rfl
  | look => exact Timers.retains_look _ _
  | aside ha => exact Timers.retains_of_table ha.2.2
  | forget =>
    cases hl with
    | swept hsweeps => exact Timers.retains_forget fun _ _ => hsweeps.mem_listed

/-- Each deadline has its job and each job its deadline, and no armed timer is missed. -/
theorem tables_stay_in_order (hr : l.Reachable) : l.InOrder := by
  have hl := hr.refines
  constructor
  case same_timers =>
    intro hp
    have hlists := ((hl.kept_of_waiting hp).tracks (isRunning_of_waiting hp)).lists
    exact ⟨hlists.agenda_perm, hlists.nodup⟩
  case none_missing => exact hl.none_missing
  case caught_up =>
    intro now l' hp hs hp' id hid
    exact hl.caught_up hp hs hp' hid
  case none_lost =>
    intro l' hrunning hs
    exact hl.none_lost hrunning hs
  case wakes_in_time =>
    intro hp id deadline job hid hset
    have hk := hl.kept_of_waiting hp
    have hrunning := isRunning_of_waiting hp
    refine (hk.mem_table hrunning hid hset).imp_right fun hmem => ?_
    exact (hk.tracks hrunning).lists.earliest?_le hmem.2

/-- A timer is cancelled before the task looks at it, and another one just after. -/
theorem tables_stay_in_order_nap : ∃ l : TimerLoop String, l.Reachable ∧
    l.history.timers.phase = .waiting ∧ l.history.timers.arms = [.fired, .cancelled, .cancelled] ∧
    l.history.timers.table = ⟨[(9, 2)], [(2, 2, "wash")]⟩ ∧ l.InOrder := by
  have hfirst := ((ReflTransGen.refl.tail
    (step_of_waiting (h := {}) rfl (.make 3 "ring" (by decide)))).tail
    (step_of_waiting rfl (.send [] [] rfl rfl))).tail (step_of_waiting rfl (.receive rfl rfl))
  have hsecond := ((hfirst.tail (step_of_waiting rfl (.make 7 "boil" (by decide)))).tail
    (step_of_waiting rfl (.send [] [] rfl rfl))).tail (step_of_waiting rfl (.receive rfl rfl))
  have hthird := ((hsecond.tail (step_of_waiting rfl (.make 9 "wash" (by decide)))).tail
    (step_of_waiting rfl (.send [] [] rfl rfl))).tail (step_of_waiting rfl (.receive rfl rfl))
  have hfired := ((hthird.tail (step_of_waiting rfl (.tick _ 3))).tail
    (step_of_waiting rfl (.cancel _ 1))).tail (step_of_waiting rfl (.wake rfl rfl))
  have hswept := ((hfired.tail (.sweep rfl rfl (.swap 1 2 []))).tail .look).tail
    (.aside (aside_cancel _ 2))
  have hdone := (hswept.tail .look).tail .forget
  exact ⟨_, hdone, rfl, rfl, rfl, tables_stay_in_order hdone⟩

end TimerLoop

end ChatCommands
