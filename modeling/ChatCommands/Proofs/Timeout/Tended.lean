import ChatCommands.Proofs.Timer.Reference
import ChatCommands.Timer.Timeout

/-! # A timeout and its timers

A timeout sets a timer only when none of its timers is pending, so at most one is, and that is the
one it holds the handle of. All others are of no account any more, wherever the task still has them.
-/

namespace ChatCommands

open TimerAct TimedTimers

namespace Timeout

variable {C J : Type} {t : Timeout C} {timers : TimedTimers J} {due? : Option (Nat × J)}

/-- What an operation leaves as it is: all but the handle and the timers. -/
structure Keeps (t u : Timeout C) (timers later : TimedTimers J) : Prop where
  duration : u.duration = t.duration
  enabled : u.enabled = t.enabled
  callback? : u.callback? = t.callback?
  clock : later.clock = timers.clock

theorem keeps_arm (t : Timeout C) (timers : TimedTimers J) (job : J) :
    t.Keeps (t.arm timers job).2.1 timers (t.arm timers job).2.2 := by
  unfold arm TimedTimers.schedule
  cases timers.timers.schedule timers.clock t.duration.nanos job with
  | error e => exact ⟨rfl, rfl, rfl, rfl⟩
  | ok set => exact ⟨rfl, rfl, rfl, rfl⟩

theorem keeps_start (t : Timeout C) (timers : TimedTimers J) (job : J) :
    t.Keeps (t.start timers job).2.1 timers (t.start timers job).2.2 := by
  unfold start
  split
  · exact ⟨rfl, rfl, rfl, rfl⟩
  · exact keeps_arm t timers job

theorem keeps_stop (t : Timeout C) (timers : TimedTimers J) :
    t.Keeps (t.stop timers).2.1 timers (t.stop timers).2.2 := by
  unfold stop
  split <;> exact ⟨rfl, rfl, rfl, rfl⟩

theorem keeps_restart (t : Timeout C) (timers : TimedTimers J) (job : J) :
    t.Keeps (t.restart timers job).2.1 timers (t.restart timers job).2.2 := by
  unfold restart
  split
  · exact ⟨rfl, rfl, rfl, rfl⟩
  · have hstop := keeps_stop t timers
    have harm := keeps_arm (t.stop timers).2.1 (t.stop timers).2.2 job
    constructor
    · exact harm.duration.trans hstop.duration
    · exact harm.enabled.trans hstop.enabled
    · exact harm.callback?.trans hstop.callback?
    · exact harm.clock.trans hstop.clock

theorem arm_fst_cases (t : Timeout C) (timers : TimedTimers J) (job : J) :
    (t.arm timers job).1 = .ok true ∨ (t.arm timers job).1 = .error .pastHorizon := by
  unfold arm
  split
  · exact Or.inl rfl
  · rename_i e _
    cases e
    exact Or.inr rfl

/-- Starting with a new duration is starting with it, unless the timeout is pending. -/
theorem startWith_cases (t : Timeout C) (duration : Duration) (timers : TimedTimers J) (job : J) :
    t.startWith duration timers job = (.ok false, t, timers) ∨
      t.isArmed timers = false ∧
        t.startWith duration timers job = { t with duration := duration }.start timers job := by
  unfold startWith
  cases t.isArmed timers with
  | true => exact Or.inl rfl
  | false => exact Or.inr ⟨rfl, rfl⟩

theorem start_eq_arm {job : J} (henabled : t.enabled = true) (harmed : t.isArmed timers = false) :
    t.start timers job = t.arm timers job := by
  simp [start, henabled, harmed]

/-- A duration is kept unless the timeout is pending. -/
theorem startWith_takes (t : Timeout C) (duration : Duration) (timers : TimedTimers J) (job : J)
    (henabled : t.enabled = true) : t.startWith duration timers job = (.ok false, t, timers) ∨
      ((t.startWith duration timers job).1 = .ok true ∨
        (t.startWith duration timers job).1 = .error .pastHorizon) ∧
      (t.startWith duration timers job).2.1.duration = duration := by
  rcases t.startWith_cases duration timers job with hsame | ⟨harmed, hstart⟩
  · exact Or.inl hsame
  · have harm : start { t with duration := duration } timers job = arm _ timers job :=
      start_eq_arm henabled harmed
    rw [hstart, harm]
    exact Or.inr ⟨arm_fst_cases _ timers job, (keeps_arm _ timers job).duration⟩

/-- The task runs and has the timers of the timeout alone. The one that is pending, if any, has the
given deadline and job, and is the one that was set last. -/
structure Tended (t : Timeout C) (timers : TimedTimers J) (due? : Option (Nat × J)) : Prop where
  exists_acts : ∃ acts : List (TimerAct J), Reflects acts timers ∧ .shutdown ∉ acts ∧
    (∀ id, Pending acts id → t.current? = some id ∧ due?.isSome = true) ∧
    ∀ timer, due? = some timer →
      ∃ id, t.current? = some id ∧ Pending acts id ∧ (scheduled acts)[id]? = some timer

/-- No timer is pending where none was ever set. -/
theorem tended_start (t : Timeout C) (moment : Nat) :
    t.Tended (⟨moment, {}⟩ : TimedTimers J) none := by
  have hidle : (({} : TimedTimers J).advance (0 + moment)).2 = ⟨moment, {}⟩ := by
    rw [advance_of_none rfl, Nat.zero_add]
  have hstart := ((reflects_start (J := J)).advance moment).1
  rw [hidle] at hstart
  refine ⟨_, hstart, by simp, fun id hid => ?_, by simp⟩
  exact absurd hid.1 (Nat.not_lt_zero id)

/-- Only the handle of the timer that was set last matters. -/
theorem Tended.congr (h : t.Tended timers due?) {u : Timeout C} (hu : u.current? = t.current?) :
    u.Tended timers due? := by
  obtain ⟨acts, hacts⟩ := h
  rw [← hu] at hacts
  exact ⟨acts, hacts⟩

theorem Tended.isPending_iff (h : t.Tended timers due?) (id : Nat) :
    timers.timers.isPending id = true ↔ t.current? = some id ∧ due?.isSome = true := by
  obtain ⟨acts, hreflects, -, honly, harmed⟩ := h
  rw [hreflects.armed]
  constructor
  · exact honly id
  · rintro ⟨hcurrent, hdue⟩
    obtain ⟨timer, hdue⟩ := Option.isSome_iff_exists.mp hdue
    obtain ⟨other, hother, hpending, -⟩ := harmed timer hdue
    rw [hcurrent] at hother
    cases hother
    exact hpending

/-- At most one timer is ever pending. -/
theorem Tended.pending_unique (h : t.Tended timers due?) {i j : Nat}
    (hi : timers.timers.isPending i = true) (hj : timers.timers.isPending j = true) : i = j := by
  rw [h.isPending_iff] at hi hj
  exact Option.some.inj (hi.1.symm.trans hj.1)

theorem Tended.isArmed (h : t.Tended timers due?) : t.isArmed timers = due?.isSome := by
  rw [Bool.eq_iff_iff, Timeout.isArmed, Option.any_eq_true]
  constructor
  · rintro ⟨id, -, hid⟩
    exact ((h.isPending_iff id).mp hid).2
  · intro hdue
    obtain ⟨timer, htimer⟩ := Option.isSome_iff_exists.mp hdue
    obtain ⟨acts, -, -, -, harmed⟩ := h.exists_acts
    obtain ⟨id, hcurrent, -⟩ := harmed timer htimer
    exact ⟨id, hcurrent, (h.isPending_iff id).mpr ⟨hcurrent, hdue⟩⟩

/-- Stopping tells whether a timer was pending, and none is afterwards. -/
theorem Tended.stop (h : t.Tended timers due?) : ∃ left : TimedTimers J,
    t.stop timers = (due?.isSome, { t with current? := none }, left) ∧
      left.clock = timers.clock ∧ Tended { t with current? := none } left none := by
  have hpending := h.isPending_iff
  obtain ⟨acts, hreflects, hrunning, honly, harmed⟩ := h
  cases hcurrent : t.current? with
  | none =>
    have hdue : due? = none := by
      rw [Option.eq_none_iff_forall_ne_some]
      intro timer htimer
      obtain ⟨id, hid, -⟩ := harmed timer htimer
      simp [hcurrent] at hid
    have hstop : t.stop timers = (false, t, timers) := by simp [Timeout.stop, hcurrent]
    have hsame : { t with current? := none } = t := by rw [← hcurrent]
    refine ⟨timers, by rw [hstop, hsame, hdue]; rfl, rfl, acts, hreflects, hrunning, ?_, by simp⟩
    intro id hid
    have hid := honly id hid
    simp [hcurrent] at hid
  | some id =>
    have hanswer : (timers.cancel id).1 = due?.isSome := by
      rw [Bool.eq_iff_iff]
      have hid := hpending id
      rw [hcurrent] at hid
      rw [TimedTimers.cancel, Timers.cancel]
      obtain ⟨hp, hturn⟩ | ⟨hp, hturn⟩ := timers.timers.turn_cases id .cancelled <;>
        simp only [hturn, hp] at hid ⊢
      · simpa using hid
      · simpa using hid
    have hcancelled := hreflects.cancel id
    refine ⟨(timers.cancel id).2, ?_, rfl, _, hcancelled, by simpa using hrunning, ?_, by simp⟩
    · simp [Timeout.stop, hcurrent, hanswer]
    · intro other hother
      obtain ⟨hother, hne⟩ := pending_cancel.mp hother
      have hsame := (honly other hother).1
      rw [hcurrent] at hsame
      exact absurd (Option.some.inj hsame).symm hne

/-- A timer is set for the whole duration, unless its deadline would lie past the horizon. -/
theorem Tended.arm (h : t.Tended timers none) (job : J) :
    (Timers.horizon < timers.clock + t.duration.nanos ∧
      t.arm timers job = (.error .pastHorizon, t, timers)) ∨
    timers.clock + t.duration.nanos ≤ Timers.horizon ∧ ∃ (id : Nat) (armed : TimedTimers J),
      t.arm timers job = (.ok true, { t with current? := some id }, armed) ∧
        armed.clock = timers.clock ∧ Tended { t with current? := some id } armed
          (some (timers.clock + t.duration.nanos, job)) := by
  obtain ⟨acts, hreflects, hrunning, honly, -⟩ := h
  have hacts : ¬Halted acts := fun hhalted => hrunning (mem_of_halted hhalted)
  have hset := hreflects.schedule t.duration.nanos job
  unfold Timeout.arm
  rw [TimedTimers.perform] at hset
  rcases timers.timers.schedule_cases timers.clock t.duration.nanos job with
    ⟨hpast, hschedule⟩ | ⟨hle, -, hschedule⟩ | ⟨-, hstopped, -⟩
  · left
    exact ⟨hpast, by simp [TimedTimers.schedule, hschedule, Except.map]⟩
  · right
    simp only [TimedTimers.schedule, hschedule, Except.map] at hset ⊢
    refine ⟨hle, timers.timers.arms.length, _, rfl, rfl, _, hset, by simpa using hrunning, ?_, ?_⟩
    · intro id hid
      rcases pending_schedule.mp hid with hid | ⟨-, rfl, -⟩
      · have hnone := (honly id hid).2
        simp at hnone
      · simp [hreflects.length]
    · rintro timer htimer
      cases htimer
      rw [hreflects.clock] at hle ⊢
      refine ⟨_, rfl, pending_schedule.mpr (Or.inr ⟨hle, hreflects.length, hacts⟩), ?_⟩
      rw [scheduled_append, scheduledFrom, if_neg (Nat.not_lt.mpr hle), hreflects.length]
      exact List.getElem?_concat_length
  · rw [hreflects.isRunning_iff.mpr hacts] at hstopped
    cases hstopped

/-- What an operation answers that sets a timer with a deadline. -/
def settled (deadline : Nat) : Except TimerError Bool :=
  if deadline ≤ Timers.horizon then .ok true else .error .pastHorizon

theorem settled_eq_ok_iff {deadline : Nat} :
    settled deadline = .ok true ↔ deadline ≤ Timers.horizon := by
  unfold settled
  split <;> simp [*]

theorem settled_eq_error_iff {deadline : Nat} :
    settled deadline = .error .pastHorizon ↔ Timers.horizon < deadline := by
  unfold settled
  split
  · simp [*]
  · simpa using Nat.not_le.mp ‹_›

theorem Tended.fst_arm (h : t.Tended timers none) (job : J) :
    (t.arm timers job).1 = settled (timers.clock + t.duration.nanos) := by
  rcases h.arm job with ⟨hpast, harm⟩ | ⟨hle, _, _, harm, -⟩
  · rw [harm, settled_eq_error_iff.mpr hpast]
  · rw [harm, settled_eq_ok_iff.mpr hle]

/-- Starting arms it, unless it is disabled or pending. -/
theorem Tended.start (h : t.Tended timers due?) (job : J) :
    ((t.enabled = false ∨ due?.isSome = true) ∧ t.start timers job = (.ok false, t, timers)) ∨
      t.enabled = true ∧ due? = none ∧ t.start timers job = t.arm timers job := by
  unfold Timeout.start
  rw [h.isArmed]
  cases t.enabled with
  | false => exact Or.inl ⟨Or.inl rfl, rfl⟩
  | true =>
    cases due? with
    | none => exact Or.inr ⟨rfl, rfl, rfl⟩
    | some timer => exact Or.inl ⟨Or.inr rfl, rfl⟩

theorem Tended.startWith (h : t.Tended timers due?) (duration : Duration) (job : J) :
    (due?.isSome = true ∧ t.startWith duration timers job = (.ok false, t, timers)) ∨
      due? = none ∧
        t.startWith duration timers job = { t with duration := duration }.start timers job := by
  unfold Timeout.startWith
  rw [h.isArmed]
  cases due? with
  | none => exact Or.inr ⟨rfl, rfl⟩
  | some timer => exact Or.inl ⟨rfl, rfl⟩

/-- Restarting arms it even while it is pending. -/
theorem Tended.restart (h : t.Tended timers due?) (job : J) :
    (t.enabled = false ∧ t.restart timers job = (.ok false, t, timers)) ∨
      t.enabled = true ∧ ∃ left : TimedTimers J, left.clock = timers.clock ∧
        Tended { t with current? := none } left none ∧
        t.restart timers job = Timeout.arm { t with current? := none } left job := by
  obtain ⟨left, hstop, hclock, hleft⟩ := h.stop
  unfold Timeout.restart
  rw [hstop]
  by_cases henabled : t.enabled = true
  · right
    refine ⟨henabled, left, hclock, hleft, ?_⟩
    simp [henabled]
  · left
    rw [Bool.not_eq_true] at henabled
    exact ⟨henabled, by simp [henabled]⟩

theorem Tended.fst_start (h : t.Tended timers due?) (job : J) : (t.start timers job).1 =
    if t.enabled = true ∧ due? = none then settled (timers.clock + t.duration.nanos)
    else .ok false := by
  rcases h.start job with ⟨hrefused, hstart⟩ | ⟨henabled, rfl, hstart⟩
  · rw [hstart, if_neg]
    rintro ⟨henabled, rfl⟩
    simp [henabled] at hrefused
  · rw [hstart, h.fst_arm, if_pos ⟨henabled, rfl⟩]

theorem Tended.fst_startWith (h : t.Tended timers due?) (duration : Duration) (job : J) :
    (t.startWith duration timers job).1 =
      if t.enabled = true ∧ due? = none then settled (timers.clock + duration.nanos)
      else .ok false := by
  rcases h.startWith duration job with ⟨hdue, hstart⟩ | ⟨rfl, hstart⟩
  · rw [hstart, if_neg]
    rintro ⟨-, rfl⟩
    cases hdue
  · have hnext : Tended { t with duration := duration } timers none := h.congr rfl
    rw [hstart, hnext.fst_start]

theorem Tended.fst_restart (h : t.Tended timers due?) (job : J) : (t.restart timers job).1 =
    if t.enabled = true then settled (timers.clock + t.duration.nanos) else .ok false := by
  rcases h.restart job with ⟨hdisabled, hrestart⟩ | ⟨henabled, left, hclock, hleft, hrestart⟩
  · rw [hrestart, hdisabled]
    rfl
  · rw [hrestart, hleft.fst_arm, hclock, if_pos henabled]

/-- Time runs the job of the pending timer at its deadline, and nothing before. -/
theorem Tended.advance (h : t.Tended timers due?) (nanos : Nat) :
    ∃ later : TimedTimers J, later.clock = timers.clock + nanos ∧
      ((∃ timer, due? = some timer ∧ timer.1 ≤ timers.clock + nanos ∧
        timers.advance (timers.clock + nanos) = ([timer], later) ∧ t.Tended later none) ∨
      (∀ timer, due? = some timer → timers.clock + nanos < timer.1) ∧
        timers.advance (timers.clock + nanos) = ([], later) ∧ t.Tended later due?) := by
  obtain ⟨acts, hreflects, hrunning, honly, harmed⟩ := h
  obtain ⟨hlater, ids, hout, hsorted, hids⟩ := hreflects.advance nanos
  generalize timers.advance (timers.clock + nanos) = passed at hlater hout ⊢
  obtain ⟨ran, later⟩ := passed
  have hclock : later.clock = timers.clock + nanos := by
    rw [hlater.clock, elapsed_concat, hreflects.clock]
    rfl
  have hstill : .shutdown ∉ acts ++ [.advance nanos] := by simpa using hrunning
  rw [← hreflects.clock] at hids
  have hunique : ∀ i j, Pending acts i → Pending acts j → i = j := fun i j hi hj =>
    Option.some.inj ((honly i hi).1.symm.trans (honly j hj).1)
  refine ⟨later, hclock, ?_⟩
  by_cases hdue : ∃ timer, due? = some timer ∧ timer.1 ≤ timers.clock + nanos
  · left
    obtain ⟨timer, htimer, hle⟩ := hdue
    obtain ⟨id, hcurrent, hpending, hset⟩ := harmed timer htimer
    have hsole : ids = [id] := by
      have hmem : id ∈ ids := (hids id).mpr ⟨hrunning, hpending, timer, hset, hle⟩
      have hall : ∀ other ∈ ids, other = id := fun other hother =>
        hunique other id ((hids other).mp hother).2.1 hpending
      have hnodup := nodup_of_before hsorted
      rw [List.eq_replicate_of_mem hall, List.nodup_replicate] at hnodup
      have hlength := List.length_pos_of_mem hmem
      change ids = List.replicate 1 id
      exact List.eq_replicate_iff.mpr ⟨by omega, hall⟩
    rw [hsole, List.map_singleton, hset] at hout
    obtain ⟨first, rfl, hfirst⟩ := List.map_eq_singleton_iff.mp hout
    cases hfirst
    refine ⟨timer, htimer, hle, rfl, _, hlater, hstill, fun other hother => ?_, by simp⟩
    obtain ⟨hother, -, hahead⟩ := pending_advance.mp hother
    cases hunique other id hother hpending
    have hlt := hahead timer hset
    rw [← hreflects.clock] at hlt
    omega
  · right
    have hahead : ∀ timer, due? = some timer → timers.clock + nanos < timer.1 := by
      intro timer htimer
      by_contra hle
      exact hdue ⟨timer, htimer, by omega⟩
    have hnone : ids = [] := by
      rw [List.eq_nil_iff_forall_not_mem]
      intro id hid
      obtain ⟨-, hpending, other, hother, hle⟩ := (hids id).mp hid
      obtain ⟨timer, htimer⟩ := Option.isSome_iff_exists.mp (honly id hpending).2
      obtain ⟨_, -, hsame, hset⟩ := harmed timer htimer
      cases hunique _ id hsame hpending
      rw [hset] at hother
      cases hother
      have hlt := hahead _ htimer
      omega
    rw [hnone, List.map_nil, List.map_eq_nil_iff] at hout
    subst hout
    refine ⟨hahead, rfl, _, hlater, hstill, fun id hid => honly id (pending_advance.mp hid).1, ?_⟩
    intro timer htimer
    obtain ⟨id, hcurrent, hpending, hset⟩ := harmed timer htimer
    refine ⟨id, hcurrent, pending_advance.mpr ⟨hpending, hrunning, ?_⟩, ?_⟩
    · intro other hother
      rw [hset] at hother
      cases hother
      rw [← hreflects.clock]
      exact hahead timer htimer
    · rw [scheduled_advance]
      exact hset

end Timeout

end ChatCommands
