import ChatCommands.Proofs.Waiter.Interleaving

/-! # The jobs of those who wait

The timers of a waiter are timers like all others. Each listener has one at most, which is set in
the step that enters the listener and whose job runs at most once.
-/

namespace ChatCommands

open Relation WaiterEvent

namespace TimerHistory

variable {K : Type}

/-- Some timers are cancelled one after the other. -/
theorem reaches_cancel_all (t : TimerHistory K) (ids : List Nat) :
    ∃ answers, ReflTransGen Step t { t with
      timers := (ids.foldl (fun timers id => (timers.cancel id).2)
        (⟨t.clock, t.timers⟩ : TimedTimers (Nat × K))).timers
      answers := answers } := by
  induction ids generalizing t with
  | nil => exact ⟨t.answers, .refl⟩
  | cons id ids ih =>
    obtain ⟨answers, hrest⟩ := ih { t with
      timers := (t.timers.cancel id).2
      answers := t.answers ++ [(id, (t.timers.cancel id).1)] }
    exact ⟨answers, .head (.cancel t id) hrest⟩

/-- The jobs of timers run at most once. -/
theorem Reachable.ran_nodup {t : TimerHistory K} (hr : t.Reachable) :
    (t.ran.map Prod.fst).Nodup := by
  have hends := hr.recorded
  have hover : (t.handovers.map fun handover => handover.2.1).Nodup := by
    rw [List.nodup_iff_count_le_one]
    intro id
    have hfired := hends.fired id
    rw [handedOver] at hfired
    rw [List.count, List.countP_map]
    exact Nat.le_trans (Nat.le_of_eq hfired) (Bool.toNat_le _)
  have hall : ((t.timers.handed ++ t.ran).map Prod.fst).Nodup := by
    rw [(hends.handed.map Prod.fst).nodup_iff, List.map_map]
    exact hover
  rw [List.map_append] at hall
  exact (List.nodup_append.mp hall).2.1

theorem Reachable.made_of_ran {t : TimerHistory K} (hr : t.Reachable) {id : Nat} {task : K}
    (hran : (id, task) ∈ t.ran) : ∃ deadline, t.made[id]? = some (deadline, id, task) := by
  have hends := hr.recorded
  have hmem := hends.handed.subset (List.mem_append_right _ hran)
  obtain ⟨⟨now, _⟩, hover, rfl⟩ := List.mem_map.mp hmem
  obtain ⟨deadline, -, hmade⟩ := hends.due now id task hover
  exact ⟨deadline, hmade⟩

end TimerHistory

namespace WaiterHistory

variable {E : Type} {h h' : WaiterHistory E} {t : TimerHistory Nat}

/-- The timers of a waiter have a history of their own, in which each is set for one listener. -/
structure Times (h : WaiterHistory E) (t : TimerHistory Nat) : Prop where
  reachable : t.Reachable
  clock : t.clock = h.clock
  timers : t.timers = h.timers
  ran : t.ran.map Prod.snd = h.log.filterMap expired?
  known : ∀ timer ∈ t.made, timer.2.2 < h.waiter.nextId
  apart : (t.made.map fun timer => timer.2.2).Nodup
  handle : ∀ entry ∈ h.waiter.listeners, ∀ timer, entry.2.timer? = some timer →
    ∃ deadline, t.made[timer]? = some (deadline, timer, entry.1)

theorem times_start (defaultTimeout : Duration) :
    Times ({ waiter := { defaultTimeout := defaultTimeout } } : WaiterHistory E) {} where
  reachable := .refl
  clock := rfl
  timers := rfl
  ran := rfl
  known := by simp
  apart := .nil
  handle := by simp

/-- A step of the task is one of the timers' own history, and the waiter knows nothing of it. -/
theorem Times.task (ht : h.Times t) {s : Timers (Nat × Nat)}
    (hs : Timers.TaskStep h.clock h.timers s) : ∃ t', Times { h with timers := s } t' := by
  rw [← ht.clock, ← ht.timers] at hs
  obtain ⟨t', hstep, htimers, hclock, hran, hmade⟩ := t.exists_step_of_task hs
  refine ⟨t', ht.reachable.tail hstep, hclock.trans ht.clock, htimers, ?_, ?_, ?_, ?_⟩
  · exact hran ▸ ht.ran
  · exact hmade ▸ ht.known
  · exact hmade ▸ ht.apart
  · exact hmade ▸ ht.handle

/-- A timer that can be set is the next one that is made. -/
theorem Times.schedule (ht : h.Times t) {delay timer id : Nat} {later : TimedTimers (Nat × Nat)}
    (hset : h.timed.schedule delay (h.timers.arms.length, id) = .ok (timer, later)) :
    timer = t.made.length ∧ ReflTransGen TimerHistory.Step t { t with
      timers := later.timers
      made := t.made ++ [(t.clock + delay, timer, id)] } := by
  unfold timed TimedTimers.schedule at hset
  rw [← ht.timers, ← ht.clock] at hset
  simp only at hset
  cases hs : t.timers.schedule t.clock delay (t.timers.arms.length, id) with
  | error e =>
    rw [hs] at hset
    cases hset
  | ok set =>
    rw [hs] at hset
    cases hset
    refine ⟨?_, t.reaches_schedule hs⟩
    rw [← ht.reachable.kept.length]
    obtain ⟨-, herror⟩ | ⟨-, -, hok⟩ | ⟨-, -, hok⟩ :=
      t.timers.schedule_cases t.clock delay (t.timers.arms.length, id)
    · rw [herror] at hs
      cases hs
    · cases hok.symm.trans hs
      rfl
    · cases hok.symm.trans hs
      rfl

theorem Times.wait (ht : h.Times t) (wants : E → Bool) (timeout? : Option Duration) :
    ∃ t', (h.wait wants timeout?).Times t' := by
  unfold WaiterHistory.wait
  rcases h.waiter.wait_cases wants timeout? h.timed fun id => (h.timers.arms.length, id) with
    ⟨timer, later, hset, hwait⟩ | ⟨e, hwait⟩
  · obtain ⟨rfl, hreaches⟩ := ht.schedule hset
    rw [hwait]
    refine ⟨_, ht.reachable.trans hreaches, ht.clock, rfl, ?_, ?_, ?_, ?_⟩
    · rw [List.filterMap_append]
      exact ht.ran.trans (List.append_nil _).symm
    · intro timer htimer
      rcases List.mem_append.mp htimer with htimer | htimer
      · exact Nat.lt_succ_of_lt (ht.known timer htimer)
      · cases List.mem_singleton.mp htimer
        exact Nat.lt_succ_self _
    · rw [List.map_append, List.nodup_append]
      refine ⟨ht.apart, List.nodup_singleton _, ?_⟩
      rintro id hid other hother rfl
      obtain ⟨timer, htimer, rfl⟩ := List.mem_map.mp hid
      have hlt := ht.known timer htimer
      rw [List.mem_singleton.mp hother] at hlt
      exact Nat.lt_irrefl _ hlt
    · intro entry hentry timer htimer
      rcases List.mem_append.mp hentry with hentry | hentry
      · obtain ⟨deadline, hmade⟩ := ht.handle entry hentry timer htimer
        exact ⟨deadline, getElem?_append_of_eq_some hmade _⟩
      · cases List.mem_singleton.mp hentry
        cases htimer
        exact ⟨_, List.getElem?_concat_length⟩
  · rw [hwait]
    refine ⟨t, ht.reachable, ht.clock, ht.timers, ?_, ?_, ht.apart, ?_⟩
    · rw [ht.ran, List.filterMap_append]
      exact (List.append_nil _).symm
    · intro timer htimer
      exact Nat.lt_succ_of_lt (ht.known timer htimer)
    · intro entry hentry timer htimer
      rcases List.mem_append.mp hentry with hentry | hentry
      · exact ht.handle entry hentry timer htimer
      · cases List.mem_singleton.mp hentry
        cases htimer

theorem Times.offer (ht : h.Times t) (event : E) : ∃ t', (h.offer event).Times t' := by
  unfold WaiterHistory.offer
  rw [h.waiter.offer_eq]
  obtain ⟨answers, hcancelled⟩ := t.reaches_cancel_all
    ((h.waiter.listeners.filter (·.2.wants event)).filterMap (·.2.timer?))
  refine ⟨_, ht.reachable.trans hcancelled, ht.clock, ?_, ?_, ht.known, ht.apart, ?_⟩
  · rw [ht.clock, ht.timers]
    rfl
  · rw [List.filterMap_append]
    exact ht.ran.trans (List.append_nil _).symm
  · intro entry hentry
    exact ht.handle entry (List.mem_of_mem_filter hentry)

theorem Times.run (ht : h.Times t) {position timer id : Nat} {left : Timers (Nat × Nat)}
    (htake : h.timers.takeHanded? position = some ((timer, id), left)) :
    ∃ t', ({ h with timers := left }.expire id).Times t' := by
  unfold WaiterHistory.expire
  rw [← ht.timers] at htake
  refine ⟨_, ht.reachable.tail (.run position htake), ht.clock, rfl, ?_, ht.known, ht.apart, ?_⟩
  · rw [List.map_append, ht.ran, List.filterMap_append]
    rfl
  · intro entry hentry
    exact ht.handle entry (List.mem_of_mem_filter hentry)

theorem Times.step (ht : h.Times t) (hs : h.Step h') : ∃ t', h'.Times t' := by
  cases hs with
  | tick nanos =>
    have hclock : t.clock + nanos = h.clock + nanos := by rw [ht.clock]
    exact ⟨_, ht.reachable.tail (.tick t nanos), hclock, ht.timers, ht.ran, ht.known, ht.apart,
      ht.handle⟩
  | wait wants timeout? => exact ht.wait wants timeout?
  | offer event => exact ht.offer event
  | task hs => exact ht.task hs
  | run position htake => exact ht.run htake

theorem Reachable.exists_times (hr : h.Reachable) : ∃ t, h.Times t := by
  obtain ⟨defaultTimeout, hr⟩ := hr
  induction hr with
  | refl => exact ⟨_, times_start defaultTimeout⟩
  | tail _ hs ih =>
    obtain ⟨t, ht⟩ := ih
    exact ht.step hs

/-- The job of each listener's timer runs at most once. -/
theorem Times.expired_once (ht : h.Times t) : (h.log.filterMap expired?).Nodup := by
  rw [← ht.ran]
  refine List.Nodup.map_on ?_ (List.Nodup.of_map _ ht.reachable.ran_nodup)
  rintro ⟨timer, id⟩ hone ⟨other, _⟩ hother rfl
  obtain ⟨deadline, hmade⟩ := ht.reachable.made_of_ran hone
  obtain ⟨deadline', hmade'⟩ := ht.reachable.made_of_ran hother
  have hsame := List.inj_on_of_nodup_map ht.apart (List.mem_of_getElem? hmade)
    (List.mem_of_getElem? hmade') rfl
  cases hsame
  rfl

/-- No two listeners have one timer. -/
theorem Times.handle_unique (ht : h.Times t) {one other : Nat × Listener E}
    (hone : one ∈ h.waiter.listeners) (hother : other ∈ h.waiter.listeners) {timer : Nat}
    (htimer : one.2.timer? = some timer) (htimer' : other.2.timer? = some timer) :
    one.1 = other.1 := by
  obtain ⟨deadline, hmade⟩ := ht.handle one hone timer htimer
  obtain ⟨deadline', hmade'⟩ := ht.handle other hother timer htimer'
  have hsame := Option.some.inj (hmade.symm.trans hmade')
  exact congrArg (fun made => made.2.2) hsame

end WaiterHistory

end ChatCommands
