import ChatCommands.Proofs.Timer.Told
import ChatCommands.Proofs.Waiter.Delivery

/-! # Listeners that wait in vain

A task that is told to stop cancels the timers it has, and those that are set later are cancelled on
the spot. Nobody tells the listeners: they wait on, for an event only.
-/

namespace ChatCommands

open Relation WaiterEvent WaiterLog
open scoped List

namespace Timers

variable {J : Type} {t s : Timers J} {timers : List (Nat × J)} {others : List Nat} {clock : Nat}

theorem TaskStep.isRunning (h : TaskStep clock t s) : t.isRunning = true := by
  cases h with
  | receive hp _ | wake hp _ | fire hp _ | rest _ hp _ _ => rw [Timers.isRunning, hp]

/-- As long as nobody tells it to, the task does not stop. -/
theorem TaskStep.told (h : TaskStep clock t s) : s.Told ↔ t.Told := by
  have hrunning := h.isRunning
  cases h with
  | receive hp hreceive => exact (goes_receive? hp hreceive).told
  | wake hp hfire | fire hp hfire => exact (goes_fire? hrunning (by simp [hp]) hfire).told
  | rest keep hp _ _ => simp [Told, hp, Timers.isRunning]

theorem Accounted.taskStep (ha : t.Accounted others) (ht : t.Tracks timers)
    (h : TaskStep clock t s) : s.Accounted others := by
  cases h with
  | receive _ hreceive =>
    obtain ⟨-, hkept, harms, -⟩ := ht.receive? hreceive
    exact ha.congr harms hkept
  | wake _ hfire | fire _ hfire => exact ha.fire? ht.lists hfire
  | rest keep _ _ hkeep => exact ha.prune hkeep

/-- A timer that was cancelled stays cancelled. -/
theorem arm?_set_of_cancelled {arm : Arm} {id timer : Nat} (hp : t.isPending id = true)
    (hs : s.arms = t.arms.set id arm) (h : t.arm? timer = some .cancelled) :
    s.arm? timer = some .cancelled := by
  rw [arm?, hs, arm?_set hp, if_neg, h]
  rintro rfl
  rw [isPending_iff, h] at hp
  cases hp

theorem arm?_turn_of_cancelled {arm : Arm} {timer : Nat} (id : Nat)
    (h : t.arm? timer = some .cancelled) : (t.turn id arm).2.arm? timer = some .cancelled := by
  rcases t.turn_cases id arm with ⟨hp, hturn⟩ | ⟨-, hturn⟩
  · exact arm?_set_of_cancelled hp (by rw [hturn]) h
  · rwa [hturn]

end Timers

namespace WaiterHistory

variable {E : Type} {h h' : WaiterHistory E} {entry : Nat × Listener E}

/-- What may go on when the task can also be told to stop. -/
inductive Move : WaiterHistory E → WaiterHistory E → Prop
  | step {h h' : WaiterHistory E} : h.Step h' → Move h h'
  | shutdown (h : WaiterHistory E) : Move h { h with timers := h.timers.shutdown }
  | close {h : WaiterHistory E} : h.timers.phase = .stopping →
      Move h { h with timers := h.timers.close }
  /-- The task cancels one of the timers that it has, in whatever order these are. -/
  | drain {h : WaiterHistory E} {jobs : List (Nat × Nat × Nat)} : h.timers.phase = .draining →
      jobs ~ h.timers.table.jobs → Move h { h with
        timers := Timers.drain { h.timers with table := { h.timers.table with jobs := jobs } } }

/-- The history of a new waiter comes about by such moves in some order. -/
def Arises (h : WaiterHistory E) : Prop :=
  ∃ defaultTimeout, ReflTransGen Move { waiter := { defaultTimeout := defaultTimeout } } h

theorem Reachable.arises (hr : h.Reachable) : h.Arises := by
  obtain ⟨defaultTimeout, hr⟩ := hr
  exact ⟨defaultTimeout, hr.lift id fun _ _ => .step⟩

theorem Times.move {t : TimerHistory Nat} (ht : h.Times t) (hm : h.Move h') :
    ∃ t', h'.Times t' := by
  have hown {later : TimerHistory Nat} (timers : Timers (Nat × Nat))
      (hs : t.Step later) (hlater : later = { t with timers := timers }) :
      ∃ t', Times { h with timers := timers } t' := by
    subst hlater
    exact ⟨_, ht.reachable.tail hs, ht.clock, rfl, ht.ran, ht.known, ht.apart, ht.handle⟩
  cases hm with
  | step hs => exact ht.step hs
  | shutdown => exact hown _ (.shutdown t) (by rw [ht.timers])
  | close hp => exact hown _ (.close (ht.timers ▸ hp)) (by rw [ht.timers])
  | drain hp hjobs => exact hown _ (.drain (ht.timers ▸ hp) (ht.timers ▸ hjobs)) (by rw [ht.timers])

/-- A call sets a timer unless its deadline lies past the horizon. If the task takes no more
messages, the timer is cancelled on the spot. -/
theorem timers_wait (h : WaiterHistory E) (wants : E → Bool) (timeout? : Option Duration) :
    ∃ timer?, (h.wait wants timeout?).waiter = h.waiter.enter ⟨wants, timer?⟩ ∧
      ((timer? = none ∧ (h.wait wants timeout?).timers = h.timers) ∨
      timer? = some h.timers.arms.length ∧
        ((h.timers.isRunning = true ∧ ∃ deadline job,
          (h.wait wants timeout?).timers = { h.timers with
            arms := h.timers.arms ++ [.armed]
            inbox := h.timers.inbox ++ [.schedule h.timers.arms.length deadline job] }) ∨
          h.timers.isRunning = false ∧ (h.wait wants timeout?).timers =
            { h.timers with arms := h.timers.arms ++ [.cancelled] })) := by
  unfold WaiterHistory.wait EventWaiter.wait TimedTimers.schedule
  rcases h.timers.schedule_cases h.clock (timeout?.getD h.waiter.defaultTimeout).nanos
    (h.timers.arms.length, h.waiter.nextId) with
    ⟨-, hset⟩ | ⟨-, hrunning, hset⟩ | ⟨-, hstopped, hset⟩
  · simp only [timed, hset]
    exact ⟨none, rfl, Or.inl ⟨rfl, rfl⟩⟩
  · simp only [timed, hset]
    exact ⟨_, rfl, Or.inr ⟨rfl, Or.inl ⟨hrunning, _, _, rfl⟩⟩⟩
  · simp only [timed, hset]
    exact ⟨_, rfl, Or.inr ⟨rfl, Or.inr ⟨hstopped, rfl⟩⟩⟩

theorem grows_wait (h : WaiterHistory E) (wants : E → Bool) (timeout? : Option Duration) :
    h.timers.Grows (h.wait wants timeout?).timers := by
  obtain ⟨timer?, -, ⟨-, hsame⟩ | ⟨-, ⟨-, deadline, job, hset⟩ | ⟨-, hset⟩⟩⟩ :=
    h.timers_wait wants timeout?
  · rw [hsame]
    exact Timers.grows_refl _
  · rw [hset]
    exact ⟨rfl, by simp, by simp⟩
  · rw [hset]
    exact ⟨rfl, Iff.rfl, by simp⟩

/-- A call leaves the timers that there are as they are. -/
theorem arm?_wait {timer : Nat} (hlt : timer < h.timers.arms.length) (wants : E → Bool)
    (timeout? : Option Duration) :
    (h.wait wants timeout?).timers.arm? timer = h.timers.arm? timer := by
  obtain ⟨timer?, -, ⟨-, hsame⟩ | ⟨-, ⟨-, deadline, job, hset⟩ | ⟨-, hset⟩⟩⟩ :=
    h.timers_wait wants timeout?
  · rw [hsame]
  · rw [hset]
    exact List.getElem?_append_left hlt
  · rw [hset]
    exact List.getElem?_append_left hlt

/-- No timer of a listener is cancelled as long as the task takes messages, and the job of none has
run. -/
structure Waits (h : WaiterHistory E) : Prop where
  times : ∃ t, h.Times t
  kept : h.Kept
  accounted : h.timers.Accounted []
  unexpired : ∀ entry ∈ h.waiter.listeners, entry.1 ∉ h.log.filterMap expired?
  running : ∀ entry ∈ h.waiter.listeners, ∀ timer, entry.2.timer? = some timer →
    h.timers.arm? timer = some .cancelled → h.timers.isRunning = false

theorem waits_start (defaultTimeout : Duration) :
    Waits ({ waiter := { defaultTimeout := defaultTimeout } } : WaiterHistory E) where
  times := ⟨_, times_start defaultTimeout⟩
  kept := ⟨answers_start defaultTimeout, by simp⟩
  accounted := by simp [Timers.Accounted, Timers.isPending, Timers.arm?]
  unexpired := by simp
  running := by simp

theorem Times.lt_length {t : TimerHistory Nat} (ht : h.Times t)
    (hentry : entry ∈ h.waiter.listeners) {timer : Nat} (htimer : entry.2.timer? = some timer) :
    timer < h.timers.arms.length := by
  obtain ⟨deadline, hmade⟩ := ht.handle entry hentry timer htimer
  rw [← ht.timers, ht.reachable.kept.length]
  exact (List.getElem?_eq_some_iff.mp hmade).1

theorem Times.lt_nextId_of_expired {t : TimerHistory Nat} (ht : h.Times t) {id : Nat}
    (hid : id ∈ h.log.filterMap expired?) : id < h.waiter.nextId := by
  rw [← ht.ran] at hid
  obtain ⟨⟨timer, _⟩, hran, rfl⟩ := List.mem_map.mp hid
  obtain ⟨deadline, hmade⟩ := ht.reachable.made_of_ran hran
  exact ht.known _ (List.mem_of_getElem? hmade)

theorem Waits.wait (hw : h.Waits) (wants : E → Bool) (timeout? : Option Duration) :
    (h.wait wants timeout?).Waits := by
  obtain ⟨t, ht⟩ := hw.times
  obtain ⟨timer?, hwaiter, htimers⟩ := h.timers_wait wants timeout?
  have hlog : (h.wait wants timeout?).log.filterMap expired? = h.log.filterMap expired? := by
    rw [WaiterHistory.wait, List.filterMap_append]
    exact List.append_nil _
  constructor
  case times => exact ht.wait wants timeout?
  case kept => exact hw.kept.wait wants timeout?
  case accounted =>
    rcases htimers with ⟨-, hsame⟩ | ⟨-, ⟨-, deadline, job, hset⟩ | ⟨-, hset⟩⟩
    · rw [hsame]
      exact hw.accounted
    · rw [hset]
      exact hw.accounted.schedule rfl rfl rfl
    · rw [hset]
      intro id hid
      rcases (Timers.isPending_concat rfl id).mp hid with hid | ⟨-, hid⟩
      · exact hw.accounted id hid
      · cases hid
  case unexpired =>
    intro entry hentry
    rw [hwaiter] at hentry
    rw [hlog]
    rcases List.mem_append.mp hentry with hentry | hentry
    · exact hw.unexpired entry hentry
    · cases List.mem_singleton.mp hentry
      exact fun hid => Nat.lt_irrefl _ (ht.lt_nextId_of_expired hid)
  case running =>
    intro entry hentry timer htimer hcancelled
    rw [hwaiter] at hentry
    rcases List.mem_append.mp hentry with hentry | hentry
    · rw [arm?_wait (ht.lt_length hentry htimer)] at hcancelled
      rw [(h.grows_wait wants timeout?).isRunning]
      exact hw.running entry hentry timer htimer hcancelled
    · cases List.mem_singleton.mp hentry
      rcases htimers with ⟨hnone, -⟩ | ⟨hsome, ⟨-, deadline, job, hset⟩ | ⟨hstopped, hset⟩⟩
      · cases hnone.symm.trans htimer
      · cases hsome.symm.trans htimer
        rw [hset, Timers.arm?, List.getElem?_concat_length] at hcancelled
        cases hcancelled
      · rw [hset]
        exact hstopped

theorem timers_offer (h : WaiterHistory E) (event : E) : (h.offer event).timers =
    (((h.waiter.listeners.filter (·.2.wants event)).filterMap (·.2.timer?)).foldl
      (fun timers id => (timers.cancel id).2) h.timed).timers := by
  rw [WaiterHistory.offer, h.waiter.offer_eq]

/-- What holds of timers and is kept by cancelling one is kept by an offer. -/
theorem offer_induction {Q : Timers (Nat × Nat) → Prop} (event : E)
    (hcancel : ∀ t id, Q t → Q (t.cancel id).2) (h : WaiterHistory E) (hq : Q h.timers) :
    Q (h.offer event).timers := by
  rw [timers_offer]
  generalize (h.waiter.listeners.filter (·.2.wants event)).filterMap (·.2.timer?) = ids
  have hall (timers : TimedTimers (Nat × Nat)) (hq : Q timers.timers) :
      Q (ids.foldl (fun timers id => (timers.cancel id).2) timers).timers := by
    induction ids generalizing timers with
    | nil => exact hq
    | cons id ids ih => exact ih _ (hcancel _ id hq)
  exact hall h.timed hq

theorem mem_listeners_offer {event : E} : entry ∈ (h.offer event).waiter.listeners ↔
    entry ∈ h.waiter.listeners ∧ entry.2.wants event = false := by
  rw [WaiterHistory.offer, h.waiter.offer_eq]
  simp

theorem Waits.offer (hw : h.Waits) (event : E) : (h.offer event).Waits := by
  obtain ⟨t, ht⟩ := hw.times
  constructor
  case times => exact ht.offer event
  case kept => exact hw.kept.offer event
  case accounted => exact offer_induction event (fun _ id ha => ha.turn id) h hw.accounted
  case unexpired =>
    intro entry hentry
    have hlog : (h.offer event).log.filterMap expired? = h.log.filterMap expired? := by
      rw [WaiterHistory.offer, List.filterMap_append]
      exact List.append_nil _
    rw [hlog]
    exact hw.unexpired entry (mem_listeners_offer.mp hentry).1
  case running =>
    intro entry hentry timer htimer hcancelled
    obtain ⟨hentry, hwants⟩ := mem_listeners_offer.mp hentry
    -- The timers that an offer cancels are those of the listeners that it completes.
    have hsame : (h.offer event).timers.arm? timer = h.timers.arm? timer := by
      rw [timers_offer]
      apply arm?_cancel_all
      intro hmem
      obtain ⟨other, hother, htimer'⟩ := List.mem_filterMap.mp hmem
      obtain ⟨hother, hwants'⟩ := List.mem_filter.mp hother
      cases hw.kept.answers.listener_unique hentry hother
        (ht.handle_unique hentry hother htimer htimer')
      cases hwants.symm.trans hwants'
    rw [hsame] at hcancelled
    have hstopped := hw.running entry hentry timer htimer hcancelled
    exact offer_induction event (fun u id hu => (u.grows_cancel id).isRunning.trans hu) h hstopped

/-- The task fires a timer or leaves it as it is. -/
theorem Waits.task (hw : h.Waits) {s : Timers (Nat × Nat)}
    (hs : Timers.TaskStep h.clock h.timers s) : Waits { h with timers := s } := by
  obtain ⟨t, ht⟩ := hw.times
  have htracks := ht.reachable.kept.tracks (by rw [ht.timers]; exact hs.isRunning)
  rw [ht.timers] at htracks
  refine ⟨ht.task hs, ⟨hw.kept.answers, hw.kept.counts⟩, hw.accounted.taskStep htracks hs,
    hw.unexpired, fun entry hentry timer htimer hcancelled => ?_⟩
  have hbefore : h.timers.arm? timer = some .cancelled := by
    rcases hs.ends with ⟨harms, -⟩ | ⟨id, job, hp, harms, -⟩
    · rwa [Timers.arm?, harms] at hcancelled
    · rw [Timers.arm?, harms, Timers.arm?_set hp] at hcancelled
      split at hcancelled
      · cases hcancelled
      · exact hcancelled
  cases hs.isRunning.symm.trans (hw.running entry hentry timer htimer hbefore)

theorem takeHanded?_eq_some {J : Type} {t left : Timers J} {position : Nat} {job : J}
    (h : t.takeHanded? position = some (job, left)) :
    job ∈ t.handed ∧ left = { t with handed := t.handed.eraseIdx position } := by
  obtain ⟨found, hfound, heq⟩ := Option.map_eq_some_iff.mp h
  cases heq
  exact ⟨List.mem_of_getElem? hfound, rfl⟩

theorem Waits.run (hw : h.Waits) {position timer id : Nat} {left : Timers (Nat × Nat)}
    (htake : h.timers.takeHanded? position = some ((timer, id), left)) :
    ({ h with timers := left }.expire id).Waits := by
  obtain ⟨t, ht⟩ := hw.times
  obtain ⟨-, rfl⟩ := takeHanded?_eq_some htake
  refine ⟨ht.run htake, hw.kept.expire id _, hw.accounted.congr rfl rfl, fun entry hentry => ?_,
    fun entry hentry => ?_⟩
  · obtain ⟨hentry, hne⟩ := (h.waiter.mem_listeners_expire).mp hentry
    rw [WaiterHistory.expire, List.filterMap_append, List.mem_append]
    rintro (hid | hid)
    · exact hw.unexpired entry hentry hid
    · exact hne (List.mem_singleton.mp hid)
  · obtain ⟨hentry, -⟩ := (h.waiter.mem_listeners_expire).mp hentry
    exact hw.running entry hentry

theorem Waits.step (hw : h.Waits) (hs : h.Step h') : h'.Waits := by
  cases hs with
  | tick nanos =>
    obtain ⟨t, ht⟩ := hw.times
    exact ⟨ht.step (.tick h nanos), hw.kept.step (.tick h nanos), hw.accounted, hw.unexpired,
      hw.running⟩
  | wait wants timeout? => exact hw.wait wants timeout?
  | offer event => exact hw.offer event
  | task hs => exact hw.task hs
  | run position htake => exact hw.run htake

/-- A task that stops may do what it will to the timers. -/
theorem Waits.stops (hw : h.Waits) {s : Timers (Nat × Nat)} (hm : h.Move { h with timers := s })
    (ha : s.Accounted []) (hstopped : s.isRunning = false) : Waits { h with timers := s } := by
  obtain ⟨t, ht⟩ := hw.times
  exact ⟨ht.move hm, ⟨hw.kept.answers, hw.kept.counts⟩, ha, hw.unexpired, fun _ _ _ _ _ => hstopped⟩

theorem Waits.move (hw : h.Waits) (hm : h.Move h') : h'.Waits := by
  cases hm with
  | step hs => exact hw.step hs
  | shutdown =>
    obtain ⟨t, ht⟩ := hw.times
    obtain ⟨harms, hphase, -⟩ := h.timers.shutdown_eq
    refine ⟨ht.move (.shutdown h), ⟨hw.kept.answers, hw.kept.counts⟩,
      hw.accounted.congr harms h.timers.kept_shutdown, hw.unexpired, ?_⟩
    intro entry hentry timer htimer hcancelled
    rw [Timers.arm?, harms] at hcancelled
    exact (Timers.isRunning_congr hphase).trans (hw.running entry hentry timer htimer hcancelled)
  | close hp => exact hw.stops (.close hp) (hw.accounted.congr rfl rfl) rfl
  | @drain jobs hp hjobs =>
    refine hw.stops (.drain hp hjobs) (Timers.Accounted.drain fun id hid => ?_)
      (Timers.isRunning_drain hp)
    have hkept : Timers.kept { h.timers with table := { h.timers.table with jobs := jobs } } ~
        h.timers.kept := (hjobs.map Prod.fst).append_right _
    exact (hw.accounted id hid).imp_left hkept.mem_iff.mpr

theorem Arises.waits (hr : h.Arises) : h.Waits := by
  obtain ⟨defaultTimeout, hr⟩ := hr
  induction hr with
  | refl => exact waits_start defaultTimeout
  | tail _ hm ih => exact ih.move hm

/-! ## What becomes of a listener -/

variable {t : TimerHistory Nat} {timer id : Nat}

/-- The job of a timer is on its way or has run exactly if the timer has fired. -/
theorem Times.hasFired_iff (ht : h.Times t) : h.timers.hasFired timer = true ↔
    ∃ id, (timer, id) ∈ h.timers.handed ++ t.ran := by
  have hrecorded := ht.reachable.recorded
  have hcount : t.handedOver timer = (h.timers.hasFired timer).toNat := by
    rw [hrecorded.fired, ht.timers]
  have hover : h.timers.hasFired timer = true ↔ 0 < t.handedOver timer := by
    rw [hcount]
    cases h.timers.hasFired timer <;> simp
  rw [hover, TimerHistory.handedOver, List.countP_pos_iff, ← ht.timers]
  simp only [hrecorded.handed.mem_iff, List.mem_map, beq_iff_eq]
  constructor
  · rintro ⟨⟨now, _, id⟩, hmem, rfl⟩
    exact ⟨id, _, hmem, rfl⟩
  · rintro ⟨id, handover, hmem, heq⟩
    exact ⟨handover, hmem, congrArg Prod.fst heq⟩

theorem Times.made_of_handed (ht : h.Times t) (hmem : (timer, id) ∈ h.timers.handed ++ t.ran) :
    ∃ deadline, t.made[timer]? = some (deadline, timer, id) := by
  have hrecorded := ht.reachable.recorded
  rw [← ht.timers, hrecorded.handed.mem_iff] at hmem
  obtain ⟨⟨now, _⟩, hover, rfl⟩ := List.mem_map.mp hmem
  obtain ⟨deadline, -, hmade⟩ := hrecorded.due now timer id hover
  exact ⟨deadline, hmade⟩

/-- The job of a listener's timer is that of no other listener, and of no other timer. -/
theorem Times.handed_iff (ht : h.Times t) (hentry : entry ∈ h.waiter.listeners)
    (htimer : entry.2.timer? = some timer) {other : Nat}
    (hmem : (other, id) ∈ h.timers.handed ++ t.ran) : other = timer ↔ id = entry.1 := by
  obtain ⟨deadline, hmade⟩ := ht.handle entry hentry timer htimer
  obtain ⟨deadline', hmade'⟩ := ht.made_of_handed hmem
  constructor
  · rintro rfl
    cases hmade.symm.trans hmade'
    rfl
  · rintro rfl
    cases List.inj_on_of_nodup_map ht.apart (List.mem_of_getElem? hmade)
      (List.mem_of_getElem? hmade') rfl
    rfl

/-- When the timer of a listener has fired, its job is still to run. -/
theorem Waits.handed_of_fired (hw : h.Waits) (hentry : entry ∈ h.waiter.listeners)
    (htimer : entry.2.timer? = some timer) (hfired : h.timers.hasFired timer = true) :
    (timer, entry.1) ∈ h.timers.handed := by
  obtain ⟨t, ht⟩ := hw.times
  obtain ⟨id, hmem⟩ := ht.hasFired_iff.mp hfired
  obtain rfl := (ht.handed_iff hentry htimer hmem).mp rfl
  apply (List.mem_append.mp hmem).resolve_right
  intro hran
  apply hw.unexpired entry hentry
  rw [← ht.ran]
  exact List.mem_map.mpr ⟨_, hran, rfl⟩

theorem Move.arm?_of_cancelled (hm : h.Move h')
    (hcancelled : h.timers.arm? timer = some .cancelled) :
    h'.timers.arm? timer = some .cancelled := by
  cases hm with
  | step hs =>
    cases hs with
    | tick nanos => exact hcancelled
    | wait wants timeout? =>
      rw [arm?_wait (List.getElem?_eq_some_iff.mp hcancelled).1]
      exact hcancelled
    | offer event =>
      exact offer_induction (Q := fun u => u.arm? timer = some .cancelled) event
        (fun _ id => Timers.arm?_turn_of_cancelled id) h hcancelled
    | task hs =>
      rcases hs.ends with ⟨harms, -⟩ | ⟨id, job, hp, harms, -⟩
      · rwa [Timers.arm?, harms]
      · exact Timers.arm?_set_of_cancelled hp harms hcancelled
    | run position htake =>
      obtain ⟨-, rfl⟩ := takeHanded?_eq_some htake
      exact hcancelled
  | shutdown =>
    rw [Timers.arm?, h.timers.shutdown_eq.1]
    exact hcancelled
  | close hp => exact hcancelled
  | drain hp hjobs =>
    rcases Timers.drain_cases _ with ⟨id, -, harms, -⟩ | ⟨-, harms, -⟩
    · rw [Timers.arm?, harms]
      exact Timers.arm?_turn_of_cancelled id hcancelled
    · rw [Timers.arm?, harms]
      exact hcancelled

/-- An event that the listener wants was offered. -/
def OffersWanted (entry : Nat × Listener E) (log : List (WaiterEvent E)) : Prop :=
  ∃ event ids, .offered event ids ∈ log ∧ entry.2.wants event = true

theorem Move.exists_log (hm : h.Move h') : ∃ more, h'.log = h.log ++ more := by
  have hstill : ∃ more, h.log = h.log ++ more := ⟨[], (List.append_nil _).symm⟩
  cases hm with
  | shutdown | close _ | drain _ _ => exact hstill
  | step hs =>
    cases hs with
    | tick _ | task _ => exact hstill
    | wait _ _ | offer _ | run _ _ => exact ⟨_, rfl⟩

/-- A listener whose timer was cancelled leaves with an event only. -/
theorem Waits.stays (hw : h.Waits) (hm : h.Move h') (hentry : entry ∈ h.waiter.listeners)
    (htimer : entry.2.timer? = some timer) (hcancelled : h.timers.arm? timer = some .cancelled) :
    ∃ more, h'.log = h.log ++ more ∧ (entry ∈ h'.waiter.listeners ∨ OffersWanted entry more) := by
  have hstill : ∃ more, h.log = h.log ++ more ∧
      (entry ∈ h.waiter.listeners ∨ OffersWanted entry more) :=
    ⟨[], (List.append_nil _).symm, Or.inl hentry⟩
  cases hm with
  | shutdown | close _ | drain _ _ => exact hstill
  | step hs =>
    cases hs with
    | tick _ | task _ => exact hstill
    | wait wants timeout? =>
      obtain ⟨timer?, hwaiter, -⟩ := h.timers_wait wants timeout?
      rw [hwaiter]
      exact ⟨_, rfl, Or.inl (List.mem_append_left _ hentry)⟩
    | offer event =>
      refine ⟨_, rfl, ?_⟩
      rw [mem_listeners_offer]
      cases hwants : entry.2.wants event with
      | false => exact Or.inl ⟨hentry, rfl⟩
      | true => exact Or.inr ⟨event, _, List.mem_cons_self, hwants⟩
    | @run position other id left htake =>
      refine ⟨_, rfl, Or.inl (h.waiter.mem_listeners_expire.mpr ⟨hentry, ?_⟩)⟩
      rintro rfl
      -- Its own job would have to be on its way, but its timer has not fired.
      obtain ⟨t, ht⟩ := hw.times
      have hmem := List.mem_append_left t.ran (takeHanded?_eq_some htake).1
      obtain rfl := (ht.handed_iff hentry htimer hmem).mpr rfl
      have hfired := ht.hasFired_iff.mpr ⟨_, hmem⟩
      rw [Timers.hasFired, hcancelled] at hfired
      cases hfired

theorem Waits.stays_long (hw : h.Waits) (hentry : entry ∈ h.waiter.listeners)
    (htimer : entry.2.timer? = some timer) (hcancelled : h.timers.arm? timer = some .cancelled)
    (hs : ReflTransGen Move h h') :
    ∃ more, h'.log = h.log ++ more ∧ (entry ∈ h'.waiter.listeners ∨ OffersWanted entry more) := by
  suffices hall : h'.Waits ∧ h'.timers.arm? timer = some .cancelled ∧ ∃ more,
      h'.log = h.log ++ more ∧ (entry ∈ h'.waiter.listeners ∨ OffersWanted entry more) from
    hall.2.2
  induction hs with
  | refl => exact ⟨hw, hcancelled, [], (List.append_nil _).symm, Or.inl hentry⟩
  | @tail middle last _ hm ih =>
    obtain ⟨hmiddle, hcancelled, more, hlog, hstays⟩ := ih
    refine ⟨hmiddle.move hm, hm.arm?_of_cancelled hcancelled, ?_⟩
    obtain ⟨new, hnew⟩ := hm.exists_log
    refine ⟨more ++ new, by rw [hnew, hlog, List.append_assoc], ?_⟩
    rcases hstays with hentry | ⟨event, ids, hmem, hwants⟩
    · obtain ⟨other, hother, hstays⟩ := hmiddle.stays hm hentry htimer hcancelled
      obtain rfl := List.append_cancel_left (hother.symm.trans hnew)
      refine hstays.imp_right ?_
      rintro ⟨event, ids, hmem, hwants⟩
      exact ⟨event, ids, List.mem_append_right _ hmem, hwants⟩
    · exact Or.inr ⟨event, ids, List.mem_append_left _ hmem, hwants⟩

/-- How the listeners are watched by their timers. -/
structure Watched (h : WaiterHistory E) : Prop where
  /-- A listener has a timer unless its deadline would lie past the horizon. -/
  timed_iff : ∀ entry ∈ h.waiter.listeners,
    entry.2.timer?.isSome = true ↔ entry.1 ∈ callers h.log
  /-- The timer is pending, or has fired and its job is still to run, or was cancelled. -/
  timed : ∀ entry ∈ h.waiter.listeners, ∀ timer, entry.2.timer? = some timer →
    h.timers.isPending timer = true ∨
    (h.timers.hasFired timer = true ∧ (timer, entry.1) ∈ h.timers.handed) ∨
    h.timers.arm? timer = some .cancelled
  /-- It is cancelled only by a task that takes no more messages. -/
  running : h.timers.isRunning = true → ∀ entry ∈ h.waiter.listeners, ∀ timer,
    entry.2.timer? = some timer → h.timers.arm? timer ≠ some .cancelled
  /-- The task takes messages as long as nobody tells it to stop. -/
  untold : h.Reachable → h.timers.isRunning = true
  finished : h.timers.phase = .finished → ∀ timer, h.timers.isPending timer = false
  /-- A listener whose timer was cancelled stays until an event is offered that it wants. -/
  stranded : ∀ entry ∈ h.waiter.listeners, ∀ timer, entry.2.timer? = some timer →
    h.timers.arm? timer = some .cancelled → ∀ h', ReflTransGen Move h h' →
    ∃ more, h'.log = h.log ++ more ∧ (entry ∈ h'.waiter.listeners ∨ OffersWanted entry more)

theorem Reachable.isRunning (hr : h.Reachable) : h.timers.isRunning = true := by
  obtain ⟨defaultTimeout, hr⟩ := hr
  have htold : ¬h.timers.Told := by
    induction hr with
    | refl => simp [Timers.Told, Timers.isRunning]
    | @tail h h' _ hs ih =>
      cases hs with
      | tick nanos => exact ih
      | wait wants timeout? => exact mt (h.grows_wait wants timeout?).told_iff.mp ih
      | offer event =>
        exact offer_induction event (fun u id hu => mt (u.grows_cancel id).told_iff.mp hu) h ih
      | task hs => exact mt hs.told.mp ih
      | run position htake =>
        obtain ⟨-, rfl⟩ := takeHanded?_eq_some htake
        exact ih
  exact Timers.isRunning_of_not_told htold

theorem listeners_watched (hr : h.Arises) : h.Watched := by
  have hw := hr.waits
  obtain ⟨t, ht⟩ := hw.times
  constructor
  case timed_iff =>
    intro entry hentry
    exact hw.kept.answers.timed_iff hentry
  case timed =>
    intro entry hentry timer htimer
    have hlt := ht.lt_length hentry htimer
    have harm := List.getElem?_eq_getElem hlt
    rw [← Timers.arm?] at harm
    cases hlast : h.timers.arms[timer] with
    | armed => exact Or.inl (Timers.isPending_iff.mpr (hlast ▸ harm))
    | fired =>
      have hfired : h.timers.hasFired timer = true := by simp [Timers.hasFired, harm, hlast]
      exact Or.inr (Or.inl ⟨hfired, hw.handed_of_fired hentry htimer hfired⟩)
    | cancelled => exact Or.inr (Or.inr (hlast ▸ harm))
  case running =>
    intro hrunning entry hentry timer htimer hcancelled
    cases hrunning.symm.trans (hw.running entry hentry timer htimer hcancelled)
  case untold => exact Reachable.isRunning
  case finished =>
    intro hp timer
    rw [← Bool.not_eq_true]
    intro hpending
    have hnone := ht.reachable.kept.emptied (by rw [ht.timers]; exact hp)
    rw [ht.timers] at hnone
    have hmem := hw.accounted timer hpending
    rw [hnone] at hmem
    simp at hmem
  case stranded =>
    intro entry hentry timer htimer hcancelled h' hs
    exact hw.stays_long hentry htimer hcancelled hs

/-- When the task stops, one listener is left with a timer that was cancelled, and another one with
a job that is still to run. -/
theorem listeners_watched_farewell : ∃ h : WaiterHistory Nat, h.Arises ∧
    h.waiter.listeners.map (fun entry => (entry.1, entry.2.timer?)) =
      [(0, some 0), (1, some 1)] ∧
    h.timers.arms = [.cancelled, .fired] ∧ h.timers.handed = [(1, 1)] ∧
    h.timers.phase = .finished ∧ h.Watched := by
  have hwaiting := ((ReflTransGen.refl.tail (Move.step
    (.wait { waiter := { defaultTimeout := ⟨9⟩ } } (fun event => event == 1) none))).tail
    (.step (.wait _ (fun event => event == 2) (some ⟨3⟩))))
  have hfired := ((((hwaiting.tail (.step (.task (.receive rfl rfl)))).tail
    (.step (.task (.receive rfl rfl)))).tail (.step (.tick _ 3))).tail
    (.step (.task (.wake rfl rfl)))).tail
    (.step (.task (.rest (fun _ => true) rfl rfl fun _ _ => rfl)))
  have hstopped := (((hfired.tail (.shutdown _)).tail (.step (.task (.receive rfl rfl)))).tail
    (.close rfl)).tail (.drain rfl (.refl _))
  have hfinished := hstopped.tail (.drain rfl (.refl _))
  exact ⟨_, ⟨_, hfinished⟩, rfl, rfl, rfl, rfl, listeners_watched ⟨_, hfinished⟩⟩

/-- A call waits whose timer was cancelled, with no job on its way and nothing left for the task to
do, whatever time it is. -/
theorem listener_can_be_stranded : ∃ h : WaiterHistory Unit, h.Arises ∧
    h.waiter.listeners.map (fun entry => (entry.1, entry.2.timer?)) = [(0, some 0)] ∧
    callers h.log = [0] ∧ results h.log = [] ∧ h.timers.arms = [.cancelled] ∧
    h.timers.handed = [] ∧ ∀ now, h.timers.act? now = none := by
  have hwaiting := ReflTransGen.refl.tail (Move.step
    (.wait { waiter := { defaultTimeout := .ofMillis 10 } } (fun _ : Unit => true) none))
  have htold := ((hwaiting.tail (.shutdown _)).tail (.step (.task (.receive rfl rfl)))).tail
    (.step (.task (.receive rfl rfl)))
  have hstopped := ((htold.tail (.close rfl)).tail (.drain rfl (.refl _))).tail
    (.drain rfl (.refl _))
  exact ⟨_, ⟨_, hstopped⟩, rfl, rfl, rfl, rfl, rfl, fun _ => rfl⟩

end WaiterHistory

end ChatCommands
