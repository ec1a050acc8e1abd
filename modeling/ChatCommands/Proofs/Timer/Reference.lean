import Mathlib.Data.List.Induction
import ChatCommands.Proofs.Timer.Acts
import ChatCommands.Proofs.Timer.Advance

/-! # Timers fire as the acts say

After whatever was done, the task and its clients know which timers are pending, and the jobs that
have run are those of the timers that fire, each at its deadline, in the order of the deadlines.
-/

namespace ChatCommands

open TimerAct

namespace TimedTimers

variable {J : Type} {acts : List (TimerAct J)} {t : TimedTimers J}

/-- The state knows of each timer what was done to it. -/
structure Reflects (acts : List (TimerAct J)) (t : TimedTimers J) : Prop where
  clock : t.clock = elapsed acts
  handed : t.timers.handed = []
  length : t.timers.arms.length = (scheduled acts).length
  armed : ∀ id, t.timers.isPending id = true ↔ Pending acts id
  ahead : ∀ id timer, Pending acts id → (scheduled acts)[id]? = some timer → elapsed acts ≤ timer.1
  accounted : t.timers.Accounted []
  finished : Halted acts → t.timers.phase = .finished
  waiting : ¬Halted acts → t.timers.phase = .waiting
  tracks : ¬Halted acts → t.timers.Tracks (scheduled acts)
  told : ¬Halted acts → (.shutdown ∈ t.timers.inbox ↔ .shutdown ∈ acts)

theorem reflects_start : Reflects ([] : List (TimerAct J)) {} := by
  have hhalted : ¬Halted ([] : List (TimerAct J)) := fun h => by
    cases mem_of_halted h
  have hpending : ∀ id, ¬Pending ([] : List (TimerAct J)) id := fun id h => Nat.not_lt_zero _ h.1
  refine ⟨rfl, rfl, rfl, ?_, fun id _ h => absurd h (hpending id), ?_, fun h => absurd h hhalted,
    fun _ => rfl, fun _ => ?_, fun _ => ?_⟩
  · intro id
    simp [Timers.isPending, Timers.arm?, hpending]
  · intro id hid
    simp [Timers.isPending, Timers.arm?] at hid
  · exact ⟨TimerTable.lists_empty _, by simp, .nil⟩
  · simp

theorem Reflects.stopped (h : Reflects acts t) (hhalted : Halted acts) :
    TimedTimers.Stopped t.timers where
  phase := h.finished hhalted
  handed := h.handed
  unarmed id := by
    rw [Bool.eq_false_iff, ne_eq, h.armed]
    exact fun hpending => hpending.2.2.2 hhalted

theorem Reflects.isRunning_iff (h : Reflects acts t) :
    t.timers.isRunning = true ↔ ¬Halted acts := by
  by_cases hhalted : Halted acts
  · simp [Timers.isRunning, h.finished hhalted, hhalted]
  · simp [Timers.isRunning, h.waiting hhalted, hhalted]

theorem Reflects.halted_of_not_running (h : Reflects acts t)
    (hrunning : t.timers.isRunning = false) : Halted acts := by
  by_contra hacts
  rw [h.isRunning_iff.mpr hacts] at hrunning
  cases hrunning

/-- What takes no time leaves the deadlines of pending timers ahead. -/
theorem Reflects.at_once {act : TimerAct J} {u : Timers J} (h : Reflects acts t)
    (hact : ∀ nanos, act ≠ .advance nanos) (hhanded : u.handed = t.timers.handed)
    (hphase : u.phase = t.timers.phase)
    (hlength : u.arms.length = (scheduled (acts ++ [act])).length)
    (harmed : ∀ id, u.isPending id = true ↔ Pending (acts ++ [act]) id)
    (haccounted : u.Accounted [])
    (htracks : ¬Halted acts → u.Tracks (scheduled (acts ++ [act])))
    (htold : ¬Halted acts → (.shutdown ∈ u.inbox ↔ .shutdown ∈ acts ++ [act])) :
    Reflects (acts ++ [act]) { t with timers := u } := by
  have helapsed : elapsed (acts ++ [act]) = elapsed acts := elapsed_of_ne_advance hact
  have hhalted : Halted (acts ++ [act]) ↔ Halted acts := halted_of_ne_advance hact
  refine {
    clock := h.clock.trans helapsed.symm
    handed := hhanded.trans h.handed
    length := hlength
    armed := harmed
    ahead := fun id timer hid hset => ?_
    accounted := haccounted
    finished := fun hacts => hphase.trans (h.finished (hhalted.mp hacts))
    waiting := fun hacts => hphase.trans (h.waiting (mt hhalted.mpr hacts))
    tracks := fun hacts => htracks (mt hhalted.mpr hacts)
    told := fun hacts => htold (mt hhalted.mpr hacts) }
  rw [helapsed]
  rcases pending_of_concat hid with hid | ⟨-, other, hother, hle⟩
  · rw [scheduled_append, List.getElem?_append_left hid.1] at hset
    exact h.ahead id timer hid hset
  · rw [hother] at hset
    cases hset
    exact hle

theorem Reflects.cancel (h : Reflects acts t) (id : Nat) :
    Reflects (acts ++ [.cancel id]) (t.cancel id).2 := by
  have hscheduled : scheduled (acts ++ [.cancel id]) = scheduled acts :=
    scheduled_of_ne_schedule (by simp)
  obtain ⟨hinbox, -, hphase⟩ := Timers.turn_eq t.timers id .cancelled
  refine h.at_once (by simp) (Timers.handed_turn _ _ _) hphase ?_ (fun other => ?_)
    (h.accounted.turn id) (fun hacts => ?_) (fun hacts => ?_)
  · rw [hscheduled, ← h.length]
    exact Timers.length_turn _ _ _
  · rw [pending_cancel, ← h.armed, and_comm]
    exact Timers.isPending_turn (by decide)
  · rw [hscheduled]
    exact (h.tracks hacts).turn id .cancelled
  · rw [List.mem_append, ← h.told hacts]
    simp [Timers.cancel, hinbox]

theorem Reflects.shutdown (h : Reflects acts t) : Reflects (acts ++ [.shutdown]) t.shutdown := by
  have hscheduled : scheduled (acts ++ [.shutdown]) = scheduled acts :=
    scheduled_of_ne_schedule (by simp)
  obtain ⟨harms, hphase, hhanded⟩ := t.timers.shutdown_eq
  refine h.at_once (by simp) hhanded hphase ?_ (fun id => ?_)
    (h.accounted.congr harms t.timers.kept_shutdown) (fun hacts => ?_) (fun hacts => ?_)
  · rw [hscheduled, harms, h.length]
  · rw [pending_shutdown, Timers.isPending_congr harms, h.armed]
  · rw [hscheduled]
    exact (h.tracks hacts).shutdown
  · rw [Timers.shutdown, if_pos (h.isRunning_iff.mpr hacts)]
    simp

theorem perform_schedule_cases (t : TimedTimers J) (delay : Nat) (job : J) :
    (Timers.horizon < t.clock + delay ∧ t.perform (.schedule delay job) = ([], t)) ∨
    (t.clock + delay ≤ Timers.horizon ∧ t.timers.isRunning = true ∧
      t.perform (.schedule delay job) = ([], { t with timers := { t.timers with
        arms := t.timers.arms ++ [.armed]
        inbox := t.timers.inbox ++
          [.schedule t.timers.arms.length (t.clock + delay) job] } })) ∨
    (t.clock + delay ≤ Timers.horizon ∧ t.timers.isRunning = false ∧
      t.perform (.schedule delay job) =
        ([], { t with timers := { t.timers with arms := t.timers.arms ++ [.cancelled] } })) := by
  rw [perform, TimedTimers.schedule]
  refine (t.timers.schedule_cases t.clock delay job).imp ?_ (.imp ?_ ?_)
  · rintro ⟨hpast, hschedule⟩
    rw [hschedule]
    exact ⟨hpast, rfl⟩
  · rintro ⟨hle, hrunning, hschedule⟩
    rw [hschedule]
    exact ⟨hle, hrunning, rfl⟩
  · rintro ⟨hle, hrunning, hschedule⟩
    rw [hschedule]
    exact ⟨hle, hrunning, rfl⟩

/-- A timer whose deadline would lie past the horizon is not set. -/
theorem Reflects.schedule (h : Reflects acts t) (delay : Nat) (job : J) :
    Reflects (acts ++ [.schedule delay job]) (t.perform (.schedule delay job)).2 := by
  have hscheduled : scheduled (acts ++ [.schedule delay job]) = scheduled acts ++
      if Timers.horizon < t.clock + delay then [] else [(t.clock + delay, job)] := by
    rw [scheduled_append, h.clock]
    rfl
  have hpending : ∀ id, Pending (acts ++ [.schedule delay job]) id ↔ Pending acts id ∨
      t.clock + delay ≤ Timers.horizon ∧ id = (scheduled acts).length ∧ ¬Halted acts := by
    intro id
    rw [pending_schedule, h.clock]
  obtain ⟨hpast, hperform⟩ | ⟨hle, hrunning, hperform⟩ | ⟨hle, hrunning, hperform⟩ :=
      t.perform_schedule_cases delay job <;> rw [hperform]
  · rw [if_pos hpast, List.append_nil] at hscheduled
    refine h.at_once (by simp) rfl rfl (by rw [hscheduled, h.length]) (fun id => ?_) h.accounted
      (fun hacts => hscheduled ▸ h.tracks hacts) (fun hacts => by simp [h.told hacts])
    rw [h.armed, hpending]
    exact (or_iff_left fun hset => Nat.not_lt.mpr hset.1 hpast).symm
  · have hacts := h.isRunning_iff.mp hrunning
    rw [if_neg (Nat.not_lt.mpr hle)] at hscheduled
    refine h.at_once (by simp) rfl rfl (by simp [hscheduled, h.length]) (fun id => ?_)
      (h.accounted.schedule rfl rfl rfl) (fun _ => ?_) (fun _ => by simp [h.told hacts])
    · rw [hpending, ← h.armed, ← h.length]
      exact (Timers.isPending_concat rfl id).trans (by simp [hle, hacts])
    · rw [hscheduled]
      refine ((h.tracks hacts).append _).schedule rfl rfl ?_ fun hmem => ?_
      · rw [h.length]
        exact List.getElem?_concat_length
      · have hlt := (h.tracks hacts).lt_length hmem
        rw [h.length] at hlt
        exact Nat.lt_irrefl _ hlt
  · have hacts := h.halted_of_not_running hrunning
    rw [if_neg (Nat.not_lt.mpr hle)] at hscheduled
    have harmed : ∀ id, ({ t.timers with
        arms := t.timers.arms ++ [.cancelled] } : Timers J).isPending id ≠ true := by
      intro id hid
      rcases (Timers.isPending_concat rfl id).mp hid with hid | ⟨-, hid⟩
      · exact ((h.armed id).mp hid).2.2.2 hacts
      · cases hid
    refine h.at_once (by simp) rfl rfl (by simp [hscheduled, h.length])
      (fun id => iff_of_false (harmed id) fun hid => ?_) (fun id hid => absurd hid (harmed id))
      (absurd hacts) (absurd hacts)
    exact hid.2.2.2 ((halted_of_ne_advance (by simp)).mpr hacts)

theorem Reflects.perform {act : TimerAct J} (h : Reflects acts t)
    (hact : ∀ nanos, act ≠ .advance nanos) : Reflects (acts ++ [act]) (t.perform act).2 := by
  cases act with
  | schedule delay job => exact h.schedule delay job
  | cancel id => exact h.cancel id
  | shutdown => exact h.shutdown
  | advance nanos => exact absurd rfl (hact nanos)

/-- One timer passes before another one: its deadline comes first, or it was set first. -/
def Before (timers : List (Nat × J)) (i j : Nat) : Prop :=
  ∃ a b, timers[i]? = some a ∧ timers[j]? = some b ∧ Sooner (a.1, i) (b.1, j)

theorem Before.append {timers : List (Nat × J)} {i j : Nat} (h : Before timers i j)
    (more : List (Nat × J)) : Before (timers ++ more) i j := by
  obtain ⟨a, b, ha, hb, hsooner⟩ := h
  exact ⟨a, b, getElem?_append_of_eq_some ha more, getElem?_append_of_eq_some hb more, hsooner⟩

/-- Timers in the order in which they pass are all different. -/
theorem nodup_of_before {timers : List (Nat × J)} {ids : List Nat}
    (h : ids.Pairwise (Before timers)) : ids.Nodup := by
  refine h.imp fun {i j} hbefore heq => ?_
  obtain ⟨a, b, ha, hb, hsooner⟩ := hbefore
  subst heq
  rw [ha] at hb
  cases hb
  simp only [Sooner] at hsooner
  omega

theorem pairwise_due {timers : List (Nat × J)} {u : Timers J} (hl : u.table.Lists timers)
    (target : Nat) : (due u target).Pairwise (Before timers) := by
  refine List.pairwise_map.mpr ((hl.sorted.filter _).imp_of_mem fun {a b} ha hb hsooner => ?_)
  obtain ⟨job, -, hset⟩ := (hl.mem_agenda a.1 a.2).mp (List.mem_of_mem_filter ha)
  obtain ⟨other, -, hother⟩ := (hl.mem_agenda b.1 b.2).mp (List.mem_of_mem_filter hb)
  exact ⟨_, _, hset, hother, hsooner⟩

theorem Heard.mem_due {timers : List (Nat × J)} {clock : Nat} {u : Timers J}
    (h : Heard timers clock u) {id target : Nat} : id ∈ due u target ↔
      u.isPending id = true ∧ ∃ timer, timers[id]? = some timer ∧ timer.1 ≤ target := by
  simp only [due, List.mem_map, List.mem_filter, Bool.and_eq_true, decide_eq_true_eq]
  constructor
  · rintro ⟨⟨deadline, id⟩, ⟨hmem, hle, hid⟩, rfl⟩
    obtain ⟨job, -, hset⟩ := (h.lists.mem_agenda deadline id).mp hmem
    exact ⟨hid, _, hset, hle⟩
  · rintro ⟨hid, ⟨deadline, job⟩, hset, hle⟩
    exact ⟨(deadline, id), ⟨h.mem_agenda hid hset, hle, hid⟩, rfl⟩

/-- Nothing is left to be known of a task that has stopped. -/
theorem Stopped.reflects {u : Timers J} (hu : Stopped u) (hacts : Halted acts)
    (hlength : u.arms.length = (scheduled acts).length) : Reflects acts ⟨elapsed acts, u⟩ where
  clock := rfl
  handed := hu.handed
  length := hlength
  armed id := iff_of_false (by simp [hu.unarmed]) fun hid => hid.2.2.2 hacts
  ahead id timer hid := absurd hacts hid.2.2.2
  accounted id hid := by
    rw [hu.unarmed] at hid
    cases hid
  finished _ := hu.phase
  waiting h := absurd hacts h
  tracks h := absurd hacts h
  told h := absurd hacts h

theorem Reflects.mem_due (h : Reflects acts t) {u : Timers J} (harms : u.arms = t.timers.arms)
    (hheard : Heard (scheduled acts) t.clock u) (nanos id : Nat) :
    id ∈ due u (t.clock + nanos) ↔ Pending acts id ∧
      ∃ timer, (scheduled acts)[id]? = some timer ∧ timer.1 ≤ elapsed acts + nanos := by
  rw [hheard.mem_due, Timers.isPending_congr harms, h.armed, h.clock]

/-- When all that was due has fired, the other timers are still pending. -/
theorem Reflects.fired (h : Reflects acts t) (hrunning : .shutdown ∉ acts) {u v : Timers J}
    (harms : u.arms = t.timers.arms) (hheard : Heard (scheduled acts) t.clock u) {nanos : Nat}
    (hfired : Fired (scheduled acts) (t.clock + nanos) u v) :
    Reflects (acts ++ [.advance nanos]) ⟨t.clock + nanos, v⟩ := by
  have hhalted : ¬Halted (acts ++ [.advance nanos]) := fun hhalted => by
    have hmem := mem_of_halted hhalted
    simp [hrunning] at hmem
  have harmed : ∀ id, v.isPending id = true ↔ Pending (acts ++ [.advance nanos]) id := by
    intro id
    have hdue := h.mem_due harms hheard nanos id
    rw [pending_advance, Timers.isPending_iff, hfired.arm?, Timers.arm?, harms, ← Timers.arm?]
    split
    · rename_i hmem
      obtain ⟨-, timer, hset, hle⟩ := hdue.mp hmem
      refine iff_of_false (by simp) fun hid => ?_
      exact Nat.not_lt.mpr hle (hid.2.2 timer hset)
    · rename_i hmem
      rw [← Timers.isPending_iff, h.armed]
      refine ⟨fun hid => ⟨hid, hrunning, fun timer hset => ?_⟩, And.left⟩
      exact Nat.lt_of_not_le fun hle => hmem (hdue.mpr ⟨hid, timer, hset, hle⟩)
  refine {
    clock := by
      rw [elapsed_concat, ← h.clock]
      rfl
    handed := hfired.handed
    length := by rw [scheduled_advance, hfired.length, harms, h.length]
    armed := harmed
    ahead := fun id timer hid hset => ?_
    accounted := hfired.accounted
    finished := fun hacts => absurd hacts hhalted
    waiting := fun _ => hfired.phase
    tracks := fun _ => ?_
    told := fun _ => by simp [hfired.inbox, hrunning] }
  · rw [scheduled_advance] at hset
    rw [elapsed_concat]
    exact ((pending_advance.mp hid).2.2 timer hset).le
  · rw [scheduled_advance]
    refine ⟨hfired.lists, by simp [hfired.inbox], ?_⟩
    rw [Timers.kept, Timers.queued, hfired.inbox, List.filterMap_nil, List.append_nil]
    exact hfired.lists.nodup

/-- The jobs that run while time passes are those of the timers that the time makes fire. -/
theorem Reflects.advance (h : Reflects acts t) (nanos : Nat) :
    Reflects (acts ++ [.advance nanos]) (t.advance (t.clock + nanos)).2 ∧
    ∃ ids : List Nat,
      (t.advance (t.clock + nanos)).1.map some = ids.map ((scheduled acts)[·]?) ∧
      ids.Pairwise (Before (scheduled acts)) ∧
      ∀ id, id ∈ ids ↔ .shutdown ∉ acts ∧ Pending acts id ∧
        ∃ timer, (scheduled acts)[id]? = some timer ∧ timer.1 ≤ elapsed acts + nanos := by
  have hclock : t.clock ≤ t.clock + nanos := Nat.le_add_right _ _
  by_cases hrunning : .shutdown ∉ acts
  · have hacts : ¬Halted acts := fun hacts => hrunning (mem_of_halted hacts)
    obtain ⟨u, hu, hwaiting, hhanded, hinbox, harms, htracks, haccounted⟩ :=
      advance_heard (h.tracks hacts) (h.waiting hacts) h.handed h.accounted
        (mt (h.told hacts).mp hrunning) hclock
    have hheard : Heard (scheduled acts) t.clock u := by
      refine ⟨htracks.lists, hinbox, hhanded, haccounted, fun id deadline job hid hset => ?_⟩
      rw [Timers.isPending_congr harms, h.armed] at hid
      exact h.clock ▸ h.ahead id (deadline, job) hid hset
    obtain ⟨out, v, hv, hout, hfired⟩ := hheard.advance u (Or.inl hwaiting) hclock
    have hadvance : t.advance (t.clock + nanos) = (out, ⟨t.clock + nanos, v⟩) := hu.trans hv
    rw [hadvance]
    refine ⟨h.fired hrunning harms hheard hfired, due u (t.clock + nanos), hout,
      pairwise_due hheard.lists _, fun id => ?_⟩
    rw [h.mem_due harms hheard]
    exact (and_iff_right hrunning).symm
  · obtain ⟨u, hu, hstopped, hlength⟩ : ∃ u, t.advance (t.clock + nanos) =
        ([], ⟨t.clock + nanos, u⟩) ∧ TimedTimers.Stopped u ∧
          u.arms.length = t.timers.arms.length := by
      by_cases hacts : Halted acts
      · exact ⟨t.timers, (h.stopped hacts).advance _ _, h.stopped hacts, rfl⟩
      · refine advance_told (h.tracks hacts) (h.waiting hacts) h.handed h.accounted ?_ hclock
        exact (h.told hacts).mpr (not_not.mp hrunning)
    have helapsed : t.clock + nanos = elapsed (acts ++ [.advance nanos]) := by
      rw [elapsed_concat, h.clock]
      rfl
    rw [hu, helapsed]
    refine ⟨hstopped.reflects ?_ ?_, [], rfl, .nil, fun id => ?_⟩
    · exact halted_concat.mpr (Or.inr ⟨⟨nanos, rfl⟩, not_not.mp hrunning⟩)
    · rw [scheduled_advance, hlength, h.length]
    · exact iff_of_false (by simp) fun hid => hrunning hid.1

/-- The timers that have fired, in the order in which their jobs ran. -/
structure Ran (acts : List (TimerAct J)) (out : List (Nat × J)) (ids : List Nat) : Prop where
  /-- Each job ran at the deadline of its timer. -/
  out : out.map some = ids.map ((scheduled acts)[·]?)
  mem : ∀ id, id ∈ ids ↔ Fires acts id
  sorted : ids.Pairwise (Before (scheduled acts))

theorem Ran.nodup {out : List (Nat × J)} {ids : List Nat} (h : Ran acts out ids) : ids.Nodup :=
  nodup_of_before h.sorted

/-- The timers that have fired pass before those that are pending. -/
def Leads (acts : List (TimerAct J)) (ids : List Nat) : Prop :=
  ∀ i ∈ ids, ∀ j, Pending acts j → Before (scheduled acts) i j

variable {out : List (Nat × J)} {ids : List Nat}

/-- What makes no timer fire sets at most one that passes last. -/
theorem Ran.unchanged {act : TimerAct J} (h : Ran acts out ids) (hleads : Leads acts ids)
    (hact : ∀ nanos, act ≠ .advance nanos) :
    Ran (acts ++ [act]) out ids ∧ Leads (acts ++ [act]) ids := by
  have hscheduled := scheduled_append acts [act]
  refine ⟨⟨?_, fun id => (h.mem id).trans (fires_of_ne_advance hact).symm, ?_⟩,
    fun i hi j hj => ?_⟩
  · rw [h.out, hscheduled]
    refine List.map_congr_left fun id hid => ?_
    exact (List.getElem?_append_left (lt_length_of_fires ((h.mem id).mp hid))).symm
  · rw [hscheduled]
    exact h.sorted.imp fun hbefore => hbefore.append _
  · rcases pending_of_concat hj with hj | ⟨rfl, timer, hset, hle⟩
    · rw [hscheduled]
      exact (hleads i hi j hj).append _
    · obtain ⟨first, hfirst, hfired⟩ := le_elapsed_of_fires ((h.mem i).mp hi)
      have hlt := (List.getElem?_eq_some_iff.mp hfirst).1
      refine ⟨first, timer, ?_, hset, ?_⟩
      · rw [hscheduled]
        exact getElem?_append_of_eq_some hfirst _
      · simp only [Sooner]
        omega

theorem Ran.advance {nanos : Nat} {more : List (Nat × J)} {due : List Nat} (h : Ran acts out ids)
    (hleads : Leads acts ids) (hmore : more.map some = due.map ((scheduled acts)[·]?))
    (hsorted : due.Pairwise (Before (scheduled acts)))
    (hdue : ∀ id, id ∈ due ↔ .shutdown ∉ acts ∧ Pending acts id ∧
      ∃ timer, (scheduled acts)[id]? = some timer ∧ timer.1 ≤ elapsed acts + nanos) :
    Ran (acts ++ [.advance nanos]) (out ++ more) (ids ++ due) ∧
      Leads (acts ++ [.advance nanos]) (ids ++ due) := by
  refine ⟨⟨?_, fun id => ?_, ?_⟩, fun i hi j hj => ?_⟩
  · rw [scheduled_advance, List.map_append, h.out, hmore, List.map_append]
  · rw [List.mem_append, h.mem, hdue, fires_advance]
  · rw [scheduled_advance]
    refine List.pairwise_append.mpr ⟨h.sorted, hsorted, fun i hi j hj => ?_⟩
    exact hleads i hi j ((hdue j).mp hj).2.1
  · rw [scheduled_advance]
    obtain ⟨hpending, -, hlater⟩ := pending_advance.mp hj
    rcases List.mem_append.mp hi with hi | hi
    · exact hleads i hi j hpending
    · obtain ⟨-, -, first, hfirst, hle⟩ := (hdue i).mp hi
      obtain ⟨timer, hset⟩ : ∃ timer, (scheduled acts)[j]? = some timer :=
        ⟨_, List.getElem?_eq_getElem hpending.1⟩
      exact ⟨first, timer, hfirst, hset, Or.inl (hle.trans_lt (hlater timer hset))⟩

/-- Only while time passes do jobs run. -/
theorem perform_fst_of_ne_advance (t : TimedTimers J) {act : TimerAct J}
    (h : ∀ nanos, act ≠ .advance nanos) : (t.perform act).1 = [] := by
  cases act with
  | schedule delay job =>
    rcases t.perform_schedule_cases delay job with ⟨-, hact⟩ | ⟨-, -, hact⟩ | ⟨-, -, hact⟩ <;>
      rw [hact]
  | cancel id | shutdown => rfl
  | advance nanos => exact absurd rfl (h nanos)

theorem follow_reflects (acts : List (TimerAct J)) :
    Reflects acts (follow acts {}).2 ∧
      ∃ ids, Ran acts (follow acts {}).1 ids ∧ Leads acts ids := by
  induction acts using List.reverseRecOn with
  | nil =>
    refine ⟨reflects_start, [], ⟨rfl, fun id => ?_, .nil⟩, fun i hi => by cases hi⟩
    exact iff_of_false (by simp) fun h => Nat.not_lt_zero _ (lt_length_of_fires h)
  | append_singleton acts act ih =>
    obtain ⟨hreflects, ids, hran, hleads⟩ := ih
    rw [follow_concat]
    by_cases hact : ∀ nanos, act ≠ .advance nanos
    · rw [perform_fst_of_ne_advance _ hact, List.append_nil]
      exact ⟨hreflects.perform hact, ids, hran.unchanged hleads hact⟩
    · push Not at hact
      obtain ⟨nanos, rfl⟩ := hact
      obtain ⟨hnew, due, hmore, hsorted, hdue⟩ := hreflects.advance nanos
      exact ⟨hnew, ids ++ due, hran.advance hleads hmore hsorted hdue⟩

/-- The jobs that have run are those of the timers that fire, each of them once and at its deadline,
earlier deadlines first and, among equal ones, timers that were set earlier. A timer can be
cancelled exactly if it neither fires, nor was cancelled, nor went down with the task. The moments
are exact since `TimedTimers.advance` wakes the task at the exact moment of a deadline. -/
theorem timers_run_on_time (acts : List (TimerAct J)) :
    (∃ ids : List Nat, ids.Nodup ∧ Ran acts (follow acts {}).1 ids) ∧
    ∀ id, ((follow acts {}).2.cancel id).1 = true ↔
      id < (scheduled acts).length ∧ ¬Fires acts id ∧ ¬Cancelled acts id ∧ ¬Halted acts := by
  obtain ⟨hreflects, ids, hran, -⟩ := follow_reflects acts
  refine ⟨⟨ids, hran.nodup, hran⟩, fun id => ?_⟩
  have hcancel : ((follow acts {}).2.cancel id).1 = (follow acts {}).2.timers.isPending id := by
    rw [cancel, Timers.cancel]
    obtain ⟨hpending, hturn⟩ | ⟨hpending, hturn⟩ :=
      (follow acts {}).2.timers.turn_cases id .cancelled <;> rw [hturn, hpending]
  rw [hcancel, hreflects.armed, Pending]

end TimedTimers

end ChatCommands
