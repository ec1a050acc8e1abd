import ChatCommands.Proofs.Lanes.Earliest
import ChatCommands.Proofs.Lanes.Timetable

/-! # Lanes keep their timetable

Workers on a clock take their steps when they are due, those of one moment in any order. Whatever
the order, a worker comes up with a job at the moment at which the job is to start, and looks for
the next one when the last has ended.
-/

namespace ChatCommands

open LaneAct Slot

variable {P : Type}

namespace TimedLanes

/-- The next step of a worker, taken now. -/
def work (t : TimedLanes (Ticket P)) (before : List (Worker (Ticket P))) (w : Worker (Ticket P))
    (after : List (Worker (Ticket P))) : TimedLanes (Ticket P) :=
  let taken := t.lanes.step t.clock before w after
  ⟨t.clock, taken.1, t.log ++ (taken.2.map fun event => (t.clock, event)).toList⟩

/-- The lanes may be in this state once all that has been done. The steps of one moment come in any
order, and no time passes while one of them is left. -/
inductive Arises : List (LaneAct P) → TimedLanes (Ticket P) → Prop
  | start : Arises [] {}
  | submit {acts : List (LaneAct P)} {t : TimedLanes (Ticket P)} (key? : Option String)
      (job : Job P) : Arises acts t → t.clock = elapsed acts →
      Arises (acts ++ [.submit key? job])
        (t.submit key? (job.ticketed (timetable acts).length key?))
  | advance {acts : List (LaneAct P)} {t : TimedLanes (Ticket P)} (nanos : Nat) :
      Arises acts t → Arises (acts ++ [.advance nanos]) t
  | pass {acts : List (LaneAct P)} {t : TimedLanes (Ticket P)} {moment : Nat} : Arises acts t →
      t.clock ≤ moment → moment ≤ elapsed acts →
      (∀ w ∈ t.lanes.workers, moment ≤ w.due t.clock) → Arises acts { t with clock := moment }
  | work {acts : List (LaneAct P)} {t : TimedLanes (Ticket P)}
      {before after : List (Worker (Ticket P))} {w : Worker (Ticket P)} : Arises acts t →
      t.lanes.workers = before ++ w :: after → w.due t.clock ≤ t.clock →
      Arises acts (t.work before w after)

/-- What was submitted and seen, without the time. -/
def history (acts : List (LaneAct P)) (t : TimedLanes (Ticket P)) : LaneHistory P :=
  { lanes := t.lanes, submitted := (timetable acts).map Slot.job, log := t.log.map Prod.snd }

/-- What a worker has at hand keeps the timetable. A worker with nothing at hand comes from the job
of its lane that ended last, and this was just now. -/
def Keeps (slots : List (Slot P)) (ended : List (Ticket P)) (now : Nat)
    (w : Worker (Ticket P)) : Prop :=
  match w.stage with
  | .holding job => ∃ slot ∈ slots, slot.job = job ∧ slot.starts = now
  | .running job ends => now ≤ ends ∧ ∃ slot ∈ slots, slot.job = job ∧ slot.ends = ends
  | .between => ∀ key, w.lane? = some key → ∃ slot ∈ slots,
      (ofKey (some key) ended).getLast? = some slot.ticket ∧ slot.ends = now

structure Punctual (acts : List (LaneAct P)) (t : TimedLanes (Ticket P)) : Prop where
  kept : (history acts t).Kept
  submitted : ∀ slot ∈ timetable acts, slot.submitted ≤ t.clock
  workers : ∀ w ∈ t.lanes.workers, Keeps (timetable acts) (history acts t).ended t.clock w
  seen : ∀ entry ∈ t.log, entry.1 ≤ t.clock ∧ ∃ slot ∈ timetable acts, entry ∈ slot.events

variable {acts : List (LaneAct P)} {t : TimedLanes (Ticket P)} {slot : Slot P}
  {slots more : List (Slot P)} {ended late : List (Ticket P)} {now moment : Nat}
  {before after : List (Worker (Ticket P))} {w : Worker (Ticket P)} {key : String}
  {ticket : Ticket P}

/-! ## What was seen -/

theorem tickets_history (acts : List (LaneAct P)) (t : TimedLanes (Ticket P)) :
    (history acts t).tickets = (timetable acts).map Slot.ticket :=
  List.map_map

theorem mem_ended_history : ticket ∈ (history acts t).ended ↔
    ∃ moment receipt?, (moment, .ended ticket receipt?) ∈ t.log := by
  simp only [LaneHistory.ended, history, List.mem_filterMap, List.mem_map, Prod.exists]
  constructor
  · rintro ⟨event, ⟨moment, event, hmem, rfl⟩, hended⟩
    cases event with
    | started other => cases hended
    | ended other receipt? =>
      cases hended
      exact ⟨moment, receipt?, hmem⟩
  · rintro ⟨moment, receipt?, hmem⟩
    exact ⟨_, ⟨moment, _, hmem, rfl⟩, rfl⟩

theorem mem_started_history : ticket ∈ (history acts t).started ↔
    ∃ moment, (moment, .started ticket) ∈ t.log := by
  simp only [LaneHistory.started, history, List.mem_filterMap, List.mem_map, Prod.exists]
  constructor
  · rintro ⟨event, ⟨moment, event, hmem, rfl⟩, hstarted⟩
    cases event with
    | started other =>
      cases hstarted
      exact ⟨moment, hmem⟩
    | ended other receipt? => cases hstarted
  · rintro ⟨moment, hmem⟩
    exact ⟨_, ⟨moment, _, hmem, rfl⟩, rfl⟩

theorem Punctual.tended (h : Punctual acts t) : t.lanes.Tended :=
  h.kept.tended

/-- A job that was seen to end has ended at its moment. -/
theorem Punctual.of_ended (h : Punctual acts t) (hslot : slot ∈ timetable acts)
    (hended : slot.ticket ∈ (history acts t).ended) :
    slot.ends ≤ t.clock ∧ (slot.ends, .ended slot.ticket slot.receipt?) ∈ t.log := by
  obtain ⟨moment, receipt?, hmem⟩ := mem_ended_history.mp hended
  obtain ⟨hle, other, hother, hevent⟩ := h.seen _ hmem
  obtain ⟨rfl, hticket, rfl⟩ : moment = other.ends ∧ slot.ticket = other.ticket ∧
      receipt? = other.receipt? := by simpa [events] using hevent
  obtain rfl := eq_of_ticket_eq hslot hother hticket
  exact ⟨hle, hmem⟩

theorem Punctual.of_started (h : Punctual acts t) (hslot : slot ∈ timetable acts)
    (hstarted : slot.ticket ∈ (history acts t).started) :
    slot.starts ≤ t.clock ∧ (slot.starts, .started slot.ticket) ∈ t.log := by
  obtain ⟨moment, hmem⟩ := mem_started_history.mp hstarted
  obtain ⟨hle, other, hother, hevent⟩ := h.seen _ hmem
  obtain ⟨rfl, hticket⟩ : moment = other.starts ∧ slot.ticket = other.ticket := by
    simpa [events] using hevent
  obtain rfl := eq_of_ticket_eq hslot hother hticket
  exact ⟨hle, hmem⟩

/-- A job is known by its ticket, too. -/
theorem map_job_eq {jobs : List (Job (Ticket P))} (hslots : slots ⊆ timetable acts)
    (hjobs : ∀ job ∈ jobs, job ∈ (timetable acts).map Slot.job)
    (h : slots.map Slot.ticket = jobs.map Job.task) : slots.map Slot.job = jobs := by
  induction slots generalizing jobs with
  | nil =>
    obtain rfl := List.map_eq_nil_iff.mp h.symm
    rfl
  | cons slot slots ih =>
    obtain ⟨job, rest, rfl, hticket, hrest⟩ := List.map_eq_cons_iff.mp h.symm
    obtain ⟨hslot, hmore⟩ := List.cons_subset.mp hslots
    obtain ⟨hjob, hlater⟩ := List.forall_mem_cons.mp hjobs
    obtain ⟨other, hother, rfl⟩ := List.mem_map.mp hjob
    obtain rfl := eq_of_ticket_eq hother hslot hticket
    rw [List.map_cons, ih hmore hlater hrest.symm]

/-- The slots of a lane are those of the jobs that have ended, then those of its line. -/
theorem Punctual.ofLane_eq (h : Punctual acts t) (key : String) : ∃ done rest,
    ofLane key (timetable acts) = done ++ rest ∧
      done.map Slot.ticket = ofKey (some key) (history acts t).ended ∧
      rest.map Slot.job = t.lanes.line (some key) := by
  have hlined := h.kept.lined key
  rw [tickets_history, ← map_ticket_ofLane] at hlined
  obtain ⟨done, rest, hslots, hdone, hrest⟩ := List.map_eq_append_iff.mp hlined
  exact ⟨done, rest, hslots, hdone, map_job_eq (subset_of_ofLane_eq hslots).2
    (fun job hjob => (h.kept.own (some key) job hjob).1) hrest⟩

/-! ## One step -/

theorem Keeps.mono (h : Keeps slots ended now w) (hslots : slots ⊆ more)
    (hended : ∀ key, w.lane? = some key → ofKey (some key) late = ofKey (some key) ended) :
    Keeps more late now w := by
  obtain ⟨lane?, stage⟩ := w
  cases stage with
  | holding job =>
    obtain ⟨slot, hslot, hjob⟩ := h
    exact ⟨slot, hslots hslot, hjob⟩
  | running job ends =>
    obtain ⟨hle, slot, hslot, hjob⟩ := h
    exact ⟨hle, slot, hslots hslot, hjob⟩
  | between =>
    intro key hkey
    obtain ⟨slot, hslot, hlast, hends⟩ := h key hkey
    exact ⟨slot, hslots hslot, by rw [hended key hkey, hlast], hends⟩

theorem punctual_start : Punctual [] ({} : TimedLanes (Ticket P)) where
  kept := LaneHistory.kept_start
  submitted := List.forall_mem_nil _
  workers := List.forall_mem_nil _
  seen := List.forall_mem_nil _

theorem Punctual.advance (h : Punctual acts t) (nanos : Nat) :
    Punctual (acts ++ [.advance nanos]) t := by
  obtain ⟨hkept, hsubmitted, hworkers, hseen⟩ := h
  simp only [history, ← timetable_advance acts nanos] at hkept hsubmitted hworkers hseen
  exact ⟨hkept, hsubmitted, hworkers, hseen⟩

/-- Time passes workers by only if they have nothing to do before. -/
theorem Punctual.pass (h : Punctual acts t) (hle : t.clock ≤ moment)
    (hdue : ∀ w ∈ t.lanes.workers, moment ≤ w.due t.clock) :
    Punctual acts { t with clock := moment } where
  kept := h.kept
  submitted slot hslot := Nat.le_trans (h.submitted slot hslot) hle
  workers w hw := by
    have hkeeps := h.workers w hw
    have hw := hdue w hw
    obtain ⟨lane?, stage⟩ := w
    cases stage with
    | holding job =>
      obtain rfl : t.clock = moment := Nat.le_antisymm hle hw
      exact hkeeps
    | running job ends => exact ⟨hw, hkeeps.2⟩
    | between =>
      obtain rfl : t.clock = moment := Nat.le_antisymm hle hw
      exact hkeeps
  seen entry hentry := ⟨Nat.le_trans (h.seen entry hentry).1 hle, (h.seen entry hentry).2⟩

/-- A lane that is not there has ended all of its jobs. -/
theorem Punctual.mem_ended_of_no_lane (h : Punctual acts t) (hlane : t.lanes.hasLane key = false)
    (hslot : slot ∈ ofLane key (timetable acts)) : slot.ticket ∈ (history acts t).ended := by
  obtain ⟨done, rest, hslots, hdone, hrest⟩ := h.ofLane_eq key
  have hnone : rest = [] := by
    rw [Lanes.line, h.tended.ofLane_eq_nil hlane, Lanes.queueOf, Option.bind_some,
      Lanes.lookup_eq_none_of_not_mem (Lanes.not_mem_of_hasLane_eq_false hlane)] at hrest
    exact List.map_eq_nil_iff.mp hrest
  rw [hslots, hnone, List.append_nil] at hslot
  have hmem : slot.ticket ∈ ofKey (some key) (history acts t).ended :=
    hdone ▸ List.mem_map_of_mem hslot
  exact (List.mem_filter.mp hmem).1

/-- A job that opens a lane starts at once. -/
theorem Punctual.startAfter_of_no_lane (h : Punctual acts t)
    (hlane : t.lanes.hasLane key = false) :
    startAfter (last? (timetable acts) (some key)) t.clock = t.clock := by
  rw [last?, Option.bind_some]
  cases hlast : (ofLane key (timetable acts)).getLast? with
  | none => rfl
  | some previous =>
    have hmem := List.mem_of_getLast? hlast
    have hended := h.mem_ended_of_no_lane hlane hmem
    exact Nat.max_eq_left (h.of_ended (mem_ofLane.mp hmem).1 hended).1

theorem workers_submit (h : t.lanes.Tended) (key? : Option String) (job : Job (Ticket P)) :
    (t.submit key? job).lanes.workers = t.lanes.workers ∨
    (t.submit key? job).lanes.workers = t.lanes.workers ++ [⟨key?, .holding job⟩] ∧
      ∀ key, key? = some key → t.lanes.hasLane key = false := by
  cases key? with
  | none => exact Or.inr ⟨rfl, nofun⟩
  | some key =>
    rw [TimedLanes.submit, h.served.submit_eq]
    cases hlane : t.lanes.hasLane key with
    | true => exact Or.inl rfl
    | false =>
      refine Or.inr ⟨rfl, fun other hother => ?_⟩
      rw [← Option.some.inj hother, hlane]

theorem kept_history_submit (h : (history acts t).Kept) (key? : Option String) (job : Job P) :
    (history (acts ++ [.submit key? job])
      (t.submit key? (job.ticketed (timetable acts).length key?))).Kept := by
  have hkept := h.submit key? job
  have hlength : (history acts t).submitted.length = (timetable acts).length := List.length_map _
  have hsubmitted : (history acts t).submitted ++
      [job.ticketed (timetable acts).length key?] =
      (timetable (acts ++ [.submit key? job])).map Slot.job := by
    rw [timetable_submit, List.map_append]
    rfl
  simp only [LaneHistory.submit, hlength, hsubmitted] at hkept
  -- The workers that are still to be spawned are in no part of the invariant.
  exact ⟨hkept.tended, hkept.numbered, hkept.own, hkept.lined, hkept.begun, hkept.placed,
    hkept.entered, hkept.receipts⟩

theorem Punctual.submit (h : Punctual acts t) (hclock : t.clock = elapsed acts)
    (key? : Option String) (job : Job P) : Punctual (acts ++ [.submit key? job])
      (t.submit key? (job.ticketed (timetable acts).length key?)) := by
  have hmore : timetable acts ⊆ timetable (acts ++ [.submit key? job]) := by
    rw [timetable_submit]
    exact List.subset_append_left _ _
  refine ⟨kept_history_submit h.kept key? job, fun slot hslot => ?_, fun w hw => ?_,
    fun entry hentry => ?_⟩
  · rw [TimedLanes.submit, hclock, ← elapsed_submit acts key? job]
    exact submitted_le_elapsed hslot
  · have hold : ∀ w ∈ t.lanes.workers, Keeps (timetable (acts ++ [.submit key? job]))
        (history acts t).ended t.clock w :=
      fun w hw => (h.workers w hw).mono hmore fun _ _ => rfl
    rcases workers_submit h.tended key? (job.ticketed (timetable acts).length key?) with
      hworkers | ⟨hworkers, hnew⟩
    · exact hold w (hworkers ▸ hw)
    · rw [hworkers, List.mem_append, List.mem_singleton] at hw
      rcases hw with hw | rfl
      · exact hold w hw
      · refine ⟨_, timetable_submit acts key? job ▸ List.mem_concat_self, rfl, ?_⟩
        show startAfter _ (elapsed acts) = t.clock
        rw [← hclock]
        cases key? with
        | none => rfl
        | some key => exact h.startAfter_of_no_lane (hnew key rfl)
  · obtain ⟨hle, slot, hslot, hevent⟩ := h.seen entry hentry
    exact ⟨hle, slot, hmore hslot, hevent⟩

/-! ## Steps of workers -/

theorem history_work (acts : List (LaneAct P)) (t : TimedLanes (Ticket P))
    (before : List (Worker (Ticket P))) (w : Worker (Ticket P))
    (after : List (Worker (Ticket P))) :
    history acts (t.work before w after) = (history acts t).work t.clock before w after := by
  simp only [history, TimedLanes.work, LaneHistory.work, List.map_append]
  cases (t.lanes.step t.clock before w after).2 <;> rfl

/-- The next job of a lane is due at once when the one before has just ended. -/
theorem Punctual.starts_of_next (h : Punctual acts t)
    (hw : t.lanes.workers = before ++ ⟨some key, .between⟩ :: after) {job : Job (Ticket P)}
    {queues : List (String × List (Job (Ticket P)))}
    (htake : Lanes.take key t.lanes.queues = (some job, queues)) :
    ∃ slot ∈ timetable acts, slot.job = job ∧ slot.starts = t.clock := by
  obtain ⟨done, rest, hslots, hdone, hrest⟩ := h.ofLane_eq key
  -- The job heads the line of the lane, as the worker has nothing at hand.
  obtain ⟨later, hline⟩ : ∃ later, t.lanes.line (some key) = job :: later := by
    obtain ⟨hbefore, hafter⟩ := h.tended.alone hw rfl
    have hhead := (Lanes.take_eq h.tended.keys key).1
    rw [htake] at hhead
    obtain ⟨later, hqueue⟩ := List.head?_eq_some_iff.mp hhead.symm
    refine ⟨later, ?_⟩
    rw [Lanes.line, hw, Lanes.filterMap_ofLane_around, hbefore, hafter, hqueue]
    simp [Worker.job?]
  rw [hline] at hrest
  obtain ⟨next, others, rfl, rfl, -⟩ := List.map_eq_cons_iff.mp hrest
  obtain ⟨hearlier, hlater⟩ := subset_of_ofLane_eq hslots
  have hnext : next ∈ timetable acts := hlater List.mem_cons_self
  refine ⟨next, hnext, rfl, ?_⟩
  have hkeeps : Keeps (timetable acts) (history acts t).ended t.clock ⟨some key, .between⟩ :=
    h.workers _ (hw ▸ List.mem_append_cons_self)
  obtain ⟨previous, hprevious, hlast, hends⟩ := hkeeps key rfl
  rw [← hdone, List.getLast?_map] at hlast
  obtain ⟨last, hdoneLast, hticket⟩ := Option.map_eq_some_iff.mp hlast
  obtain rfl := eq_of_ticket_eq (hearlier (List.mem_of_getLast? hdoneLast)) hprevious hticket
  rw [starts_of_ofLane hslots, hdoneLast, startAfter, hends]
  exact Nat.max_eq_right (h.submitted next hnext)

/-- A job at hand belongs to the lane of its worker. -/
theorem Punctual.key?_of_job? (h : Punctual acts t) (hw : w ∈ t.lanes.workers)
    {job : Job (Ticket P)} (hjob : w.job? = some job) : job.task.key? = w.lane? := by
  refine (h.kept.own w.lane? job ?_).2
  obtain ⟨before, after, hworkers⟩ := List.append_of_mem hw
  have hline : (history acts t).lanes.line w.lane? = t.lanes.line w.lane? := rfl
  rw [hline, Lanes.line, hworkers, Lanes.filterMap_ofLane_around, if_pos rfl, hjob]
  simp

/-- A step keeps the timetable if what its worker does then and what it shows do. -/
theorem Punctual.work_of (h : Punctual acts t) (hw : t.lanes.workers = before ++ w :: after)
    (hworkers : ∀ v ∈ (t.work before w after).lanes.workers,
      Keeps (timetable acts) (history acts (t.work before w after)).ended t.clock v)
    (hshown : ∀ event, (t.lanes.step t.clock before w after).2 = some event →
      ∃ slot ∈ timetable acts, (t.clock, event) ∈ slot.events) :
    Punctual acts (t.work before w after) where
  kept := by
    rw [history_work]
    exact h.kept.work hw t.clock
  submitted := h.submitted
  workers := hworkers
  seen entry hentry := by
    rw [work, List.mem_append, Option.mem_toList, Option.map_eq_some_iff] at hentry
    rcases hentry with hentry | ⟨event, hevent, rfl⟩
    · exact h.seen entry hentry
    · exact ⟨Nat.le_refl _, hshown event hevent⟩

theorem Punctual.others (h : Punctual acts t) (hw : t.lanes.workers = before ++ w :: after) :
    ∀ v ∈ before ++ after, Keeps (timetable acts) (history acts t).ended t.clock v := by
  intro v hv
  refine h.workers v (hw ▸ ?_)
  rcases List.mem_append.mp hv with hv | hv
  · exact List.mem_append_left _ hv
  · exact List.mem_append_right _ (List.mem_cons_of_mem _ hv)

theorem ended_history_work (acts : List (LaneAct P)) (t : TimedLanes (Ticket P))
    (before : List (Worker (Ticket P))) (w : Worker (Ticket P))
    (after : List (Worker (Ticket P))) :
    (history acts (t.work before w after)).ended = (history acts t).ended ++
      ((t.lanes.step t.clock before w after).2.bind LaneEvent.ended?).toList := by
  rw [history_work]
  exact LaneHistory.ended_work _ _ _ _ _

/-- No other worker belongs to the lane of this one. -/
theorem lane?_ne_of_mem (h : t.lanes.Tended) (hw : t.lanes.workers = before ++ w :: after)
    (hlane : w.lane? = some key) : ∀ v ∈ before ++ after, v.lane? ≠ some key := by
  obtain ⟨hbefore, hafter⟩ := h.alone hw hlane
  intro v hv hkey
  have hmem : v ∈ Lanes.ofLane (some key) (before ++ after) :=
    List.mem_filter.mpr ⟨hv, beq_iff_eq.mpr hkey⟩
  rw [Lanes.ofLane_append, hbefore, hafter] at hmem
  cases hmem

theorem forall_mem_around {α : Type} {p : α → Prop} {as bs : List α} {a : α} (ha : p a)
    (hothers : ∀ b ∈ as ++ bs, p b) : ∀ b ∈ as ++ a :: bs, p b := by
  rw [List.forall_mem_append] at *
  exact ⟨hothers.1, List.forall_mem_cons.mpr ⟨ha, hothers.2⟩⟩

theorem Punctual.starts (h : Punctual acts t) {lane? : Option String} {job : Job (Ticket P)}
    (hw : t.lanes.workers = before ++ ⟨lane?, .holding job⟩ :: after) :
    Punctual acts (t.work before ⟨lane?, .holding job⟩ after) := by
  obtain ⟨slot, hslot, rfl, hstarts⟩ := h.workers _ (hw ▸ List.mem_append_cons_self)
  refine h.work_of hw ?_ fun event hevent => ⟨slot, hslot, ?_⟩
  · rw [ended_history_work]
    refine forall_mem_around ⟨Nat.le_add_right _ _, slot, hslot, rfl, ?_⟩ ?_
    · rw [Slot.ends, hstarts]
    · simpa [Lanes.step, LaneEvent.ended?] using h.others hw
  · cases hevent
    simp [events, hstarts, Slot.ticket]

theorem ofKey_concat (key? : Option String) (tickets : List (Ticket P)) (ticket : Ticket P) :
    ofKey key? (tickets ++ [ticket]) =
      if ticket.key? = key? then ofKey key? tickets ++ [ticket] else ofKey key? tickets := by
  rw [ofKey_append, ofKey_singleton]
  split
  · rfl
  · exact List.append_nil _

theorem Punctual.ends (h : Punctual acts t) {lane? : Option String} {job : Job (Ticket P)}
    {ends : Nat} (hw : t.lanes.workers = before ++ ⟨lane?, .running job ends⟩ :: after)
    (hdue : ends ≤ t.clock) : Punctual acts (t.work before ⟨lane?, .running job ends⟩ after) := by
  have hmem : (⟨lane?, .running job ends⟩ : Worker (Ticket P)) ∈ t.lanes.workers :=
    hw ▸ List.mem_append_cons_self
  obtain ⟨hle, slot, hslot, rfl, hends⟩ := h.workers _ hmem
  obtain rfl : ends = t.clock := Nat.le_antisymm hdue hle
  have hkey : slot.ticket.key? = lane? := h.key?_of_job? hmem rfl
  have hended : (history acts (t.work before ⟨lane?, .running slot.job t.clock⟩ after)).ended =
      (history acts t).ended ++ [slot.ticket] := ended_history_work _ _ _ _ _
  refine h.work_of hw ?_ fun event hevent => ⟨slot, hslot, ?_⟩
  · rw [hended]
    refine forall_mem_around ?_ fun v hv => (h.others hw v hv).mono (List.Subset.refl _) ?_
    · rintro key rfl
      refine ⟨slot, hslot, ?_, hends⟩
      rw [ofKey_concat, if_pos hkey, List.getLast?_concat]
    · intro key hlane
      have hne : slot.ticket.key? ≠ some key := fun heq =>
        lane?_ne_of_mem h.tended hw (hkey.symm.trans heq) v hv hlane
      rw [ofKey_concat, if_neg hne]
  · cases hevent
    simp [events, hends, receipt?_eq, Slot.ticket]

theorem Punctual.looks (h : Punctual acts t) {lane? : Option String}
    (hw : t.lanes.workers = before ++ ⟨lane?, .between⟩ :: after) :
    Punctual acts (t.work before ⟨lane?, .between⟩ after) := by
  have hothers := h.others hw
  have hnone : (t.lanes.step t.clock before ⟨lane?, .between⟩ after).2 = none := by
    cases lane? with
    | none => rfl
    | some key =>
      simp only [Lanes.step]
      split <;> rfl
  have hended : (history acts (t.work before ⟨lane?, .between⟩ after)).ended =
      (history acts t).ended := by
    rw [ended_history_work, hnone]
    exact List.append_nil _
  refine h.work_of hw ?_ fun event hevent => ?_
  · rw [hended]
    cases lane? with
    | none => exact hothers
    | some key =>
      rw [work, Lanes.step]
      dsimp only
      cases htake : Lanes.take key t.lanes.queues with
      | mk job? queues =>
        cases job? with
        | none => exact hothers
        | some job => exact forall_mem_around (h.starts_of_next hw htake) hothers
  · rw [hnone] at hevent
    cases hevent

theorem Punctual.work (h : Punctual acts t) (hw : t.lanes.workers = before ++ w :: after)
    (hdue : w.due t.clock ≤ t.clock) : Punctual acts (t.work before w after) := by
  obtain ⟨lane?, stage⟩ := w
  cases stage with
  | holding job => exact h.starts hw
  | running job ends => exact h.ends hw hdue
  | between => exact h.looks hw

theorem Arises.punctual (h : Arises acts t) : Punctual acts t := by
  induction h with
  | start => exact punctual_start
  | submit key? job _ hclock ih => exact ih.submit hclock key? job
  | advance nanos _ ih => exact ih.advance nanos
  | pass _ hle _ hdue ih => exact ih.pass hle hdue
  | work _ hw hdue ih => exact ih.work hw hdue

end TimedLanes

end ChatCommands
