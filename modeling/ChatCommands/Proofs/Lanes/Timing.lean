import Mathlib.Data.List.Dedup
import ChatCommands.Proofs.Lanes.Punctual

/-! # Jobs start and end on time

Each lane serves its jobs one after another and is never idle while one waits. So what was seen of
the jobs by any moment at which nothing is left to do is what the timetable says, and the lanes that
are there then are those with a job that has not ended.
-/

namespace ChatCommands

open LaneAct Slot

variable {P : Type}

namespace TimedLanes

/-- Nothing is left to do at this moment. -/
def Settled (t : TimedLanes P) : Prop :=
  ∀ w ∈ t.lanes.workers, t.clock < w.due t.clock

variable {acts : List (LaneAct P)} {t : TimedLanes (Ticket P)} {slot : Slot P}
  {w : Worker (Ticket P)} {key : String} {job : Job (Ticket P)} {target : Nat}

/-! ## Settled moments -/

/-- A worker that has nothing to do now runs a job that is still to end. -/
theorem Punctual.running (h : Punctual acts t) (hs : t.Settled) (hw : w ∈ t.lanes.workers) :
    ∃ slot ∈ timetable acts, w.stage = .running slot.job slot.ends ∧ t.clock < slot.ends := by
  obtain ⟨job, hstage⟩ := Worker.running_of_lt_due (hs w hw)
  have hkeeps := h.workers w hw
  rw [Keeps, hstage] at hkeeps
  obtain ⟨-, slot, hslot, rfl, hends⟩ := hkeeps
  exact ⟨slot, hslot, by rw [hstage, hends], hends ▸ hs w hw⟩

theorem exists_worker_of_hasLane (h : t.lanes.Tended) (hlane : t.lanes.hasLane key = true) :
    ∃ w, w ∈ t.lanes.workers ∧ Lanes.ofLane (some key) t.lanes.workers = [w] := by
  have hlength := h.length_ofLane key
  rw [hlane, if_pos rfl, List.length_eq_one_iff] at hlength
  obtain ⟨w, hw⟩ := hlength
  have hmem : w ∈ Lanes.ofLane (some key) t.lanes.workers := hw ▸ List.mem_singleton_self w
  exact ⟨w, (List.mem_filter.mp hmem).1, hw⟩

/-- A lane that is there runs its first job. -/
theorem Punctual.running_of_hasLane (h : Punctual acts t) (hs : t.Settled)
    (hlane : t.lanes.hasLane key = true) : ∃ slot ∈ timetable acts, slot.key? = some key ∧
      t.clock < slot.ends ∧
        t.lanes.line (some key) = slot.job :: Lanes.queueOf (some key) t.lanes.queues := by
  obtain ⟨w, hw, hworkers⟩ := exists_worker_of_hasLane h.tended hlane
  obtain ⟨slot, hslot, hstage, hlt⟩ := h.running hs hw
  have hjob : w.job? = some slot.job := by rw [Worker.job?, hstage]
  have hkey : w.lane? = some key := by
    have hmem : w ∈ Lanes.ofLane (some key) t.lanes.workers := hworkers ▸ List.mem_singleton_self w
    exact eq_of_beq (List.mem_filter.mp hmem).2
  refine ⟨slot, hslot, (h.key?_of_job? hw hjob).trans hkey, hlt, ?_⟩
  rw [Lanes.line, hworkers, List.filterMap_cons_some hjob]
  rfl

theorem queueOf_of_mem {queues : List (String × List (Job (Ticket P)))}
    {queue : List (Job (Ticket P))} (hkeys : (queues.map Prod.fst).Nodup)
    (h : (key, queue) ∈ queues) : Lanes.queueOf (some key) queues = queue := by
  induction queues with
  | nil => cases h
  | cons entry queues ih =>
    obtain ⟨name, first⟩ := entry
    obtain ⟨hname, hrest⟩ := List.nodup_cons.mp hkeys
    rcases List.mem_cons.mp h with heq | hmem
    · cases heq
      simp [Lanes.queueOf]
    · have hne : key ≠ name := by
        rintro rfl
        exact hname (List.mem_map.mpr ⟨_, hmem, rfl⟩)
      rw [Lanes.queueOf, Option.bind_some, List.lookup_cons, beq_eq_false_iff_ne.mpr hne]
      exact ih hrest hmem

/-- A job in a queue starts when the running one of its lane has ended, or later. -/
theorem Punctual.lt_starts_of_queued (h : Punctual acts t) (hs : t.Settled)
    {queue : List (Job (Ticket P))} (hqueue : (key, queue) ∈ t.lanes.queues) (hjob : job ∈ queue)
    (hslot : slot ∈ timetable acts) (hticket : slot.ticket = job.task) :
    t.clock < slot.starts := by
  have hlane : t.lanes.hasLane key = true :=
    Lanes.hasLane_iff.mpr (List.mem_map_of_mem (f := Prod.fst) hqueue)
  obtain ⟨running, hrunning, -, hlt, hline⟩ := h.running_of_hasLane hs hlane
  obtain ⟨done, rest, hslots, -, hrest⟩ := h.ofLane_eq key
  rw [hline, queueOf_of_mem h.tended.keys hqueue] at hrest
  obtain ⟨first, waiting, rfl, hfirst, hwaiting⟩ := List.map_eq_cons_iff.mp hrest
  rw [← hwaiting] at hjob
  obtain ⟨other, hother, rfl⟩ := List.mem_map.mp hjob
  obtain ⟨-, hlater⟩ := subset_of_ofLane_eq hslots
  obtain rfl := eq_of_ticket_eq hslot (hlater (List.mem_cons_of_mem _ hother)) hticket
  obtain rfl := eq_of_ticket_eq (hlater List.mem_cons_self) hrunning (congrArg Job.task hfirst)
  have hpairwise := pairwise_ofLane acts key
  rw [hslots] at hpairwise
  have hle := List.rel_of_pairwise_cons (List.pairwise_append.mp hpairwise).2.1 hother
  omega

/-- At a settled moment, each job has ended, or runs, or is still to start. -/
theorem Punctual.of_settled (h : Punctual acts t) (hs : t.Settled) (hslot : slot ∈ timetable acts) :
    (slot.ticket ∈ (history acts t).ended ∧ slot.ticket ∈ (history acts t).started) ∨
      (slot.ticket ∈ (history acts t).started ∧ t.clock < slot.ends) ∨ t.clock < slot.starts := by
  have hmem : slot.ticket ∈ (history acts t).tickets := by
    rw [tickets_history]
    exact List.mem_map_of_mem hslot
  rw [h.kept.placed.mem_iff, List.mem_append, List.mem_append] at hmem
  rw [h.kept.entered.mem_iff, List.mem_append]
  rcases hmem with hended | hwaiting | hrunning
  · exact Or.inl ⟨hended, Or.inl hended⟩
  · right; right
    obtain ⟨job, hjob, hticket⟩ := List.mem_map.mp hwaiting
    rcases List.mem_append.mp hjob with hjob | hjob
    · obtain ⟨⟨key, queue⟩, hqueue, hjob⟩ := List.mem_flatMap.mp hjob
      exact h.lt_starts_of_queued hs hqueue hjob hslot hticket.symm
    · obtain ⟨w, hw, hheld⟩ := List.mem_filterMap.mp hjob
      obtain ⟨running, -, hstage, -⟩ := h.running hs hw
      rw [Worker.held?, hstage] at hheld
      cases hheld
  · refine Or.inr (Or.inl ⟨Or.inr hrunning, ?_⟩)
    obtain ⟨job, hjob, hticket⟩ := List.mem_map.mp hrunning
    obtain ⟨w, hw, hrun⟩ := List.mem_filterMap.mp hjob
    obtain ⟨running, hrunning, hstage, hlt⟩ := h.running hs hw
    rw [Worker.running?, hstage] at hrun
    cases hrun
    rwa [eq_of_ticket_eq hslot hrunning hticket.symm]

theorem Punctual.mem_log_of_settled (h : Punctual acts t) (hs : t.Settled)
    (hslot : slot ∈ timetable acts) {entry : Nat × LaneEvent (Ticket P)}
    (hentry : entry ∈ slot.events) (hle : entry.1 ≤ t.clock) : entry ∈ t.log := by
  have hlast : slot.starts ≤ slot.ends := Nat.le_add_right _ _
  simp only [events, List.mem_cons, List.not_mem_nil, or_false] at hentry
  rcases h.of_settled hs hslot with ⟨hended, hstarted⟩ | ⟨hstarted, hlt⟩ | hlt
  · rcases hentry with rfl | rfl
    · exact (h.of_started hslot hstarted).2
    · exact (h.of_ended hslot hended).2
  · rcases hentry with rfl | rfl
    · exact (h.of_started hslot hstarted).2
    · exact absurd hle (Nat.not_le.mpr hlt)
  · rcases hentry with rfl | rfl
    · exact absurd hle (Nat.not_le.mpr hlt)
    · exact absurd hle (Nat.not_le.mpr (Nat.lt_of_lt_of_le hlt hlast))

/-- The keys that have a job which has not ended. -/
def openKeys (slots : List (Slot P)) (now : Nat) : List String :=
  ((slots.filter (now < ·.ends)).filterMap Slot.key?).dedup

theorem mem_openKeys {slots : List (Slot P)} {now : Nat} : key ∈ openKeys slots now ↔
    ∃ slot ∈ slots, slot.key? = some key ∧ now < slot.ends := by
  simp only [openKeys, List.mem_dedup, List.mem_filterMap, List.mem_filter, decide_eq_true_eq]
  exact ⟨fun ⟨slot, ⟨hslot, hlt⟩, hkey⟩ => ⟨slot, hslot, hkey, hlt⟩,
    fun ⟨slot, hslot, hkey, hlt⟩ => ⟨slot, ⟨hslot, hlt⟩, hkey⟩⟩

theorem nodup_openKeys (slots : List (Slot P)) (now : Nat) : (openKeys slots now).Nodup :=
  List.nodup_dedup _

/-- The lanes at a settled moment are those with a job that has not ended. -/
theorem Punctual.hasLane_iff (h : Punctual acts t) (hs : t.Settled) :
    t.lanes.hasLane key = true ↔
      ∃ slot ∈ timetable acts, slot.key? = some key ∧ t.clock < slot.ends := by
  constructor
  · intro hlane
    obtain ⟨slot, hslot, hkey, hlt, -⟩ := h.running_of_hasLane hs hlane
    exact ⟨slot, hslot, hkey, hlt⟩
  · rintro ⟨slot, hslot, hkey, hlt⟩
    by_contra hlane
    have hended := h.mem_ended_of_no_lane (by simpa using hlane) (mem_ofLane.mpr ⟨hslot, hkey⟩)
    exact absurd (h.of_ended hslot hended).1 (Nat.not_le.mpr hlt)

theorem Punctual.active_eq (h : Punctual acts t) (hs : t.Settled) :
    t.lanes.active = (openKeys (timetable acts) t.clock).length := by
  rw [Lanes.active, ← List.length_map Prod.fst]
  refine List.Perm.length_eq ?_
  refine (List.perm_ext_iff_of_nodup h.tended.keys (nodup_openKeys _ _)).mpr fun key => ?_
  rw [← Lanes.hasLane_iff, h.hasLane_iff hs, mem_openKeys]

/-! ## Each event once -/

theorem nodup_of_events {events : List (LaneEvent (Ticket P))}
    (hstarted : (events.filterMap LaneEvent.started?).Nodup)
    (hended : (events.filterMap LaneEvent.ended?).Nodup) : events.Nodup := by
  induction events with
  | nil => exact .nil
  | cons event events ih =>
    cases event with
    | started ticket =>
      obtain ⟨hnew, hrest⟩ := List.nodup_cons.mp hstarted
      refine List.nodup_cons.mpr ⟨fun hmem => hnew ?_, ih hrest hended⟩
      exact List.mem_filterMap.mpr ⟨_, hmem, rfl⟩
    | ended ticket receipt? =>
      obtain ⟨hnew, hrest⟩ := List.nodup_cons.mp hended
      refine List.nodup_cons.mpr ⟨fun hmem => hnew ?_, ih hstarted hrest⟩
      exact List.mem_filterMap.mpr ⟨_, hmem, rfl⟩

theorem Punctual.nodup_log (h : Punctual acts t) : t.log.Nodup :=
  List.Nodup.of_map Prod.snd (nodup_of_events h.kept.nodup_started h.kept.nodup_ended)

/-! ## Time passes -/

theorem Punctual.le_due (h : Punctual acts t) (hw : w ∈ t.lanes.workers) :
    t.clock ≤ w.due t.clock := by
  have hkeeps := h.workers w hw
  obtain ⟨lane?, stage⟩ := w
  cases stage with
  | holding job | between => exact Nat.le_refl _
  | running job ends => exact hkeeps.1

theorem Arises.advance_to (h : Arises acts t) (hle : t.clock ≤ target)
    (htarget : target ≤ elapsed acts) : Arises acts (t.advance target) ∧
      (t.advance target).clock = target ∧ (t.advance target).Settled := by
  fun_induction TimedLanes.advance target t with
  | case1 t hnone =>
    have hworkers := eq_nil_of_earliest? hnone
    have hidle : ∀ w ∈ t.lanes.workers, target ≤ w.due t.clock := by
      rw [hworkers]
      exact List.forall_mem_nil _
    refine ⟨h.pass hle htarget hidle, rfl, ?_⟩
    rw [Settled, hworkers]
    exact List.forall_mem_nil _
  | case2 t before w after hfirst hdue moment taken ih =>
    have hworkers := eq_append_of_earliest? hfirst
    have hsoonest := le_due_of_earliest? hfirst
    have hpass := h.pass (h.punctual.le_due (hworkers ▸ List.mem_append_cons_self))
      (Nat.le_trans hdue htarget) hsoonest
    exact ih (hpass.work hworkers (Nat.le_of_eq (w.due_due t.clock))) hdue
  | case3 t before w after hfirst hdue =>
    have hsoonest : ∀ v ∈ t.lanes.workers, target < v.due t.clock := fun v hv =>
      Nat.lt_of_lt_of_le (Nat.lt_of_not_le hdue) (le_due_of_earliest? hfirst v hv)
    refine ⟨h.pass hle htarget fun v hv => Nat.le_of_lt (hsoonest v hv), rfl, fun v hv => ?_⟩
    rw [Worker.due_eq_of_lt (Nat.lt_of_le_of_lt hle (hsoonest v hv))]
    exact hsoonest v hv

/-! ## Runs -/

/-- All that is done, one after another. -/
def followFrom (number : Nat) (t : TimedLanes (Ticket P)) :
    List (LaneAct P) → TimedLanes (Ticket P)
  | [] => t
  | .submit key? job :: acts =>
    followFrom (number + 1) (t.submit key? (job.ticketed number key?)) acts
  | .advance nanos :: acts => followFrom number (t.advance (t.clock + nanos)) acts

def follow (acts : List (LaneAct P)) : TimedLanes (Ticket P) :=
  followFrom 0 {} acts

theorem followFrom_concat_advance (number : Nat) (t : TimedLanes (Ticket P))
    (acts : List (LaneAct P)) (nanos : Nat) : followFrom number t (acts ++ [.advance nanos]) =
      (followFrom number t acts).advance ((followFrom number t acts).clock + nanos) := by
  induction acts generalizing number t with
  | nil => rfl
  | cons act acts ih =>
    cases act with
    | submit key? job => exact ih _ _
    | advance nanos => exact ih _ _

theorem Arises.followFrom {more : List (LaneAct P)} (h : Arises acts t)
    (hclock : t.clock = elapsed acts) :
    Arises (acts ++ more) (t.followFrom (timetable acts).length more) ∧
      (t.followFrom (timetable acts).length more).clock = elapsed (acts ++ more) := by
  induction more generalizing acts t with
  | nil =>
    rw [List.append_nil]
    exact ⟨h, hclock⟩
  | cons act more ih =>
    rw [List.append_cons]
    cases act with
    | submit key? job =>
      have hlength : (timetable (acts ++ [.submit key? job])).length =
          (timetable acts).length + 1 := by
        rw [timetable_submit, List.length_append, List.length_singleton]
      have hmore := ih (h.submit key? job hclock) (hclock.trans (elapsed_submit acts key? job).symm)
      rwa [hlength] at hmore
    | advance nanos =>
      have helapsed : t.clock + nanos = elapsed (acts ++ [.advance nanos]) := by
        rw [elapsed_advance, hclock]
      obtain ⟨harises, htarget, -⟩ :=
        (h.advance nanos).advance_to (Nat.le_add_right t.clock nanos) (Nat.le_of_eq helapsed)
      have hmore := ih harises (htarget.trans helapsed)
      rwa [timetable_advance] at hmore

theorem arises_follow (acts : List (LaneAct P)) :
    Arises acts (follow acts) ∧ (follow acts).clock = elapsed acts :=
  Arises.start.followFrom rfl

theorem settled_follow (acts : List (LaneAct P)) (nanos : Nat) :
    (follow (acts ++ [.advance nanos])).Settled := by
  obtain ⟨harises, hclock⟩ := arises_follow acts
  rw [follow, followFrom_concat_advance]
  refine ((harises.advance nanos).advance_to (Nat.le_add_right _ nanos) (Nat.le_of_eq ?_)).2.2
  rw [elapsed_advance, hclock]

/-- All that is said of the jobs of lanes on a clock. -/
structure OnTime (acts : List (LaneAct P)) (t : TimedLanes (Ticket P)) : Prop where
  /-- A job without a key starts when it is submitted. -/
  loose : ∀ slot ∈ timetable acts, slot.key? = none → slot.starts = slot.submitted
  /-- A job of a lane starts when it is submitted, or when the one before it ends if this is
  later. -/
  queued : ∀ key before slot after, ofLane key (timetable acts) = before ++ slot :: after →
    slot.starts = startAfter before.getLast? slot.submitted
  /-- Nothing is seen twice. -/
  once : t.log.Nodup
  /-- What is seen is what the timetable says, and at its moment. -/
  seen : ∀ entry ∈ t.log, entry.1 ≤ t.clock ∧ ∃ slot ∈ timetable acts, entry ∈ slot.events
  /-- Nothing is late. -/
  complete : t.Settled → ∀ slot ∈ timetable acts, ∀ entry ∈ slot.events, entry.1 ≤ t.clock →
    entry ∈ t.log
  /-- The lanes that are there are those with a job that has not ended. -/
  active : t.Settled → t.lanes.active = (openKeys (timetable acts) t.clock).length

theorem Punctual.onTime (h : Punctual acts t) : OnTime acts t where
  loose _ hslot hkey := starts_of_key?_eq_none hslot hkey
  queued _ _ _ _ hslots := starts_of_ofLane hslots
  once := h.nodup_log
  seen := h.seen
  complete hs _ hslot _ hentry hle := h.mem_log_of_settled hs hslot hentry hle
  active := h.active_eq

/-- All is on time, in whatever order the steps of one moment are taken. What the clock does by
itself is one of these orders, and leaves nothing to do. -/
theorem lanes_keep_time (acts : List (LaneAct P)) :
    (Arises acts (follow acts) ∧ (follow acts).clock = elapsed acts ∧
      ∀ nanos, (follow (acts ++ [.advance nanos])).Settled) ∧
    ∀ t, Arises acts t → OnTime acts t :=
  ⟨⟨(arises_follow acts).1, (arises_follow acts).2, settled_follow acts⟩,
    fun _ harises => harises.punctual.onTime⟩

end TimedLanes

end ChatCommands
