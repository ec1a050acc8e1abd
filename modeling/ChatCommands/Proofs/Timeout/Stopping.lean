import ChatCommands.Proofs.Timeout.History
import ChatCommands.Proofs.Timer.Told

/-! # A timeout when its timer task stops

A timer that is set once the task takes no more messages is cancelled on the spot. A timeout does
not look at that: what it answers says whether it set a timer, which is pending exactly if the task
still took messages.
-/

namespace ChatCommands

namespace Timeout

variable {C J : Type}

/-- Arming sets a timer, unless its deadline would lie past the horizon. The timer is pending if the
task still takes messages. -/
theorem arm_or_pastHorizon (t : Timeout C) (timers : TimedTimers J) (job : J) :
    (Timers.horizon < timers.clock + t.duration.nanos ∧
      t.arm timers job = (.error .pastHorizon, t, timers)) ∨
    timers.clock + t.duration.nanos ≤ Timers.horizon ∧ ∃ later : Timers J,
      t.arm timers job = (.ok true, { t with current? := some timers.timers.arms.length },
        { timers with timers := later }) ∧
      timers.timers.Grows later ∧ later.arms.length = timers.timers.arms.length + 1 ∧
      later.isPending timers.timers.arms.length = timers.timers.isRunning := by
  unfold arm TimedTimers.schedule
  rcases timers.timers.schedule_cases timers.clock t.duration.nanos job with
    ⟨hpast, hset⟩ | ⟨hle, hrunning, hset⟩ | ⟨hle, hstopped, hset⟩
  · rw [hset]
    exact Or.inl ⟨hpast, rfl⟩
  · rw [hset]
    refine Or.inr ⟨hle, _, rfl, ⟨rfl, by simp, by simp⟩, by simp, ?_⟩
    rw [hrunning]
    exact (Timers.isPending_concat rfl _).mpr (Or.inr ⟨rfl, rfl⟩)
  · rw [hset]
    refine Or.inr ⟨hle, _, rfl, ⟨rfl, Iff.rfl, by simp⟩, by simp, ?_⟩
    simp [hstopped, Timers.isPending, Timers.arm?]

/-- The handle is that of a timer that was set. -/
def Holds (t : Timeout C) (timers : TimedTimers J) : Prop :=
  ∀ id, t.current? = some id → id < timers.timers.arms.length

/-- An operation leaves the task with what it was told, and the handle with a timer. -/
structure Updates (t u : Timeout C) (timers later : TimedTimers J) : Prop where
  grows : timers.timers.Grows later.timers
  holds : t.Holds timers → u.Holds later

variable {t u : Timeout C} {timers later : TimedTimers J}

theorem updates_of_current?_eq (h : u.current? = t.current?) : t.Updates u timers timers :=
  ⟨Timers.grows_refl _, fun hheld id hid => hheld id (h ▸ hid)⟩

theorem Updates.trans {v : Timeout C} {last : TimedTimers J} (h : t.Updates u timers later)
    (hv : u.Updates v later last) : t.Updates v timers last :=
  ⟨h.grows.trans hv.grows, fun hheld => hv.holds (h.holds hheld)⟩

theorem updates_arm (t : Timeout C) (timers : TimedTimers J) (job : J) :
    t.Updates (t.arm timers job).2.1 timers (t.arm timers job).2.2 := by
  rcases t.arm_or_pastHorizon timers job with ⟨-, harm⟩ | ⟨-, later, harm, hgrows, hlength, -⟩
  · rw [harm]
    exact updates_of_current?_eq rfl
  · rw [harm]
    refine ⟨hgrows, fun _ id hid => ?_⟩
    cases hid
    exact hlength ▸ Nat.lt_succ_self _

theorem updates_stop (t : Timeout C) (timers : TimedTimers J) :
    t.Updates (t.stop timers).2.1 timers (t.stop timers).2.2 := by
  unfold stop
  split
  · exact updates_of_current?_eq rfl
  · exact ⟨timers.timers.grows_cancel _, nofun⟩

theorem updates_start (t : Timeout C) (timers : TimedTimers J) (job : J) :
    t.Updates (t.start timers job).2.1 timers (t.start timers job).2.2 := by
  unfold start
  split
  · exact updates_of_current?_eq rfl
  · exact t.updates_arm timers job

theorem updates_startWith (t : Timeout C) (duration : Duration) (timers : TimedTimers J) (job : J) :
    t.Updates (t.startWith duration timers job).2.1 timers
      (t.startWith duration timers job).2.2 := by
  rcases t.startWith_cases duration timers job with hsame | ⟨-, hstart⟩
  · rw [hsame]
    exact updates_of_current?_eq rfl
  · rw [hstart]
    have hchanged : t.Updates { t with duration := duration } timers timers :=
      updates_of_current?_eq rfl
    exact hchanged.trans (updates_start _ timers job)

theorem updates_restart (t : Timeout C) (timers : TimedTimers J) (job : J) :
    t.Updates (t.restart timers job).2.1 timers (t.restart timers job).2.2 := by
  unfold restart
  split
  · exact updates_of_current?_eq rfl
  · exact (t.updates_stop timers).trans (updates_arm _ _ job)

theorem stop_leaves (t : Timeout C) (timers : TimedTimers J) :
    (t.stop timers).2.1.current? = none ∧
      (t.stop timers).2.2.timers.phase = timers.timers.phase ∧
      (t.stop timers).2.2.timers.arms.length = timers.timers.arms.length := by
  unfold stop
  split
  · rename_i hnone
    exact ⟨hnone, rfl, rfl⟩
  · exact ⟨rfl, (timers.timers.grows_cancel _).phase, timers.timers.length_turn _ _⟩

theorem start_cases (t : Timeout C) (timers : TimedTimers J) (job : J) :
    (¬(t.enabled = true ∧ t.isArmed timers = false) ∧
      t.start timers job = (.ok false, t, timers)) ∨
    t.enabled = true ∧ t.isArmed timers = false ∧ t.start timers job = t.arm timers job := by
  unfold start
  cases t.enabled <;> cases t.isArmed timers <;> simp

theorem startWith_refused_or_arms (t : Timeout C) (duration : Duration) (timers : TimedTimers J)
    (job : J) :
    (¬(t.enabled = true ∧ t.isArmed timers = false) ∧ ∃ u : Timeout C,
      t.startWith duration timers job = (.ok false, u, timers) ∧ u.current? = t.current?) ∨
    t.enabled = true ∧ t.isArmed timers = false ∧
      t.startWith duration timers job = Timeout.arm { t with duration := duration } timers job := by
  unfold startWith
  cases harmed : t.isArmed timers with
  | true => exact Or.inl ⟨by simp, t, rfl, rfl⟩
  | false =>
    have hchanged : Timeout.isArmed { t with duration := duration } timers = false := harmed
    rcases start_cases { t with duration := duration } timers job with
      ⟨hrefused, hstart⟩ | ⟨henabled, -, hstart⟩
    · exact Or.inl ⟨fun h => hrefused ⟨h.1, hchanged⟩, _, hstart, rfl⟩
    · exact Or.inr ⟨henabled, rfl, hstart⟩

theorem restart_cases (t : Timeout C) (timers : TimedTimers J) (job : J) :
    (t.enabled = false ∧ t.restart timers job = (.ok false, t, timers)) ∨
    t.enabled = true ∧
      t.restart timers job = (t.stop timers).2.1.arm (t.stop timers).2.2 job := by
  unfold restart
  cases t.enabled <;> simp

end Timeout

/-- What may be done with a timeout and with the task that keeps its timers. -/
inductive StoppableAct (C : Type)
  | use (act : TimeoutAct C)
  | shutdown
  /-- The task takes its next step, if it can take one now. -/
  | step

namespace TimeoutRun

open TimeoutAct

variable {C : Type} {duration : Duration} {enabled : Bool} {acts : List (StoppableAct C)}
  {act : TimeoutAct C} {r : TimeoutRun C}

/-- The task takes its next step, and the job that it hands over makes the callback at once. -/
def step (r : TimeoutRun C) : TimeoutRun C :=
  match r.timers.timers.act? r.timers.clock with
  | none => r
  | some timers =>
    { r with
      timers := { r.timers with timers := { timers with handed := [] } }
      calls := r.calls ++ timers.handed.filterMap fun _ =>
        r.timeout.callback?.map fun callback => (r.timers.clock, callback) }

def attend (r : TimeoutRun C) : StoppableAct C → TimeoutRun C
  | .use act => (r.perform act).2
  | .shutdown => { r with timers := r.timers.shutdown }
  | .step => r.step

/-- The state after acts one after the other, on a timeout that was just made. -/
def reached (duration : Duration) (enabled : Bool) (acts : List (StoppableAct C)) : TimeoutRun C :=
  acts.foldl attend { timeout := { duration := duration, enabled := enabled } }

/-- A call has armed the timeout, which is now pending with a timer that was not set before. -/
def ArmedBy (r u : TimeoutRun C) : Prop :=
  u.timeout.isArmed u.timers = true ∧
    ∃ id, u.timeout.current? = some id ∧ r.timers.timers.arms.length ≤ id

/-- The timeout is enabled and in use, and either idle or to be restarted. -/
def Ready (r : TimeoutRun C) (act : TimeoutAct C) : Prop :=
  r.timeout.enabled = true ∧ r.dropped = false ∧
    (act = .restart ∨ r.timeout.isArmed r.timers = false)

theorem updates_perform (r : TimeoutRun C) (hact : ∀ nanos, act ≠ .advance nanos) :
    r.timeout.Updates (r.perform act).2.timeout r.timers (r.perform act).2.timers := by
  cases hdropped : r.dropped with
  | true =>
    rw [perform_of_dropped hdropped hact]
    exact Timeout.updates_of_current?_eq rfl
  | false =>
    cases act with
    | advance nanos => exact absurd rfl (hact nanos)
    | start =>
      rw [perform, unlessDropped_of_not hdropped]
      exact r.timeout.updates_start r.timers ()
    | startWith next =>
      rw [perform, unlessDropped_of_not hdropped]
      exact r.timeout.updates_startWith next r.timers ()
    | restart =>
      rw [perform, unlessDropped_of_not hdropped]
      exact r.timeout.updates_restart r.timers ()
    | stop | drop =>
      rw [perform, unlessDropped_of_not hdropped]
      exact r.timeout.updates_stop r.timers
    | onTimeout callback =>
      rw [perform, unlessDropped_of_not hdropped]
      unfold listen Timeout.onTimeout
      cases r.timeout.callback? <;> exact Timeout.updates_of_current?_eq rfl

/-- What an act makes of the task and of the handle. Only time and the task make it stop. -/
structure Attends (r : TimeoutRun C) (act : StoppableAct C) (u : TimeoutRun C) : Prop where
  enabled : u.timeout.enabled = r.timeout.enabled
  told_iff : u.timers.timers.Told ↔ r.timers.timers.Told ∨ act = .shutdown
  stopped : r.timers.timers.isRunning = false → u.timers.timers.isRunning = false
  holds : r.timeout.Holds r.timers → u.timeout.Holds u.timers

theorem attends_attend (r : TimeoutRun C) (act : StoppableAct C) :
    r.Attends act (r.attend act) := by
  have hgoes (timers : TimedTimers Unit) {u : TimeoutRun C}
      (h : r.timers.timers.Goes timers.timers) (htimers : u.timers = timers)
      (htimeout : u.timeout = r.timeout) (hact : act ≠ .shutdown) : r.Attends act u := by
    subst htimers
    constructor
    · rw [htimeout]
    · rw [h.told]
      exact (or_iff_left hact).symm
    · exact h.stopped
    · intro hheld id hid
      rw [htimeout] at hid
      rw [h.length]
      exact hheld id hid
  cases act with
  | shutdown =>
    obtain ⟨harms, hphase, -⟩ := r.timers.timers.shutdown_eq
    constructor
    · rfl
    · exact iff_of_true r.timers.timers.told_shutdown (Or.inr rfl)
    · exact fun hstopped => (Timers.isRunning_congr hphase).trans hstopped
    · exact fun hheld id hid => harms ▸ hheld id hid
  | step =>
    rw [attend, step]
    split
    · exact hgoes r.timers ⟨Iff.rfl, id, rfl⟩ rfl rfl (by simp)
    · rename_i timers hact
      obtain ⟨htold, hstopped, hlength⟩ := Timers.goes_act? hact
      exact hgoes ⟨r.timers.clock, { timers with handed := [] }⟩
        ⟨htold, hstopped, hlength⟩ rfl rfl (by simp)
  | use act =>
    by_cases hact : ∀ nanos, act ≠ .advance nanos
    · obtain ⟨hgrows, hheld⟩ := r.updates_perform hact
      constructor
      · exact (frame_perform r act).enabled
      · exact hgrows.told_iff.trans (or_iff_left (by simp)).symm
      · exact fun hstopped => hgrows.isRunning.trans hstopped
      · exact hheld
    · push Not at hact
      obtain ⟨nanos, rfl⟩ := hact
      exact hgoes _ (r.timers.goes_advance _) rfl rfl (by simp)

theorem reached_concat (acts : List (StoppableAct C)) (act : StoppableAct C) :
    reached duration enabled (acts ++ [act]) = (reached duration enabled acts).attend act := by
  rw [reached, List.foldl_append, reached]
  rfl

theorem enabled_reached (duration : Duration) (enabled : Bool) (acts : List (StoppableAct C)) :
    (reached duration enabled acts).timeout.enabled = enabled := by
  induction acts using List.reverseRecOn with
  | nil => rfl
  | append_singleton acts act ih => rw [reached_concat, (attends_attend _ act).enabled, ih]

theorem holds_reached (duration : Duration) (enabled : Bool) (acts : List (StoppableAct C)) :
    (reached duration enabled acts).timeout.Holds (reached duration enabled acts).timers := by
  induction acts using List.reverseRecOn with
  | nil => exact fun _ h => nomatch h
  | append_singleton acts act ih =>
    rw [reached_concat]
    exact (attends_attend _ act).holds ih

theorem told_reached_iff :
    (reached duration enabled acts).timers.timers.Told ↔ .shutdown ∈ acts := by
  induction acts using List.reverseRecOn with
  | nil => simp [reached, Timers.Told, Timers.isRunning]
  | append_singleton acts act ih =>
    rw [reached_concat, (attends_attend _ act).told_iff, ih, List.mem_append, List.mem_singleton,
      eq_comm (a := act)]

theorem stopped_reached_append (h : (reached duration enabled acts).timers.timers.isRunning = false)
    (later : List (StoppableAct C)) :
    (reached duration enabled (acts ++ later)).timers.timers.isRunning = false := by
  induction later using List.reverseRecOn with
  | nil => rwa [List.append_nil]
  | append_singleton later act ih =>
    rw [← List.append_assoc, reached_concat]
    exact (attends_attend _ act).stopped ih

/-- Once time was given to a task that was told to stop, it takes no more messages. -/
theorem stopped_reached {nanos : Nat} (h : .shutdown ∈ acts) (later : List (StoppableAct C)) :
    (reached duration enabled
      (acts ++ .use (.advance nanos) :: later)).timers.timers.isRunning = false := by
  have hstopped : (reached duration enabled
      (acts ++ [.use (.advance nanos)])).timers.timers.isRunning = false := by
    rw [reached_concat]
    exact TimedTimers.isRunning_advance (told_reached_iff.mpr h) (Nat.le_add_right _ _)
  rw [List.append_cons]
  exact stopped_reached_append hstopped later

/-- A call that may arm a timeout which is ready for it sets a timer, and any other does nothing. -/
theorem perform_arming (hact : act.Arming) (r : TimeoutRun C) :
    (¬r.Ready act ∧ (r.perform act).1 ≠ some (.ok true) ∧
      (r.perform act).2.timeout.current? = r.timeout.current? ∧
      (r.perform act).2.timers = r.timers) ∨
    r.Ready act ∧ ∃ (t : Timeout C) (timers : TimedTimers Unit),
      r.perform act = r.take (t.arm timers ()) ∧ t.isArmed timers = false ∧
      t.duration = act.duration r.timeout.duration ∧ timers.clock = r.timers.clock ∧
      timers.timers.phase = r.timers.timers.phase ∧
      timers.timers.arms.length = r.timers.timers.arms.length := by
  cases hdropped : r.dropped with
  | true =>
    have hadvance : ∀ nanos, act ≠ .advance nanos := by
      rintro nanos rfl
      cases hact
    rw [perform_of_dropped hdropped hadvance]
    exact Or.inl ⟨fun h => by simp [h.2.1] at hdropped, by simp, rfl, rfl⟩
  | false =>
    cases hact with
    | start =>
      rw [perform, unlessDropped_of_not hdropped]
      rcases r.timeout.start_cases r.timers () with ⟨hrefused, hstart⟩ | ⟨henabled, hidle, hstart⟩
      · rw [hstart]
        left
        exact ⟨fun h => hrefused ⟨h.1, by simpa using h.2.2⟩, by simp [take], rfl, rfl⟩
      · rw [hstart]
        right
        exact ⟨⟨henabled, hdropped, Or.inr hidle⟩, _, _, rfl, hidle, rfl, rfl, rfl, rfl⟩
    | startWith next =>
      rw [perform, unlessDropped_of_not hdropped]
      rcases r.timeout.startWith_refused_or_arms next r.timers () with
        ⟨hrefused, u, hstart, hcurrent⟩ | ⟨henabled, hidle, hstart⟩
      · rw [hstart]
        left
        exact ⟨fun h => hrefused ⟨h.1, by simpa using h.2.2⟩, by simp [take], hcurrent, rfl⟩
      · rw [hstart]
        right
        exact ⟨⟨henabled, hdropped, Or.inr hidle⟩, _, _, rfl, hidle, rfl, rfl, rfl, rfl⟩
    | restart =>
      rw [perform, unlessDropped_of_not hdropped]
      rcases r.timeout.restart_cases r.timers () with ⟨hdisabled, hrestart⟩ | ⟨henabled, hrestart⟩
      · rw [hrestart]
        left
        exact ⟨fun h => by simp [h.1] at hdisabled, by simp [take], rfl, rfl⟩
      · obtain ⟨hcurrent, hphase, hlength⟩ := r.timeout.stop_leaves r.timers
        have hkeeps := r.timeout.keeps_stop r.timers
        rw [hrestart]
        right
        refine ⟨⟨henabled, hdropped, Or.inl rfl⟩, _, _, rfl, ?_, hkeeps.duration, hkeeps.clock,
          hphase, hlength⟩
        rw [Timeout.isArmed, hcurrent]
        rfl

/-- A timeout that is ready answers `true` if a timer can be set, and is armed then as long as the
task takes messages. -/
theorem perform_of_ready (hact : act.Arming) (h : r.Ready act) :
    (Timers.horizon < r.timers.clock + (act.duration r.timeout.duration).nanos ∧
      (r.perform act).1 = some (.error .pastHorizon) ∧
      (r.perform act).2.timeout.isArmed (r.perform act).2.timers = false) ∨
    r.timers.clock + (act.duration r.timeout.duration).nanos ≤ Timers.horizon ∧
      (r.perform act).1 = some (.ok true) ∧
      (r.perform act).2.timeout.current? = some r.timers.timers.arms.length ∧
      (r.perform act).2.timeout.isArmed (r.perform act).2.timers = r.timers.timers.isRunning := by
  rcases perform_arming hact r with
    ⟨hnot, -⟩ | ⟨-, t, timers, hperform, hidle, hduration, hclock, hphase, hlength⟩
  · exact absurd h hnot
  · rw [← hduration, ← hclock, ← hlength, ← Timers.isRunning_congr hphase, hperform]
    rcases t.arm_or_pastHorizon timers () with ⟨hpast, harm⟩ | ⟨hle, later, harm, -, -, hpending⟩
    · rw [harm]
      exact Or.inl ⟨hpast, rfl, hidle⟩
    · rw [harm]
      exact Or.inr ⟨hle, rfl, rfl, hpending⟩

theorem fst_perform_iff (hact : act.Arming) : (r.perform act).1 = some (.ok true) ↔
    r.Ready act ∧ r.timers.clock + (act.duration r.timeout.duration).nanos ≤ Timers.horizon := by
  rcases perform_arming hact r with ⟨hnot, hanswer, -⟩ | ⟨hready, -⟩
  · exact iff_of_false hanswer fun h => hnot h.1
  · rw [and_iff_right hready]
    rcases perform_of_ready hact hready with ⟨hpast, hanswer, -⟩ | ⟨hle, hanswer, -⟩
    · rw [hanswer]
      exact iff_of_false (by simp) (Nat.not_le.mpr hpast)
    · exact iff_of_true hanswer hle

theorem armedBy_perform_iff (hact : act.Arming) (hheld : r.timeout.Holds r.timers) :
    r.ArmedBy (r.perform act).2 ↔
      (r.perform act).1 = some (.ok true) ∧ r.timers.timers.isRunning = true := by
  rcases perform_arming hact r with ⟨-, hanswer, hcurrent, -⟩ | ⟨hready, -⟩
  · refine iff_of_false ?_ fun h => hanswer h.1
    rintro ⟨-, id, hid, hnew⟩
    rw [hcurrent] at hid
    exact absurd (hheld id hid) (Nat.not_lt.mpr hnew)
  · rcases perform_of_ready hact hready with ⟨-, hanswer, hidle⟩ | ⟨-, hanswer, hcurrent, harmed⟩
    · rw [hanswer]
      refine iff_of_false ?_ (by simp)
      rintro ⟨harmed, -⟩
      cases hidle.symm.trans harmed
    · rw [hanswer, ArmedBy, harmed, hcurrent]
      simp

/-- A call that may arm the timeout answers `true` exactly if the timeout is enabled, in use and not
pending, or to be restarted, and the deadline is not past the horizon. It has then armed the timeout
exactly if the task still takes messages. Unless it is told to stop it always does, and once it was
told to, it does no more as soon as it had time for that. -/
theorem answers_true_iff_set (hact : act.Arming) :
    let r := reached duration enabled acts
    ((r.perform act).1 = some (.ok true) ↔ enabled = true ∧ r.dropped = false ∧
      (act = .restart ∨ r.timeout.isArmed r.timers = false) ∧
      r.timers.clock + (act.duration r.timeout.duration).nanos ≤ Timers.horizon) ∧
    (r.ArmedBy (r.perform act).2 ↔
      (r.perform act).1 = some (.ok true) ∧ r.timers.timers.isRunning = true) ∧
    (.shutdown ∉ acts → r.timers.timers.isRunning = true) ∧
    ∀ before nanos later, acts = before ++ .use (.advance nanos) :: later → .shutdown ∈ before →
      r.timers.timers.isRunning = false := by
  refine ⟨?_, armedBy_perform_iff hact (holds_reached duration enabled acts), ?_, ?_⟩
  · rw [fst_perform_iff hact, Ready, enabled_reached, and_assoc, and_assoc]
  · intro htold
    exact Timers.isRunning_of_not_told (mt told_reached_iff.mp htold)
  · rintro before nanos later rfl htold
    exact stopped_reached htold later

/-- A task that was told to stop, but did not come to it, still takes the timer. -/
theorem answers_true_iff_set_in_time : TimeoutAct.Arming (C := Unit) .restart ∧
    let r := reached (C := Unit) (.ofMillis 10) true [.use .start, .shutdown]
    (r.perform .restart).1 = some (.ok true) ∧ r.ArmedBy (r.perform .restart).2 := by
  have hset := @answers_true_iff_set Unit (.ofMillis 10) true [.use .start, .shutdown] _ .restart
  have htrue := hset.1.mpr ⟨rfl, rfl, Or.inl rfl, by decide⟩
  exact ⟨.restart, htrue, hset.2.1.mpr ⟨htrue, rfl⟩⟩

/-- Once the task has stopped, starting still answers `true` and arms nothing. -/
theorem start_can_answer_true_unarmed :
    let r := reached (C := Unit) (.ofMillis 10) true [.shutdown, .use (.advance 0)]
    (r.perform .start).1 = some (.ok true) ∧
      (r.perform .start).2.timeout.isArmed (r.perform .start).2.timers = false ∧
      ¬r.ArmedBy (r.perform .start).2 := by
  intro r
  have hstopped : r.timers.timers.isRunning = false :=
    @stopped_reached Unit _ _ [.shutdown] 0 List.mem_cons_self []
  have hclock : r.timers.clock = 0 := TimedTimers.clock_advance _ _
  have hready : r.Ready .start := ⟨rfl, rfl, Or.inr rfl⟩
  rcases perform_of_ready .start hready with ⟨hpast, -⟩ | ⟨-, hanswer, -, hidle⟩
  · rw [hclock] at hpast
    exact absurd hpast (by decide)
  · rw [hstopped] at hidle
    refine ⟨hanswer, hidle, fun harmed => ?_⟩
    cases hidle.symm.trans harmed.1

end TimeoutRun

end ChatCommands
