import ChatCommands.Proofs.Timeout.Tended

/-! # What is done with a timeout

A timeout is armed, stopped and restarted, its callback is set, it may go away, and time passes. An
arm that is left alone runs out at its deadline. Which arms do can be said from what was done and
what was answered: each has the duration that was in effect when it was set.
-/

namespace ChatCommands

/-- What may be done with a timeout. Nothing but time goes on once it was dropped. -/
inductive TimeoutAct (C : Type)
  | start
  | startWith (duration : Duration)
  | stop
  | restart
  | onTimeout (callback : C)
  | drop
  | advance (nanos : Nat)

namespace TimeoutAct

variable {C : Type}

/-- The acts that may arm it. -/
inductive Arming : TimeoutAct C → Prop
  | start : Arming .start
  | startWith (duration : Duration) : Arming (.startWith duration)
  | restart : Arming .restart

/-- The acts that end a pending arm. -/
inductive Ending : TimeoutAct C → Prop
  | stop : Ending .stop
  | restart : Ending .restart
  | drop : Ending .drop

/-- The duration that an act arms the timeout with, when another is in effect. -/
def duration (current : Duration) : TimeoutAct C → Duration
  | startWith next => next
  | _ => current

def nanos : TimeoutAct C → Nat
  | advance nanos => nanos
  | _ => 0

/-- The time that has passed. -/
def elapsed : List (TimeoutAct C) → Nat
  | [] => 0
  | act :: acts => act.nanos + elapsed acts

/-- The callback that is set, which is the first one. -/
def callback? : List (TimeoutAct C) → Option C
  | [] | .drop :: _ => none
  | .onTimeout callback :: _ => some callback
  | _ :: acts => callback? acts

theorem elapsed_append (acts later : List (TimeoutAct C)) :
    elapsed (acts ++ later) = elapsed acts + elapsed later := by
  induction acts with
  | nil => simp [elapsed]
  | cons act acts ih =>
    simp only [List.cons_append, elapsed, ih]
    omega

theorem elapsed_concat (acts : List (TimeoutAct C)) (act : TimeoutAct C) :
    elapsed (acts ++ [act]) = elapsed acts + act.nanos :=
  elapsed_append acts [act]

/-- Once it was dropped, no callback is set any more. -/
theorem callback?_append_of_dropped {acts : List (TimeoutAct C)} (h : .drop ∈ acts)
    (later : List (TimeoutAct C)) : callback? (acts ++ later) = callback? acts := by
  induction acts with
  | nil => cases h
  | cons act acts ih =>
    cases act with
    | drop | onTimeout _ => rfl
    | start | startWith _ | stop | restart | advance _ =>
      rcases List.mem_cons.mp h with hact | hmem
      · cases hact
      · exact ih hmem

theorem callback?_append {acts : List (TimeoutAct C)} (h : .drop ∉ acts)
    (later : List (TimeoutAct C)) :
    callback? (acts ++ later) = (callback? acts).or (callback? later) := by
  induction acts with
  | nil => rfl
  | cons act acts ih =>
    have hacts : .drop ∉ acts := fun hmem => h (List.mem_cons_of_mem _ hmem)
    cases act with
    | drop => exact absurd List.mem_cons_self h
    | onTimeout _ => rfl
    | start | startWith _ | stop | restart | advance _ => exact ih hacts

end TimeoutAct

/-- A timeout in use, with the callbacks that it made and their moments. -/
structure TimeoutRun (C : Type) where
  timeout : Timeout C
  dropped : Bool := false
  timers : TimedTimers Unit := {}
  calls : List (Nat × C) := []

namespace TimeoutRun

open TimeoutAct

variable {C : Type}

/-- Takes over what an operation leaves, and answers what it answers. -/
def take (r : TimeoutRun C) (done : Except TimerError Bool × Timeout C × TimedTimers Unit) :
    Option (Except TimerError Bool) × TimeoutRun C :=
  (some done.1, { r with timeout := done.2.1, timers := done.2.2 })

/-- Sets the callback, and tells whether it did. -/
def listen (r : TimeoutRun C) (callback : C) : Option (Except TimerError Bool) × TimeoutRun C :=
  match r.timeout.onTimeout callback with
  | .ok timeout => r.take (.ok true, timeout, r.timers)
  | .error _ => r.take (.ok false, r.timeout, r.timers)

/-- Does something that needs a timeout. -/
def unlessDropped (r : TimeoutRun C) (done : Option (Except TimerError Bool) × TimeoutRun C) :
    Option (Except TimerError Bool) × TimeoutRun C :=
  if r.dropped then (none, r) else done

/-- Does something with a timeout, and answers what it answers. A timer that runs out makes the
callback that is set by then. -/
def perform (r : TimeoutRun C) : TimeoutAct C → Option (Except TimerError Bool) × TimeoutRun C
  | .start => r.unlessDropped (r.take (r.timeout.start r.timers ()))
  | .startWith duration => r.unlessDropped (r.take (r.timeout.startWith duration r.timers ()))
  | .stop =>
    let stopped := r.timeout.stop r.timers
    r.unlessDropped (r.take (.ok stopped.1, stopped.2))
  | .restart => r.unlessDropped (r.take (r.timeout.restart r.timers ()))
  | .onTimeout callback => r.unlessDropped (r.listen callback)
  | .drop =>
    let stopped := r.timeout.stop r.timers
    r.unlessDropped
      (none, { r with timeout := stopped.2.1, timers := stopped.2.2, dropped := true })
  | .advance nanos =>
    let passed := r.timers.advance (r.timers.clock + nanos)
    (none, { r with
      timers := passed.2
      calls := r.calls ++ passed.1.filterMap fun fired =>
        r.timeout.callback?.map fun callback => (fired.1, callback) })

variable (duration : Duration) (enabled : Bool)

/-- The state after acts one after the other, on a timeout that was just made. -/
def after (acts : List (TimeoutAct C)) : TimeoutRun C :=
  acts.foldl (fun r act => (r.perform act).2)
    { timeout := { duration := duration, enabled := enabled } }

/-- What an act answers that comes after the others. -/
def answer (acts : List (TimeoutAct C)) (act : TimeoutAct C) : Option (Except TimerError Bool) :=
  ((after duration enabled acts).perform act).1

/-- An act arms the timeout. -/
def Arms (acts : List (TimeoutAct C)) (act : TimeoutAct C) : Prop :=
  act.Arming ∧ answer duration enabled acts act = some (.ok true)

/-- An act would arm the timeout, but fails because the deadline lies past the horizon. -/
def Overruns (acts : List (TimeoutAct C)) (act : TimeoutAct C) : Prop :=
  act.Arming ∧ answer duration enabled acts act = some (.error .pastHorizon)

/-- A start puts its duration into effect before it sets the timer, so whether or not it fails. -/
def Takes (acts : List (TimeoutAct C)) (next : Duration) : Prop :=
  Arms duration enabled acts (.startWith next) ∨ Overruns duration enabled acts (.startWith next)

/-- The duration that is in effect: the one that was taken over last, or else the first one. -/
inductive InEffect : List (TimeoutAct C) → Duration → Prop
  | made : InEffect [] duration
  | taken {acts : List (TimeoutAct C)} {next : Duration} : Takes duration enabled acts next →
      InEffect (acts ++ [.startWith next]) next
  | kept {acts : List (TimeoutAct C)} {act : TimeoutAct C} {current : Duration} :
      InEffect acts current →
      (∀ next, act = .startWith next → ¬Takes duration enabled acts next) →
      InEffect (acts ++ [act]) current

end TimeoutRun

/-- One arm of a timeout: which act set it, when and for how long. -/
structure TimeoutArm where
  place : Nat
  moment : Nat
  duration : Duration

def TimeoutArm.deadline (arm : TimeoutArm) : Nat :=
  arm.moment + arm.duration.nanos

namespace TimeoutRun

open TimeoutAct

variable {C : Type} (duration : Duration) (enabled : Bool)

/-- An arm was set and left alone since, and time has not come to its deadline. -/
inductive Stands : List (TimeoutAct C) → TimeoutArm → Prop
  | armed {acts : List (TimeoutAct C)} {act : TimeoutAct C} {current : Duration} :
      Arms duration enabled acts act → InEffect duration enabled (acts ++ [act]) current →
      Stands (acts ++ [act]) ⟨acts.length, elapsed acts, current⟩
  | stays {acts : List (TimeoutAct C)} {act : TimeoutAct C} {arm : TimeoutArm} :
      Stands acts arm → ¬act.Ending →
      (∀ nanos, act = .advance nanos → elapsed acts + nanos < arm.deadline) →
      Stands (acts ++ [act]) arm

/-- An arm was left alone until time came to its deadline, when a callback was set or not. -/
def RunsOut (acts : List (TimeoutAct C)) (arm : TimeoutArm) (callback? : Option C) : Prop :=
  ∃ before nanos after, acts = before ++ .advance nanos :: after ∧
    Stands duration enabled before arm ∧ arm.deadline ≤ elapsed before + nanos ∧
    callback? = TimeoutAct.callback? before

variable {duration enabled} {acts : List (TimeoutAct C)} {act : TimeoutAct C} {arm : TimeoutArm}
  {current : Duration} {set? : Option C}

theorem after_concat (acts : List (TimeoutAct C)) (act : TimeoutAct C) :
    after duration enabled (acts ++ [act]) = ((after duration enabled acts).perform act).2 := by
  rw [after, List.foldl_append, after]
  rfl

theorem inEffect_nil : InEffect duration enabled ([] : List (TimeoutAct C)) current ↔
    current = duration := by
  constructor
  · intro h
    generalize hacts : [] = acts at h
    cases h with
    | made => rfl
    | taken | kept => simp at hacts
  · rintro rfl
    exact .made

theorem inEffect_concat : InEffect duration enabled (acts ++ [act]) current ↔
    (act = .startWith current ∧ Takes duration enabled acts current) ∨
      InEffect duration enabled acts current ∧
        ∀ next, act = .startWith next → ¬Takes duration enabled acts next := by
  constructor
  · intro h
    generalize hacts : acts ++ [act] = later at h
    cases h with
    | made => simp at hacts
    | taken htakes =>
      obtain ⟨rfl, hact⟩ := List.append_inj' hacts rfl
      cases hact
      exact Or.inl ⟨rfl, htakes⟩
    | kept hcurrent hnone =>
      obtain ⟨rfl, hact⟩ := List.append_inj' hacts rfl
      cases hact
      exact Or.inr ⟨hcurrent, hnone⟩
  · rintro (⟨rfl, htakes⟩ | ⟨hcurrent, hnone⟩)
    · exact .taken htakes
    · exact .kept hcurrent hnone

theorem InEffect.unique {other : Duration} (h : InEffect duration enabled acts current)
    (hother : InEffect duration enabled acts other) : current = other := by
  induction acts using List.reverseRecOn with
  | nil => exact (inEffect_nil.mp h).trans (inEffect_nil.mp hother).symm
  | append_singleton acts act ih =>
    rcases inEffect_concat.mp h with ⟨rfl, htakes⟩ | ⟨hcurrent, hnone⟩ <;>
      rcases inEffect_concat.mp hother with ⟨hact, hagain⟩ | ⟨hcurrent', hnone'⟩
    · exact TimeoutAct.startWith.inj hact
    · exact absurd htakes (hnone' _ rfl)
    · exact absurd hagain (hnone _ hact)
    · exact ih hcurrent hcurrent'

theorem not_stands_nil : ¬Stands duration enabled ([] : List (TimeoutAct C)) arm := by
  intro h
  generalize hacts : [] = acts at h
  cases h <;> simp at hacts

theorem stands_concat : Stands duration enabled (acts ++ [act]) arm ↔
    (Arms duration enabled acts act ∧ arm.place = acts.length ∧ arm.moment = elapsed acts ∧
      InEffect duration enabled (acts ++ [act]) arm.duration) ∨
    Stands duration enabled acts arm ∧ ¬act.Ending ∧
      ∀ nanos, act = .advance nanos → elapsed acts + nanos < arm.deadline := by
  constructor
  · intro h
    generalize hacts : acts ++ [act] = later at h
    cases h with
    | armed harms hcurrent =>
      obtain ⟨rfl, hact⟩ := List.append_inj' hacts rfl
      cases hact
      exact Or.inl ⟨harms, rfl, rfl, hcurrent⟩
    | stays hstands hending hahead =>
      obtain ⟨rfl, hact⟩ := List.append_inj' hacts rfl
      cases hact
      exact Or.inr ⟨hstands, hending, hahead⟩
  · rintro (⟨harms, hplace, hmoment, hcurrent⟩ | ⟨hstands, hending, hahead⟩)
    · obtain ⟨place, moment, current⟩ := arm
      cases hplace
      cases hmoment
      exact .armed harms hcurrent
    · exact .stays hstands hending hahead

theorem Stands.place_lt (h : Stands duration enabled acts arm) : arm.place < acts.length := by
  induction h with
  | armed => simp
  | stays _ _ _ ih =>
    rw [List.length_append]
    omega

/-- An arm that stands has stood since it was set, and nothing has ended it. -/
theorem Stands.of_append {later : List (TimeoutAct C)}
    (h : Stands duration enabled (acts ++ later) arm) (hplace : arm.place < acts.length) :
    Stands duration enabled acts arm ∧ ∀ act ∈ later, ¬act.Ending := by
  induction later using List.reverseRecOn with
  | nil => exact ⟨by simpa using h, by simp⟩
  | append_singleton later act ih =>
    rw [← List.append_assoc, stands_concat] at h
    rcases h with ⟨-, hset, -⟩ | ⟨hstands, hending, -⟩
    · rw [List.length_append] at hset
      omega
    · obtain ⟨hbefore, hlater⟩ := ih hstands
      refine ⟨hbefore, fun other hother => ?_⟩
      rcases List.mem_append.mp hother with hother | hother
      · exact hlater other hother
      · cases List.mem_singleton.mp hother
        exact hending

theorem runsOut_concat : RunsOut duration enabled (acts ++ [act]) arm set? ↔
    RunsOut duration enabled acts arm set? ∨ ∃ nanos, act = .advance nanos ∧
      Stands duration enabled acts arm ∧ arm.deadline ≤ elapsed acts + nanos ∧
      set? = TimeoutAct.callback? acts :=
  TimerAct.exists_split_concat TimeoutAct.advance _

theorem not_runsOut_nil : ¬RunsOut duration enabled [] arm set? := by
  rintro ⟨before, nanos, after, hacts, -⟩
  simp at hacts

theorem RunsOut.place_lt (h : RunsOut duration enabled acts arm set?) :
    arm.place < acts.length := by
  obtain ⟨before, nanos, after, rfl, hstands, -⟩ := h
  have hplace := hstands.place_lt
  rw [List.length_append]
  omega

/-- An arm that an act has ended never runs out. -/
theorem runsOut_append_cons_iff (hending : act.Ending) (hplace : arm.place < acts.length)
    (later : List (TimeoutAct C)) : RunsOut duration enabled (acts ++ act :: later) arm set? ↔
      RunsOut duration enabled acts arm set? := by
  induction later using List.reverseRecOn with
  | nil =>
    rw [runsOut_concat]
    apply or_iff_left
    rintro ⟨nanos, rfl, -⟩
    cases hending
  | append_singleton later last ih =>
    rw [← List.cons_append, ← List.append_assoc, runsOut_concat, ih]
    apply or_iff_left
    rintro ⟨nanos, -, hstands, -⟩
    exact (hstands.of_append hplace).2 act List.mem_cons_self hending

end TimeoutRun

end ChatCommands
