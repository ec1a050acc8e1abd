import ChatCommands.Timer.Clock

/-! # What is done with timers

Timers are set and cancelled, the task is told to stop, and time passes. Whether a timer fires can
be said from what was done alone: time must have been given until its deadline, with nobody having
told the task to stop before, nor having cancelled the timer.
-/

namespace ChatCommands

/-- What may be done with timers. A timer is cancelled by its handle, which is its number. -/
inductive TimerAct (J : Type)
  | schedule (delay : Nat) (job : J)
  | cancel (id : Nat)
  | shutdown
  | advance (nanos : Nat)
  deriving Repr

namespace TimedTimers

variable {J : Type}

/-- Does something with timers, and returns the jobs that run meanwhile, with their moments. A timer
that cannot be set is as if nobody had tried. -/
def perform (t : TimedTimers J) : TimerAct J → List (Nat × J) × TimedTimers J
  | .schedule delay job =>
    match t.schedule delay job with
    | .ok (_, t) => ([], t)
    | .error _ => ([], t)
  | .cancel id => ([], (t.cancel id).2)
  | .shutdown => ([], t.shutdown)
  | .advance nanos => t.advance (t.clock + nanos)

/-- Does one thing after the other. -/
def follow (acts : List (TimerAct J)) (t : TimedTimers J) : List (Nat × J) × TimedTimers J :=
  match acts with
  | [] => ([], t)
  | act :: acts =>
    let done := t.perform act
    let onward := done.2.follow acts
    (done.1 ++ onward.1, onward.2)

theorem follow_concat (acts : List (TimerAct J)) (act : TimerAct J) (t : TimedTimers J) :
    t.follow (acts ++ [act]) =
      ((t.follow acts).1 ++ ((t.follow acts).2.perform act).1,
        ((t.follow acts).2.perform act).2) := by
  induction acts generalizing t with
  | nil => simp [follow]
  | cons first acts ih => simp [follow, ih]

end TimedTimers

namespace TimerAct

variable {J : Type}

def nanos : TimerAct J → Nat
  | advance nanos => nanos
  | _ => 0

/-- The time that has passed. -/
def elapsed : List (TimerAct J) → Nat
  | [] => 0
  | act :: acts => act.nanos + elapsed acts

/-- The timers that are set from a moment on, with their deadlines and jobs. -/
def scheduledFrom (clock : Nat) : List (TimerAct J) → List (Nat × J)
  | [] => []
  | schedule delay job :: acts =>
    if Timers.horizon < clock + delay then scheduledFrom clock acts
    else (clock + delay, job) :: scheduledFrom clock acts
  | act :: acts => scheduledFrom (clock + act.nanos) acts

/-- All timers that were set, by number. -/
def scheduled (acts : List (TimerAct J)) : List (Nat × J) :=
  scheduledFrom 0 acts

/-- Someone cancelled the timer once it was set. -/
def Cancelled (acts : List (TimerAct J)) (id : Nat) : Prop :=
  ∃ before after, acts = before ++ cancel id :: after ∧ id < (scheduled before).length

/-- Time was given until the deadline of the timer, when it had been set and neither had it been
cancelled nor had the task been told to stop. -/
def Fires (acts : List (TimerAct J)) (id : Nat) : Prop :=
  ∃ before nanos after, acts = before ++ advance nanos :: after ∧ shutdown ∉ before ∧
    ¬Cancelled before id ∧
    ∃ timer, (scheduled before)[id]? = some timer ∧ timer.1 ≤ elapsed before + nanos

/-- The task was told to stop, and was given time to do so. -/
def Halted (acts : List (TimerAct J)) : Prop :=
  ∃ before nanos after, acts = before ++ advance nanos :: after ∧ shutdown ∈ before

/-- Nothing has ended the timer yet. -/
def Pending (acts : List (TimerAct J)) (id : Nat) : Prop :=
  id < (scheduled acts).length ∧ ¬Fires acts id ∧ ¬Cancelled acts id ∧ ¬Halted acts

variable {acts : List (TimerAct J)} {act : TimerAct J} {id : Nat}

theorem elapsed_append (acts later : List (TimerAct J)) :
    elapsed (acts ++ later) = elapsed acts + elapsed later := by
  induction acts with
  | nil => simp [elapsed]
  | cons first acts ih => simp [elapsed, ih, Nat.add_assoc]

theorem elapsed_concat (acts : List (TimerAct J)) (act : TimerAct J) :
    elapsed (acts ++ [act]) = elapsed acts + act.nanos :=
  elapsed_append acts [act]

theorem scheduledFrom_append (clock : Nat) (acts later : List (TimerAct J)) :
    scheduledFrom clock (acts ++ later) =
      scheduledFrom clock acts ++ scheduledFrom (clock + elapsed acts) later := by
  induction acts generalizing clock with
  | nil => rfl
  | cons first acts ih =>
    have helapsed : elapsed (first :: acts) = first.nanos + elapsed acts := rfl
    cases first with
    | schedule delay job =>
      simp only [List.cons_append, scheduledFrom, ih, helapsed, nanos, Nat.zero_add]
      split <;> rfl
    | cancel id | shutdown | advance nanos =>
      simp only [List.cons_append, scheduledFrom, ih, helapsed, Nat.add_assoc]

theorem scheduled_append (acts later : List (TimerAct J)) :
    scheduled (acts ++ later) = scheduled acts ++ scheduledFrom (elapsed acts) later := by
  rw [scheduled, scheduledFrom_append, Nat.zero_add, scheduled]

/-- Whatever stands somewhere in a list with one more element is the last one or stood there. -/
theorem eq_append_cons_of_concat {α : Type} {as before after : List α} {a b : α}
    (h : as ++ [b] = before ++ a :: after) :
    (before = as ∧ a = b) ∨ ∃ rest, as = before ++ a :: rest := by
  rcases List.eq_nil_or_concat after with rfl | ⟨rest, c, rfl⟩
  · obtain ⟨rfl, hb⟩ := List.append_inj' h rfl
    exact Or.inl ⟨rfl, (List.singleton_inj.mp hb).symm⟩
  · rw [List.concat_eq_append, ← List.cons_append, ← List.append_assoc] at h
    exact Or.inr ⟨rest, (List.append_inj' h rfl).1⟩

/-- Whatever stands somewhere in a list with one more element is that one or has it behind. -/
theorem concat_eq_append_cons {α : Type} {as before after : List α} {a b : α}
    (h : as ++ [b] = before ++ a :: after) :
    (as = before ∧ a = b ∧ after = []) ∨
      ∃ rest, as = before ++ a :: rest ∧ after = rest ++ [b] := by
  rcases eq_append_cons_of_concat h with ⟨rfl, rfl⟩ | ⟨rest, rfl⟩
  · exact Or.inl ⟨rfl, rfl, (List.cons.inj (List.append_cancel_left h)).2.symm⟩
  · right
    rw [List.append_assoc, List.append_cancel_left_eq] at h
    exact ⟨rest, rfl, (List.cons.inj h).2.symm⟩

/-- Something that happened at an element of a list with one more has happened before, or happened
at the last one. -/
theorem exists_split_concat {α β : Type} {as : List α} {a : α} (f : β → α)
    (P : List α → β → Prop) : (∃ before b after, as ++ [a] = before ++ f b :: after ∧ P before b) ↔
      (∃ before b after, as = before ++ f b :: after ∧ P before b) ∨ ∃ b, a = f b ∧ P as b := by
  constructor
  · rintro ⟨before, b, after, heq, h⟩
    rcases eq_append_cons_of_concat heq with ⟨rfl, rfl⟩ | ⟨rest, rfl⟩
    · exact Or.inr ⟨b, rfl, h⟩
    · exact Or.inl ⟨before, b, rest, rfl, h⟩
  · rintro (⟨before, b, after, rfl, h⟩ | ⟨b, rfl, h⟩)
    · exact ⟨before, b, after ++ [a], by simp, h⟩
    · exact ⟨as, b, [], rfl, h⟩

theorem cancelled_concat : Cancelled (acts ++ [act]) id ↔
    Cancelled acts id ∨ act = cancel id ∧ id < (scheduled acts).length := by
  constructor
  · rintro ⟨before, after, heq, hid⟩
    rcases eq_append_cons_of_concat heq with ⟨rfl, rfl⟩ | ⟨rest, rfl⟩
    · exact Or.inr ⟨rfl, hid⟩
    · exact Or.inl ⟨before, rest, rfl, hid⟩
  · rintro (⟨before, after, rfl, hid⟩ | ⟨rfl, hid⟩)
    · exact ⟨before, after ++ [act], by simp, hid⟩
    · exact ⟨acts, [], rfl, hid⟩

theorem halted_concat : Halted (acts ++ [act]) ↔
    Halted acts ∨ (∃ nanos, act = advance nanos) ∧ shutdown ∈ acts := by
  rw [← exists_and_right]
  exact exists_split_concat advance _

theorem fires_concat : Fires (acts ++ [act]) id ↔
    Fires acts id ∨ ∃ nanos, act = advance nanos ∧ shutdown ∉ acts ∧ ¬Cancelled acts id ∧
      ∃ timer, (scheduled acts)[id]? = some timer ∧ timer.1 ≤ elapsed acts + nanos :=
  exists_split_concat advance _

/-- Only time makes timers fire. -/
theorem fires_of_ne_advance (h : ∀ nanos, act ≠ advance nanos) :
    Fires (acts ++ [act]) id ↔ Fires acts id := by
  rw [fires_concat]
  exact or_iff_left fun ⟨nanos, hact, _⟩ => h nanos hact

theorem halted_of_ne_advance (h : ∀ nanos, act ≠ advance nanos) :
    Halted (acts ++ [act]) ↔ Halted acts := by
  rw [halted_concat]
  exact or_iff_left fun ⟨⟨nanos, hact⟩, _⟩ => h nanos hact

theorem elapsed_of_ne_advance (h : ∀ nanos, act ≠ advance nanos) :
    elapsed (acts ++ [act]) = elapsed acts := by
  rw [elapsed_concat]
  cases act with
  | schedule delay job | cancel id | shutdown => rfl
  | advance nanos => exact absurd rfl (h nanos)

theorem scheduled_of_ne_schedule (h : ∀ delay job, act ≠ schedule delay job) :
    scheduled (acts ++ [act]) = scheduled acts := by
  rw [scheduled_append]
  cases act with
  | schedule delay job => exact absurd rfl (h delay job)
  | cancel id | shutdown | advance nanos => exact List.append_nil _

/-- A timer that fires or is cancelled was set. -/
theorem lt_length_of_fires (h : Fires acts id) : id < (scheduled acts).length := by
  obtain ⟨before, nanos, after, rfl, -, -, timer, hset, -⟩ := h
  rw [scheduled_append, List.length_append]
  exact Nat.lt_add_right _ (List.getElem?_eq_some_iff.mp hset).1

theorem lt_length_of_cancelled (h : Cancelled acts id) : id < (scheduled acts).length := by
  obtain ⟨before, after, rfl, hid⟩ := h
  rw [scheduled_append, List.length_append]
  exact Nat.lt_add_right _ hid

/-- The task must have been told to stop before it stops. -/
theorem mem_of_halted (h : Halted acts) : shutdown ∈ acts := by
  obtain ⟨before, nanos, after, rfl, hmem⟩ := h
  exact List.mem_append_left _ hmem

theorem pending_cancel {other : Nat} :
    Pending (acts ++ [cancel other]) id ↔ Pending acts id ∧ id ≠ other := by
  rw [Pending, Pending, scheduled_of_ne_schedule (by simp), fires_concat, cancelled_concat,
    halted_concat]
  simp only [reduceCtorEq, false_and, exists_false, or_false, cancel.injEq, not_or]
  constructor
  · rintro ⟨hid, hfires, ⟨hcancelled, hother⟩, hhalted⟩
    exact ⟨⟨hid, hfires, hcancelled, hhalted⟩, fun heq => hother ⟨heq.symm, hid⟩⟩
  · rintro ⟨⟨hid, hfires, hcancelled, hhalted⟩, hne⟩
    exact ⟨hid, hfires, ⟨hcancelled, fun hother => hne hother.1.symm⟩, hhalted⟩

theorem pending_shutdown : Pending (acts ++ [shutdown]) id ↔ Pending acts id := by
  rw [Pending, Pending, scheduled_of_ne_schedule (by simp), fires_concat, cancelled_concat,
    halted_concat]
  simp

theorem pending_schedule {delay : Nat} {job : J} :
    Pending (acts ++ [schedule delay job]) id ↔ Pending acts id ∨
      elapsed acts + delay ≤ Timers.horizon ∧ id = (scheduled acts).length ∧ ¬Halted acts := by
  have hnew : ¬Fires acts (scheduled acts).length ∧ ¬Cancelled acts (scheduled acts).length :=
    ⟨fun h => Nat.lt_irrefl _ (lt_length_of_fires h),
      fun h => Nat.lt_irrefl _ (lt_length_of_cancelled h)⟩
  have hlength : id < (scheduled (acts ++ [schedule delay job])).length ↔
      id < (scheduled acts).length ∨ elapsed acts + delay ≤ Timers.horizon ∧
        id = (scheduled acts).length := by
    simp only [scheduled_append, scheduledFrom, List.length_append]
    split <;> simp only [List.length_nil, List.length_singleton] <;> omega
  rw [Pending, Pending, hlength, fires_concat, cancelled_concat, halted_concat]
  simp only [reduceCtorEq, false_and, exists_false, or_false]
  constructor
  · rintro ⟨hid | ⟨hle, rfl⟩, hfires, hcancelled, hhalted⟩
    · exact Or.inl ⟨hid, hfires, hcancelled, hhalted⟩
    · exact Or.inr ⟨hle, rfl, hhalted⟩
  · rintro (⟨hid, hpending⟩ | ⟨hle, rfl, hhalted⟩)
    · exact ⟨Or.inl hid, hpending⟩
    · exact ⟨Or.inr ⟨hle, rfl⟩, hnew.1, hnew.2, hhalted⟩

theorem scheduled_advance (acts : List (TimerAct J)) (nanos : Nat) :
    scheduled (acts ++ [advance nanos]) = scheduled acts :=
  scheduled_of_ne_schedule (by simp)

/-- Time ends the timers that fire, or all of them if the task was told to stop. -/
theorem pending_advance {nanos : Nat} : Pending (acts ++ [advance nanos]) id ↔
    Pending acts id ∧ shutdown ∉ acts ∧
      ∀ timer, (scheduled acts)[id]? = some timer → elapsed acts + nanos < timer.1 := by
  rw [Pending, Pending, scheduled_advance, fires_concat, cancelled_concat, halted_concat]
  simp only [advance.injEq, exists_eq', true_and, exists_eq_left', reduceCtorEq, false_and,
    or_false, not_or]
  constructor
  · rintro ⟨hid, ⟨hfires, hlater⟩, hcancelled, hhalted, hrunning⟩
    refine ⟨⟨hid, hfires, hcancelled, hhalted⟩, hrunning, fun timer htimer => ?_⟩
    exact Nat.lt_of_not_le fun hle => hlater ⟨hrunning, hcancelled, timer, htimer, hle⟩
  · rintro ⟨⟨hid, hfires, hcancelled, hhalted⟩, hrunning, hlater⟩
    refine ⟨hid, ⟨hfires, ?_⟩, hcancelled, hhalted, hrunning⟩
    rintro ⟨-, -, timer, htimer, hle⟩
    exact Nat.not_le.mpr (hlater timer htimer) hle

/-- Time makes those pending timers fire whose deadlines it reaches, unless the task was told to
stop. -/
theorem fires_advance {nanos : Nat} : Fires (acts ++ [advance nanos]) id ↔
    Fires acts id ∨ shutdown ∉ acts ∧ Pending acts id ∧
      ∃ timer, (scheduled acts)[id]? = some timer ∧ timer.1 ≤ elapsed acts + nanos := by
  rw [fires_concat]
  simp only [advance.injEq, exists_eq_left']
  constructor
  · rintro (hfires | ⟨hrunning, hcancelled, timer, htimer, hle⟩)
    · exact Or.inl hfires
    · by_cases hfires : Fires acts id
      · exact Or.inl hfires
      · have hid := (List.getElem?_eq_some_iff.mp htimer).1
        exact Or.inr ⟨hrunning, ⟨hid, hfires, hcancelled, fun h => hrunning (mem_of_halted h)⟩,
          timer, htimer, hle⟩
  · rintro (hfires | ⟨hrunning, hpending, htimer⟩)
    · exact Or.inl hfires
    · exact Or.inr ⟨hrunning, hpending.2.2.1, htimer⟩

/-- A timer that is pending was so before, or was just set, to pass no earlier than now. -/
theorem pending_of_concat (h : Pending (acts ++ [act]) id) :
    Pending acts id ∨ id = (scheduled acts).length ∧
      ∃ timer, (scheduled (acts ++ [act]))[id]? = some timer ∧ elapsed acts ≤ timer.1 := by
  cases act with
  | schedule delay job =>
    refine (pending_schedule.mp h).imp_right ?_
    rintro ⟨hle, rfl, -⟩
    refine ⟨rfl, (elapsed acts + delay, job), ?_, Nat.le_add_right _ _⟩
    rw [scheduled_append, scheduledFrom, if_neg (Nat.not_lt.mpr hle)]
    exact List.getElem?_concat_length
  | cancel other => exact Or.inl (pending_cancel.mp h).1
  | shutdown => exact Or.inl (pending_shutdown.mp h)
  | advance nanos => exact Or.inl (pending_advance.mp h).1

/-- No timer fires before its deadline. -/
theorem le_elapsed_of_fires (h : Fires acts id) :
    ∃ timer, (scheduled acts)[id]? = some timer ∧ timer.1 ≤ elapsed acts := by
  obtain ⟨before, nanos, after, rfl, -, -, timer, hset, hle⟩ := h
  refine ⟨timer, ?_, Nat.le_trans hle ?_⟩
  · rw [scheduled_append, List.getElem?_append_left (List.getElem?_eq_some_iff.mp hset).1]
    exact hset
  · rw [elapsed_append, elapsed, TimerAct.nanos, ← Nat.add_assoc]
    exact Nat.le_add_right _ _

end TimerAct

end ChatCommands
