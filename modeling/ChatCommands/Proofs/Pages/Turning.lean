import ChatCommands.Pages
import ChatCommands.Proofs.Timeout.Tended

/-! # Turning pages

What making, turning and closing a session do, and which timers are pending afterwards. A session
stops its timer before it sets another one, so that at most one is pending at any moment.
-/

namespace ChatCommands

namespace Timeout

variable {C J : Type} {t : Timeout C} {timers : TimedTimers J}

/-- No timer is pending but the one that the timeout has the handle of. -/
def Sole (t : Timeout C) (timers : TimedTimers J) : Prop :=
  ∀ id, timers.timers.isPending id = true → t.current? = some id

theorem handed_stop (t : Timeout C) (timers : TimedTimers J) :
    (t.stop timers).2.2.timers.handed = timers.timers.handed := by
  unfold stop
  split
  · rfl
  · exact Timers.handed_turn _ _ _

theorem Sole.stop (h : t.Sole timers) (id : Nat) :
    (t.stop timers).2.2.timers.isPending id = false := by
  rw [← Bool.not_eq_true]
  intro hid
  unfold Timeout.stop at hid
  split at hid
  · rename_i hnone
    cases hnone.symm.trans (h id hid)
  · rename_i current hcurrent
    obtain ⟨hne, hid⟩ := (Timers.isPending_turn (by decide)).mp hid
    exact hne (Option.some.inj ((h id hid).symm.trans hcurrent))

/-- Arming sets a timer and answers so, or leaves all as it is. -/
theorem arm_cases (t : Timeout C) (timers : TimedTimers J) (job : J) :
    t.arm timers job = (.error .pastHorizon, t, timers) ∨
    ∃ arm later, t.arm timers job =
        (.ok true, { t with current? := some timers.timers.arms.length }, later) ∧
      later.timers.arms = timers.timers.arms ++ [arm] ∧
      later.timers.handed = timers.timers.handed := by
  unfold arm TimedTimers.schedule
  rcases timers.timers.schedule_cases timers.clock t.duration.nanos job with
    ⟨-, hset⟩ | ⟨-, -, hset⟩ | ⟨-, -, hset⟩
  · rw [hset]
    exact Or.inl rfl
  · rw [hset]
    exact Or.inr ⟨_, _, rfl, rfl, rfl⟩
  · rw [hset]
    exact Or.inr ⟨_, _, rfl, rfl, rfl⟩

theorem handed_arm (t : Timeout C) (timers : TimedTimers J) (job : J) :
    (t.arm timers job).2.2.timers.handed = timers.timers.handed := by
  rcases t.arm_cases timers job with hset | ⟨arm, later, hset, -, hhanded⟩
  · rw [hset]
  · rw [hset]
    exact hhanded

/-- Where nothing is pending, only the timer that is set then may be. -/
theorem sole_arm (hnone : ∀ id, timers.timers.isPending id = false) (job : J) :
    (t.arm timers job).2.1.Sole (t.arm timers job).2.2 := by
  intro id hid
  rcases t.arm_cases timers job with hset | ⟨arm, later, hset, harms, -⟩
  · rw [hset] at hid
    cases (hnone id).symm.trans hid
  · rw [hset] at hid ⊢
    rcases (Timers.isPending_concat harms id).mp hid with hid | ⟨rfl, -⟩
    · cases (hnone id).symm.trans hid
    · rfl

theorem handed_restart (t : Timeout C) (timers : TimedTimers J) (job : J) :
    (t.restart timers job).2.2.timers.handed = timers.timers.handed := by
  unfold restart
  split
  · rfl
  · exact (handed_arm _ _ job).trans (handed_stop t timers)

theorem Sole.restart (h : t.Sole timers) (job : J) :
    (t.restart timers job).2.1.Sole (t.restart timers job).2.2 := by
  unfold Timeout.restart
  split
  · exact h
  · exact sole_arm h.stop job

/-- After a restart that fails nothing is pending. -/
theorem Sole.restart_error (h : t.Sole timers) {job : J} {e : TimerError}
    (hfails : (t.restart timers job).1 = .error e) (id : Nat) :
    (t.restart timers job).2.2.timers.isPending id = false := by
  unfold Timeout.restart at hfails ⊢
  split at hfails
  · cases hfails
  · rename_i henabled
    rw [if_neg henabled]
    rcases (t.stop timers).2.1.arm_cases (t.stop timers).2.2 job with hset | ⟨_, _, hset, -⟩
    · simp only [hset]
      exact h.stop id
    · rw [hset] at hfails
      cases hfails

end Timeout

theorem PageTurn.target?_lt (turn : PageTurn) {index count target : Nat}
    (h : turn.target? index count = some target) (hindex : index < count) : target < count := by
  cases turn with
  | next | previous | first | last =>
    cases h
    omega
  | goto page =>
    rw [PageTurn.target?] at h
    split at h
    · cases h
      assumption
    · cases h

namespace PageSession

variable {T J : Type}

/-- A session that was just made has its first page open, and a timer set if it may expire. -/
theorem withExpiry?_cases {pages : List T} {expiry? : Option Duration} {action : ExpiryAction}
    {timers later : TimedTimers J} {job : J} {s : PageSession T}
    (h : withExpiry? pages expiry? action timers job = .ok (s, later)) :
    (s.pages = [] ∨ s.index < s.pages.length) ∧
      ((s.timeout? = none ∧ later = timers) ∨ ∃ timeout : Timeout ExpiryAction,
        timeout.callback? = some action ∧ s.timeout? = some (timeout.arm timers job).2.1 ∧
        later = (timeout.arm timers job).2.2) := by
  have hindex : pages = [] ∨ 0 < pages.length := by
    cases pages with
    | nil => exact Or.inl rfl
    | cons page rest => exact Or.inr (Nat.zero_lt_succ _)
  cases expiry? with
  | none =>
    cases h
    exact ⟨hindex, Or.inl ⟨rfl, rfl⟩⟩
  | some expiry =>
    have harm : Timeout.start ⟨expiry, true, some action, none⟩ timers job =
        Timeout.arm _ timers job := Timeout.start_eq_arm rfl rfl
    simp only [withExpiry?, withExpiry, harm] at h
    cases hset : (Timeout.arm ⟨expiry, true, some action, none⟩ timers job).1 with
    | error e =>
      rw [hset] at h
      cases h
    | ok armed =>
      rw [hset] at h
      cases h
      exact ⟨hindex, Or.inr ⟨_, rfl, rfl, rfl⟩⟩

/-- A turn shows a page of an open session that has it, and is for nothing otherwise. -/
theorem turn_cases (s : PageSession T) (turn : PageTurn) (timers : TimedTimers J) (job : J) :
    ((s.closed = true ∨ s.pages = [] ∨ turn.target? s.index s.pages.length = none) ∧
      s.turn turn timers job = (.ok none, s, timers)) ∨
    s.closed = false ∧ s.pages ≠ [] ∧ ∃ index, turn.target? s.index s.pages.length = some index ∧
      ((s.timeout? = none ∧
        s.turn turn timers job = (.ok s.pages[index]?, { s with index := index }, timers)) ∨
      ∃ timeout, s.timeout? = some timeout ∧ s.turn turn timers job =
        ((timeout.restart timers job).1.map fun _ => s.pages[index]?,
          { s with index := index, timeout? := some (timeout.restart timers job).2.1 },
          (timeout.restart timers job).2.2)) := by
  unfold PageSession.turn
  split
  · rename_i hrefused
    simp only [Bool.or_eq_true, List.isEmpty_iff] at hrefused
    exact Or.inl ⟨hrefused.imp_right Or.inl, rfl⟩
  · rename_i hopen
    simp only [Bool.or_eq_true, List.isEmpty_iff, not_or, Bool.not_eq_true] at hopen
    split
    · rename_i hnowhere
      exact Or.inl ⟨Or.inr (Or.inr hnowhere), rfl⟩
    · rename_i index htarget
      refine Or.inr ⟨hopen.1, hopen.2, index, htarget, ?_⟩
      split
      · rename_i hnone
        exact Or.inl ⟨hnone, rfl⟩
      · rename_i timeout htimeout
        exact Or.inr ⟨timeout, htimeout, rfl⟩

/-- A close stops the timeout, if there is one. -/
theorem close_cases (s : PageSession T) (timers : TimedTimers J) :
    (s.timeout? = none ∧ s.close timers = ({ s with closed := true }, timers)) ∨
    ∃ timeout, s.timeout? = some timeout ∧ s.close timers =
      ({ s with closed := true, timeout? := some (timeout.stop timers).2.1 },
        (timeout.stop timers).2.2) := by
  unfold close
  split
  · rename_i hnone
    exact Or.inl ⟨hnone, rfl⟩
  · rename_i timeout htimeout
    exact Or.inr ⟨timeout, htimeout, rfl⟩

end PageSession

end ChatCommands
