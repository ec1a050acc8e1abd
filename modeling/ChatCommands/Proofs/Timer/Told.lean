import ChatCommands.Proofs.Timer.Settled

/-! # What a timer task was told

Clients tell the task to stop, and nothing else they do says so. By itself the task never forgets
it, and takes no more messages as soon as it has gone through those that came before.
-/

namespace ChatCommands

namespace Timers

variable {J : Type} {t s u : Timers J} {now : Nat}

/-- The task was told to stop, or has begun to. -/
def Told (t : Timers J) : Prop :=
  .shutdown ∈ t.inbox ∨ t.phase = .stopping ∨ t.isRunning = false

theorem isRunning_of_not_told (h : ¬t.Told) : t.isRunning = true := by
  rw [← Bool.not_eq_false]
  exact fun hstopped => h (Or.inr (Or.inr hstopped))

theorem told_shutdown (t : Timers J) : t.shutdown.Told := by
  rcases t.shutdown_cases with ⟨-, hshutdown⟩ | ⟨hstopped, hshutdown⟩
  · rw [hshutdown]
    exact Or.inl (by simp)
  · rw [hshutdown]
    exact Or.inr (Or.inr hstopped)

/-- What clients do besides telling the task to stop. -/
structure Grows (t s : Timers J) : Prop where
  phase : s.phase = t.phase
  told : .shutdown ∈ s.inbox ↔ .shutdown ∈ t.inbox
  length : t.arms.length ≤ s.arms.length

theorem grows_refl (t : Timers J) : t.Grows t :=
  ⟨rfl, Iff.rfl, Nat.le_refl _⟩

theorem Grows.trans (h : t.Grows s) (hs : s.Grows u) : t.Grows u :=
  ⟨hs.phase.trans h.phase, hs.told.trans h.told, h.length.trans hs.length⟩

theorem Grows.isRunning (h : t.Grows s) : s.isRunning = t.isRunning :=
  isRunning_congr h.phase

theorem Grows.told_iff (h : t.Grows s) : s.Told ↔ t.Told := by
  rw [Told, Told, h.told, h.phase, h.isRunning]

theorem grows_cancel (t : Timers J) (id : Nat) : t.Grows (t.cancel id).2 := by
  obtain ⟨hinbox, -, hphase⟩ := t.turn_eq id .cancelled
  constructor
  · exact hphase
  · rw [cancel, hinbox]
  · exact (t.length_turn id .cancelled).ge

theorem fire?_keeps (h : t.fire? now = some s) :
    s.inbox = t.inbox ∧ s.phase = .firing now ∧ s.arms.length = t.arms.length := by
  unfold fire? at h
  split at h
  · cases h
  · cases h
    exact ⟨rfl, rfl, rfl⟩
  · rename_i id job table _
    rcases turn_cases { t with table := table, phase := .firing now } id .fired with
      ⟨-, hturn⟩ | ⟨-, hturn⟩
    · simp only [hturn] at h
      cases h
      exact ⟨rfl, rfl, List.length_set⟩
    · simp only [hturn] at h
      cases h
      exact ⟨rfl, rfl, rfl⟩

theorem length_drain (t : Timers J) : t.drain.arms.length = t.arms.length := by
  rcases t.drain_cases with ⟨id, -, harms, -⟩ | ⟨-, harms, -⟩
  · rw [harms, length_turn]
  · rw [harms]

theorem isRunning_drain (hp : t.phase = .draining) : t.drain.isRunning = false := by
  rcases t.drain_cases with ⟨-, -, -, -, hphase⟩ | ⟨-, -, -, hphase | ⟨-, hphase⟩⟩ <;>
    simp [isRunning, hphase, hp]

/-- What the task does by itself does not change what it was told, and never makes it take messages
again. -/
structure Goes (t s : Timers J) : Prop where
  told : s.Told ↔ t.Told
  stopped : t.isRunning = false → s.isRunning = false
  length : s.arms.length = t.arms.length

theorem goes_receive? (hp : t.phase = .waiting) (h : t.receive? = some s) : t.Goes s := by
  rcases receive?_cases h with ⟨id, deadline, job, hinbox, hs⟩ | ⟨hinbox, hs⟩
  · have hphase : s.phase = t.phase := by rw [hs]
    refine ⟨?_, fun hstopped => (isRunning_congr hphase).trans hstopped, by rw [hs]⟩
    simp [Told, hinbox, hphase, isRunning_congr hphase]
  · refine ⟨iff_of_true (Or.inr (Or.inl (by rw [hs]))) (Or.inl (by simp [hinbox])), ?_, by rw [hs]⟩
    simp [isRunning, hp]

theorem goes_fire? (hp : t.isRunning = true) (hs : t.phase ≠ .stopping) (h : t.fire? now = some s) :
    t.Goes s := by
  obtain ⟨hinbox, hphase, hlength⟩ := fire?_keeps h
  have hrunning : s.isRunning = true := by rw [isRunning, hphase]
  refine ⟨?_, fun hstopped => ?_, hlength⟩
  · simp [Told, hinbox, hphase, hrunning, hp, hs]
  · cases hp.symm.trans hstopped

theorem goes_act? (h : t.act? now = some s) : t.Goes s := by
  unfold act? at h
  split at h
  · rename_i hp
    cases hreceive : t.receive? with
    | some u =>
      rw [hreceive] at h
      cases h
      exact goes_receive? hp hreceive
    | none =>
      rw [hreceive] at h
      exact goes_fire? (by simp [isRunning, hp]) (by simp [hp]) h
  · rename_i moment hp
    cases h
    cases hfire : t.fire? moment with
    | some u => exact goes_fire? (by simp [isRunning, hp]) (by simp [hp]) hfire
    | none => exact ⟨by simp [Told, rest, hp, isRunning], by simp [isRunning, hp], rfl⟩
  · rename_i hp
    cases h
    exact ⟨iff_of_true (Or.inr (Or.inr rfl)) (Or.inr (Or.inl hp)), fun _ => rfl, rfl⟩
  · rename_i hp
    cases h
    have hstopped := isRunning_drain hp
    refine ⟨iff_of_true (Or.inr (Or.inr hstopped)) (Or.inr (Or.inr ?_)), fun _ => hstopped,
      t.length_drain⟩
    simp [isRunning, hp]
  · cases h

/-- A task that was told to stop has something to do until it takes no more messages. -/
theorem Told.isRunning_of_act?_eq_none (ht : t.Told) (h : t.act? now = none) :
    t.isRunning = false := by
  rcases act?_eq_none_iff.mp h with ⟨hp, hinbox, -⟩ | hp
  · simpa [Told, hinbox, hp] using ht
  · simp [isRunning, hp]

end Timers

namespace TimedTimers

variable {J : Type} {t : TimedTimers J} {target : Nat}

theorem exists_act?_of_next? {u s : Timers J} {clock moment : Nat}
    (h : u.next? clock = some (moment, s)) : ∃ now, u.act? now = some s := by
  unfold Timers.next? at h
  split at h
  · rename_i hs
    cases h
    exact ⟨_, hs⟩
  · obtain ⟨deadline, -, h⟩ := Option.bind_eq_some_iff.mp h
    obtain ⟨v, hs, hv⟩ := Option.bind_eq_some_iff.mp h
    cases hv
    exact ⟨_, hs⟩

/-- What every step of the task keeps also lasts while time passes. -/
theorem advance_induction {Q : Timers J → Prop}
    (hact : ∀ t now s, t.act? now = some s → Q t → Q { s with handed := [] })
    (t : TimedTimers J) (target : Nat) (h : Q t.timers) : Q (t.advance target).2.timers := by
  induction t using advance.induct target with
  | case1 t hnext => rwa [advance_of_none hnext]
  | case2 t moment s hnext hle ih =>
    rw [advance_of_some hnext, if_pos hle]
    refine ih ?_
    obtain ⟨now, hs⟩ := exists_act?_of_next? hnext
    exact hact _ _ _ hs h
  | case3 t moment s hnext hlt => rwa [advance_of_some hnext, if_neg hlt]

theorem goes_advance (t : TimedTimers J) (target : Nat) :
    t.timers.Goes (t.advance target).2.timers := by
  refine advance_induction (Q := t.timers.Goes) (fun u now s hs hu => ?_) t target
    ⟨Iff.rfl, id, rfl⟩
  obtain ⟨htold, hstopped, hlength⟩ := Timers.goes_act? hs
  exact ⟨htold.trans hu.told, fun h => hstopped (hu.stopped h), hlength.trans hu.length⟩

/-- As soon as no time is needed for it, a task that was told to stop takes no more messages. -/
theorem isRunning_advance (ht : t.timers.Told) (hclock : t.clock ≤ target) :
    (t.advance target).2.timers.isRunning = false :=
  ((goes_advance t target).told.mpr ht).isRunning_of_act?_eq_none (settled_advance hclock)

end TimedTimers

end ChatCommands
