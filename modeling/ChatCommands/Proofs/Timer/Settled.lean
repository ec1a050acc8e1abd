import ChatCommands.Proofs.Timer.Reference

/-! # Timers at rest

Once the task has done all that needs no time, it waits for a deadline that is ahead, or has
finished. Cancelling a timer does not wake it.
-/

namespace ChatCommands

open TimerAct

namespace Timers

variable {J : Type} {t : Timers J} {clock now target : Nat}

theorem act?_of_idle (hp : t.phase = .waiting) (hinbox : t.inbox = []) (now : Nat) :
    t.act? now = t.fire? now := by
  rw [act?, hp, receive?, hinbox]
  rfl

/-- Either the task waits, with no message left and no deadline passed, or it has finished. -/
theorem act?_eq_none_iff : t.act? now = none ↔
    (t.phase = .waiting ∧ t.inbox = [] ∧
      ∀ deadline, t.table.earliest? = some deadline → now < deadline) ∨ t.phase = .finished := by
  constructor
  · intro h
    cases hp : t.phase with
    | waiting =>
      have hinbox : t.inbox = [] := by
        rw [act?, hp] at h
        have hreceive := (Option.or_eq_none_iff.mp h).1
        unfold receive? at hreceive
        split at hreceive
        · assumption
        all_goals cases hreceive
      rw [act?_of_idle hp hinbox, fire?_eq_none_iff] at h
      exact Or.inl ⟨rfl, hinbox, h⟩
    | finished => exact Or.inr rfl
    | firing _ | stopping | draining =>
      rw [act?, hp] at h
      cases h
  · rintro (⟨hp, hinbox, hahead⟩ | hp)
    · rw [act?_of_idle hp hinbox]
      exact fire?_eq_none_iff.mpr hahead
    · rw [act?, hp]

/-- A task that has nothing to do until after a moment has nothing to do then. -/
theorem act?_eq_none_of_next? (hclock : clock ≤ target)
    (h : ∀ moment s, t.next? clock = some (moment, s) → target < moment) :
    t.act? target = none := by
  have hact : t.act? clock = none := by
    rw [Option.eq_none_iff_forall_ne_some]
    intro s hs
    have hnext : t.next? clock = some (clock, s) := by
      unfold next?
      rw [hs]
    exact Nat.not_lt.mpr hclock (h clock s hnext)
  rcases act?_eq_none_iff.mp hact with ⟨hp, hinbox, hahead⟩ | hp
  · refine act?_eq_none_iff.mpr (Or.inl ⟨hp, hinbox, fun deadline hdeadline => ?_⟩)
    cases hfire : t.act? deadline with
    | none =>
      rw [act?_of_idle hp hinbox, fire?_eq_none_iff] at hfire
      exact absurd (hfire deadline hdeadline) (Nat.lt_irrefl _)
    | some s =>
      apply h deadline s
      unfold next?
      rw [hact]
      simp [hdeadline, hfire]
  · exact act?_eq_none_iff.mpr (Or.inr hp)

end Timers

namespace TimedTimers

variable {J : Type} {t : TimedTimers J} {acts : List (TimerAct J)} {target id deadline : Nat}
  {job : J}

/-- Nothing is left to do before time passes. -/
def Settled (t : TimedTimers J) : Prop :=
  t.timers.act? t.clock = none

theorem settled_advance (hclock : t.clock ≤ target) : (t.advance target).2.Settled := by
  induction t using advance.induct target with
  | case1 t hnext =>
    rw [advance_of_none hnext]
    exact Timers.act?_eq_none_of_next? hclock (by simp [hnext])
  | case2 t moment s hnext hle ih =>
    rw [advance_of_some hnext, if_pos hle]
    exact ih hle
  | case3 t moment s hnext hlt =>
    rw [advance_of_some hnext, if_neg hlt]
    refine Timers.act?_eq_none_of_next? hclock fun other u hu => ?_
    cases hnext.symm.trans hu
    exact Nat.not_le.mp hlt

/-- Without time, nothing goes on any more. -/
theorem Settled.advance_clock (h : t.Settled) : t.advance t.clock = ([], t) := by
  cases hnext : t.timers.next? t.clock with
  | none => exact advance_of_none hnext _
  | some next =>
    obtain ⟨moment, s⟩ := next
    have hlt : t.clock < moment := by
      unfold Timers.next? at hnext
      rw [h] at hnext
      obtain ⟨deadline, hdeadline, hnext⟩ := Option.bind_eq_some_iff.mp hnext
      obtain ⟨u, hu, heq⟩ := Option.bind_eq_some_iff.mp hnext
      cases heq
      rcases Timers.act?_eq_none_iff.mp h with ⟨-, -, hahead⟩ | hp
      · exact hahead _ hdeadline
      · rw [Timers.act?, hp] at hu
        cases hu
    exact (advance_of_some hnext _).trans (if_neg (Nat.not_le.mpr hlt))

theorem Settled.cancel (h : t.Settled) (id : Nat) : (t.cancel id).2.Settled := by
  obtain ⟨hinbox, htable, hphase⟩ := t.timers.turn_eq id .cancelled
  refine Timers.act?_eq_none_iff.mpr ?_
  rw [TimedTimers.cancel, Timers.cancel, hphase, hinbox, htable]
  exact Timers.act?_eq_none_iff.mp h

/-- The timers that are pending while the task is at rest pass later. -/
theorem Reflects.lt_deadline (h : Reflects acts t) (hrunning : .shutdown ∉ acts) (hs : t.Settled)
    (hid : Pending acts id) (hset : (scheduled acts)[id]? = some (deadline, job)) :
    t.clock < deadline := by
  obtain ⟨-, ids, hout, -, hids⟩ := h.advance 0
  rw [Nat.add_zero, hs.advance_clock] at hout
  rw [h.clock]
  by_contra hle
  have hmem := (hids id).mpr ⟨hrunning, hid, _, hset, Nat.not_lt.mp hle⟩
  rw [List.map_nil, eq_comm, List.map_eq_nil_iff] at hout
  simp [hout] at hmem

/-- The agenda has the deadlines of all pending timers. -/
theorem Reflects.mem_agenda_iff (h : Reflects acts t) (hrunning : .shutdown ∉ acts)
    (hs : t.Settled) (hid : Pending acts id) : (deadline, id) ∈ t.timers.table.agenda ↔
      ∃ job, (scheduled acts)[id]? = some (deadline, job) := by
  have hacts : ¬Halted acts := fun hacts => hrunning (mem_of_halted hacts)
  have htracks := h.tracks hacts
  have hinbox : t.timers.inbox = [] := by
    rcases Timers.act?_eq_none_iff.mp hs with ⟨-, hinbox, -⟩ | hp
    · exact hinbox
    · cases (h.waiting hacts).symm.trans hp
  have hheard : Heard (scheduled acts) t.clock t.timers := by
    refine ⟨htracks.lists, hinbox, h.handed, h.accounted, fun other d j hother hset => ?_⟩
    exact h.clock ▸ h.ahead other (d, j) ((h.armed other).mp hother) hset
  constructor
  · intro hmem
    obtain ⟨job, -, hset⟩ := (htracks.lists.mem_agenda deadline id).mp hmem
    exact ⟨job, hset⟩
  · rintro ⟨job, hset⟩
    exact hheard.mem_agenda ((h.armed id).mpr hid) hset

end TimedTimers

end ChatCommands
