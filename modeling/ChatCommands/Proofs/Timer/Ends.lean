import Mathlib.Data.List.Perm.Basic
import ChatCommands.Proofs.Timer.Interleaving

/-! # Ends of timers

A step ends at most one timer, and then for good. Clients that cancel it, the task that fires it,
the task that stops and the call that could not tell the task of it may all try to end it; the first
of them succeeds and the others learn that they came too late.
-/

namespace ChatCommands

open Relation
open scoped List

namespace TimerHistory

variable {K : Type} {h h' : TimerHistory K} {arms : List Arm}
  {timers handovers : List (Nat × Nat × K)} {told : List (Nat × Bool)} {id : Nat} {arm : Arm}

/-- How often a job of the timer was handed over. -/
def handedOver (h : TimerHistory K) (id : Nat) : Nat :=
  h.handovers.countP (·.2.1 == id)

/-- How many of those who cancelled the timer were told that this kept it from firing. -/
def cancellations (h : TimerHistory K) (id : Nat) : Nat :=
  h.answers.count (id, true)

/-- What becomes of the arms in one step, with the timer that is made, the job that is handed over
and the answer to whoever cancels a timer. -/
inductive Change (h : TimerHistory K) :
    List Arm → List (Nat × Nat × K) → List (Nat × Nat × K) → List (Nat × Bool) → Prop
  | still {answers : List (Nat × Bool)} : (∀ id, (id, true) ∉ answers) →
      Change h h.timers.arms [] [] answers
  | makes (timer : Nat × Nat × K) : Change h (h.timers.arms ++ [.armed]) [timer] [] []
  | cancels {id : Nat} {answers : List (Nat × Bool)} : h.timers.isPending id = true →
      answers = [] ∨ answers = [(id, true)] →
      Change h (h.timers.arms.set id .cancelled) [] [] answers
  | fires {id deadline now : Nat} {task : K} : h.timers.isPending id = true →
      h.made[id]? = some (deadline, id, task) → deadline ≤ now →
      Change h (h.timers.arms.set id .fired) [] [(now, id, task)] []

/-- All that a step changes about the timers and what is seen of them. -/
structure Effect (h h' : TimerHistory K) (timers handovers : List (Nat × Nat × K))
    (told : List (Nat × Bool)) : Prop where
  change : h.Change h'.timers.arms timers handovers told
  made : h'.made = h.made ++ timers
  handed : h'.timers.handed ++ h'.ran ~ h.timers.handed ++ h.ran ++ handovers.map Prod.snd
  handovers : h'.handovers = h.handovers ++ handovers
  answers : h'.answers = h.answers ++ told

/-- A step of the task or of a message that leaves all timers as they are. -/
theorem effect_still {t : Timers (Nat × K)} (calls : List (TimerCall K))
    (harms : t.arms = h.timers.arms) (hhanded : t.handed = h.timers.handed) :
    h.Effect { h with timers := t, calls := calls } [] [] [] where
  change := harms ▸ .still (by simp)
  made := (List.append_nil _).symm
  handed := by simp [hhanded]
  handovers := (List.append_nil _).symm
  answers := (List.append_nil _).symm

/-- Somebody has tried to cancel a timer, and may have been told whether that kept it from
firing. -/
theorem effect_cancelled {t : Timers (Nat × K)} (calls : List (TimerCall K))
    {told : List (Nat × Bool)} {id : Nat} (harms : t.arms = (h.timers.cancel id).2.arms)
    (hhanded : t.handed = h.timers.handed)
    (htold : told = [] ∨ told = [(id, (h.timers.cancel id).1)]) :
    h.Effect { h with timers := t, calls := calls, answers := h.answers ++ told } [] [] told where
  change := by
    obtain ⟨hp, hturn⟩ | ⟨-, hturn⟩ := h.timers.turn_cases id .cancelled <;>
      rw [Timers.cancel, hturn] at harms htold
    · exact harms ▸ .cancels hp htold
    · refine harms ▸ .still fun other hmem => ?_
      rcases htold with rfl | rfl <;> simp at hmem
  made := (List.append_nil _).symm
  handed := by simp [hhanded]
  handovers := (List.append_nil _).symm
  answers := rfl

theorem effect_drained {t : Timers (Nat × K)} (harms : t.arms = h.timers.arms)
    (hhanded : t.handed = h.timers.handed) : h.Effect { h with timers := t.drain } [] [] [] := by
  obtain ⟨id, -, hturned, hsame, -⟩ | ⟨-, hkept, hsame, -⟩ := t.drain_cases
  · have hturned := hturned.trans (Timers.arms_turn_congr harms id .cancelled)
    have heffect := effect_cancelled h.calls hturned (hsame.trans hhanded) (Or.inl rfl)
    rwa [List.append_nil] at heffect
  · exact effect_still _ (hkept.trans harms) (hsame.trans hhanded)

theorem Kept.exists_effect_of_fired (hk : h.Kept) {t : Timers (Nat × K)} {now : Nat}
    (hnow : now ≤ h.clock) (hr : h.timers.isRunning = true) (hs : h.timers.fire? now = some t) :
    ∃ timers handovers told, h.Effect (h.fire t) timers handovers told := by
  obtain ⟨deadline, id, job, hset, hdue, -, -, -, -, -, hends⟩ :=
    Timers.fire?_cases (hk.tracks hr).lists hs
  obtain rfl : job.1 = id := hk.handle _ _ _ hset
  obtain ⟨hp, harms, hhanded⟩ | ⟨-, harms, hhanded⟩ := hends
  · have hchange := Change.fires hp hset (Nat.le_trans hdue hnow)
    have hperm : [job] ++ h.ran ~ h.ran ++ [job] := List.perm_append_comm
    refine ⟨[], [(h.clock, job)], [], harms ▸ hchange, (List.append_nil _).symm, ?_, ?_,
      (List.append_nil _).symm⟩
    · simpa [TimerHistory.fire, hhanded] using hperm.append_left h.timers.handed
    · simp [TimerHistory.fire, hhanded]
  · refine ⟨[], [], [], harms ▸ .still (by simp), (List.append_nil _).symm, ?_, ?_,
      (List.append_nil _).symm⟩
    · simp [TimerHistory.fire, hhanded]
    · simp [TimerHistory.fire, hhanded]

theorem Kept.exists_effect (hk : h.Kept) (hs : h.Step h') :
    ∃ timers handovers told, h.Effect h' timers handovers told := by
  cases hs with
  | tick nanos => exact ⟨[], [], [], .still (by simp), by simp, by simp, by simp, by simp⟩
  | make _ task _ =>
    exact ⟨[(_, _, task)], [], [], .makes _, rfl, by simp [TimerHistory.make],
      (List.append_nil _).symm, (List.append_nil _).symm⟩
  | send _ _ _ _ => exact ⟨[], [], [], effect_still _ rfl rfl⟩
  | refuse _ _ _ _ => exact ⟨[], [], [], effect_still _ rfl rfl⟩
  | @giveUp before after id _ =>
    have harms : (h.timers.cancel id).2.arms = (h.timers.cancel id).2.arms := rfl
    have heffect := effect_cancelled (before ++ after) harms (Timers.handed_turn _ _ _) (Or.inl rfl)
    rw [List.append_nil] at heffect
    exact ⟨[], [], [], heffect⟩
  | cancel id =>
    exact ⟨[], [], _, effect_cancelled h.calls rfl (Timers.handed_turn _ _ _) (Or.inr rfl)⟩
  | shutdown =>
    obtain ⟨harms, -, hhanded⟩ := h.timers.shutdown_eq
    exact ⟨[], [], [], effect_still _ harms hhanded⟩
  | receive hp hs =>
    obtain ⟨-, -, harms, hhanded⟩ := (hk.tracks (isRunning_of_waiting hp)).receive? hs
    exact ⟨[], [], [], effect_still _ harms hhanded⟩
  | abandon _ _ _ => exact ⟨[], [], [], effect_still _ rfl rfl⟩
  | wake hp hs => exact hk.exists_effect_of_fired (Nat.le_refl _) (isRunning_of_waiting hp) hs
  | fire hp hs =>
    exact hk.exists_effect_of_fired (hk.punctual _ hp) (by rw [Timers.isRunning, hp]) hs
  | rest _ _ _ _ => exact ⟨[], [], [], effect_still _ rfl rfl⟩
  | close _ => exact ⟨[], [], [], effect_still _ rfl rfl⟩
  | drain _ _ =>
    exact ⟨[], [], [], effect_drained rfl rfl⟩
  | run _ htake =>
    obtain ⟨job, hjob, heq⟩ := Option.map_eq_some_iff.mp htake
    cases heq
    refine ⟨[], [], [], .still (by simp), by simp, ?_, by simp, by simp⟩
    obtain ⟨hlt, rfl⟩ := List.getElem?_eq_some_iff.mp hjob
    have hrest := (List.getElem_cons_eraseIdx_perm hlt).append_right h.ran
    refine List.Perm.trans ?_ (hrest.trans (by simp))
    rw [← List.append_assoc]
    exact List.perm_append_singleton _ _

/-! ## Arms -/

theorem arm?_set_of_ended {other : Nat} {last : Arm} (hp : h.timers.isPending id = true)
    (harm : arm ≠ .armed) (hended : h.timers.arm? other = some arm) :
    (h.timers.arms.set id last)[other]? = some arm := by
  rw [Timers.arm?_set hp, if_neg, hended]
  rintro rfl
  rw [Timers.isPending_iff.mp hp] at hended
  exact harm (Option.some.inj hended).symm

/-- A timer that has ended stays as it is. -/
theorem Change.arm?_of_ended (hc : h.Change arms timers handovers told) (harm : arm ≠ .armed)
    (hended : h.timers.arm? id = some arm) : arms[id]? = some arm := by
  cases hc with
  | still _ => exact hended
  | makes _ => exact getElem?_append_of_eq_some hended _
  | cancels hp _ => exact arm?_set_of_ended hp harm hended
  | fires hp _ _ => exact arm?_set_of_ended hp harm hended

/-- A timer that was armed has ended by its arm being turned, and the others are as they were. -/
theorem toNat_arm?_set {last : Arm} (hp : h.timers.isPending id = true) (harm : arm ≠ .armed)
    (other : Nat) : ((h.timers.arms.set id last)[other]? == some arm).toNat =
      (h.timers.arm? other == some arm).toNat + if id = other ∧ last = arm then 1 else 0 := by
  rw [Timers.arm?_set hp]
  by_cases hother : id = other
  · subst hother
    rw [Timers.isPending_iff.mp hp, if_pos rfl]
    simp only [true_and]
    cases arm <;> cases last <;> first | rfl | exact absurd rfl harm
  · rw [if_neg (Ne.symm hother), if_neg (fun h => hother h.1), Nat.add_zero]

theorem arm?_concat_armed (harm : arm ≠ .armed) (id : Nat) :
    ((h.timers.arms ++ [.armed])[id]? == some arm) = (h.timers.arm? id == some arm) := by
  rw [Timers.arm?, List.getElem?_append]
  split
  · rfl
  · rename_i hge
    rw [List.getElem?_eq_none (Nat.not_lt.mp hge), List.getElem?_singleton]
    split <;> cases arm <;> first | rfl | exact absurd rfl harm

/-- Whoever fires a timer hands its job over. -/
theorem Change.countP_handovers (hc : h.Change arms timers handovers told) (id : Nat) :
    (arms[id]? == some .fired).toNat =
      (h.timers.hasFired id).toNat + handovers.countP (·.2.1 == id) := by
  cases hc with
  | still _ => rfl
  | makes _ => rw [arm?_concat_armed (by decide)]; rfl
  | cancels hp _ =>
    rw [toNat_arm?_set hp (by decide), if_neg (by simp)]
    rfl
  | fires hp _ _ =>
    rw [toNat_arm?_set hp (by decide), List.countP_singleton, Timers.hasFired]
    simp only [beq_iff_eq, and_true]

/-- Whoever is told that a timer was kept from firing has cancelled it. -/
theorem Change.count_told (hc : h.Change arms timers handovers told) (id : Nat) :
    (h.timers.arm? id == some .cancelled).toNat + told.count (id, true) ≤
      (arms[id]? == some .cancelled).toNat := by
  cases hc with
  | still hnone =>
    rw [List.count_eq_zero.mpr (hnone id)]
    exact Nat.le_refl _
  | makes _ =>
    rw [arm?_concat_armed (by decide)]
    exact Nat.le_refl _
  | cancels hp htold =>
    rw [toNat_arm?_set hp (by decide)]
    rcases htold with rfl | rfl
    · exact Nat.add_le_add_left (Nat.zero_le _) _
    · simp [List.count_singleton]
  | fires hp _ _ =>
    rw [toNat_arm?_set hp (by decide), if_neg (by simp)]
    exact Nat.le_refl _

/-- No job is handed over before the deadline of its timer. -/
theorem Change.due (hc : h.Change arms timers handovers told) {now : Nat} {task : K}
    (hmem : (now, id, task) ∈ handovers) :
    ∃ deadline ≤ now, h.made[id]? = some (deadline, id, task) := by
  cases hc with
  | still _ | makes _ | cancels _ _ => cases hmem
  | fires _ hset hdue =>
    cases List.mem_singleton.mp hmem
    exact ⟨_, hdue, hset⟩

/-! ## Runs -/

/-- What is known of the jobs that were handed over and of the answers. -/
structure Recorded (h : TimerHistory K) : Prop where
  handed : h.timers.handed ++ h.ran ~ h.handovers.map Prod.snd
  fired : ∀ id, h.handedOver id = (h.timers.hasFired id).toNat
  due : ∀ now id task, (now, id, task) ∈ h.handovers →
    ∃ deadline ≤ now, h.made[id]? = some (deadline, id, task)
  answered : ∀ id, h.cancellations id ≤ (h.timers.arm? id == some .cancelled).toNat

theorem recorded_start : Recorded ({} : TimerHistory K) where
  handed := .nil
  fired := fun _ => rfl
  due := by simp
  answered := fun _ => Nat.zero_le _

theorem Recorded.step (ht : h.Recorded) (he : h.Effect h' timers handovers told) :
    h'.Recorded where
  handed := by
    rw [he.handovers, List.map_append]
    exact he.handed.trans (ht.handed.append_right _)
  fired := fun id => by
    have hcount := he.change.countP_handovers id
    rw [handedOver, he.handovers, List.countP_append, ← handedOver, ht.fired, ← hcount]
    rfl
  due := fun now id task hmem => by
    rw [he.handovers, List.mem_append] at hmem
    rw [he.made]
    obtain ⟨deadline, hdue, hset⟩ := hmem.elim (ht.due now id task) he.change.due
    exact ⟨deadline, hdue, getElem?_append_of_eq_some hset _⟩
  answered := fun id => by
    have hcount := he.change.count_told id
    have hanswered := ht.answered id
    rw [cancellations] at hanswered ⊢
    rw [he.answers, List.count_append]
    exact Nat.le_trans (Nat.add_le_add_right hanswered _) hcount

theorem Reachable.recorded (hr : h.Reachable) : h.Recorded := by
  induction hr with
  | refl => exact recorded_start
  | tail hr hs ih =>
    obtain ⟨_, _, _, heffect⟩ := (Reachable.kept hr).exists_effect hs
    exact ih.step heffect

/-- Nothing that happens later changes how a timer ended. -/
theorem Reachable.arm?_of_ended (hr : h.Reachable) (hs : ReflTransGen Step h h')
    (harm : arm ≠ .armed) (hended : h.timers.arm? id = some arm) :
    h'.timers.arm? id = some arm := by
  induction hs with
  | refl => exact hended
  | tail hs hstep ih =>
    obtain ⟨_, _, _, heffect⟩ := (Reachable.kept (hr.trans hs)).exists_effect hstep
    exact heffect.change.arm?_of_ended harm ih

/-- When the task has finished, all timers have ended but those of calls that have not returned. -/
theorem Kept.isPending_eq_false (hk : h.Kept) (hp : h.timers.phase = .finished)
    (hcalls : h.calls = []) (id : Nat) : h.timers.isPending id = false := by
  refine Bool.eq_false_iff.mpr fun hid => ?_
  have hmem := hk.accounted id hid
  rw [hk.emptied hp, TimerHistory.called, hcalls] at hmem
  simp at hmem

/-- Each timer ends at most once, whoever tries to end it. -/
structure EndsOnce (h : TimerHistory K) : Prop where
  /-- A timer that has fired or was cancelled never changes. -/
  lasting : ∀ h' id arm, ReflTransGen Step h h' → arm ≠ .armed →
    h.timers.arm? id = some arm → h'.timers.arm? id = some arm
  /-- The jobs that were handed over are those that wait and those that ran. -/
  handed : h.timers.handed ++ h.ran ~ h.handovers.map Prod.snd
  /-- The job of a timer that fired was handed over once, and that of any other timer never. -/
  fired : ∀ id, h.handedOver id = if h.timers.hasFired id then 1 else 0
  due : ∀ now id task, (now, id, task) ∈ h.handovers →
    ∃ deadline ≤ now, h.made[id]? = some (deadline, id, task)
  cancelled_once : ∀ id, h.cancellations id ≤ 1
  kept_from_firing : ∀ id, 0 < h.handedOver id → h.cancellations id = 0
  /-- No timer stays armed once the task has finished and all calls have returned. -/
  none_left : h.timers.phase = .finished → h.calls = [] → ∀ id, h.timers.isPending id = false

theorem timers_end_once (hr : h.Reachable) : h.EndsOnce := by
  have ht := hr.recorded
  have hcancelled : ∀ id, h.handedOver id + h.cancellations id ≤ 1 := by
    intro id
    rw [ht.fired id, Timers.hasFired]
    refine Nat.le_trans (Nat.add_le_add_left (ht.answered id) _) ?_
    cases h.timers.arm? id with
    | none => decide
    | some arm => cases arm <;> decide
  constructor
  case lasting =>
    intro h' id arm hs harm hended
    exact hr.arm?_of_ended hs harm hended
  case handed => exact ht.handed
  case fired =>
    intro id
    rw [ht.fired id]
    cases h.timers.hasFired id <;> rfl
  case due => exact ht.due
  case cancelled_once =>
    intro id
    exact Nat.le_trans (Nat.le_add_left _ _) (hcancelled id)
  case kept_from_firing =>
    intro id hover
    have hle := hcancelled id
    omega
  case none_left =>
    intro hp hcalls id
    exact hr.kept.isPending_eq_false hp hcalls id

/-- One timer fires, one is cancelled in time and one is set when the task is gone. -/
theorem timers_end_once_farewell : ∃ h : TimerHistory String, h.Reachable ∧
    h.timers.phase = .finished ∧ h.timers.arms = [.fired, .cancelled, .cancelled] ∧
    h.handovers = [(3, 0, "ring")] ∧ h.answers = [(0, false), (1, true)] ∧ h.EndsOnce := by
  have hset := ((ReflTransGen.refl.tail (Step.make (h := {}) 3 "ring" (by decide))).tail
    (.send [] [] rfl rfl)).tail (.receive rfl rfl)
  have hfired := (((hset.tail (.tick _ 3)).tail (.wake rfl rfl)).tail (.cancel _ 0)).tail
    (.rest (fun _ => true) rfl rfl fun _ _ => rfl)
  have hcancelled := (((hfired.tail (.shutdown _)).tail (.make 7 "late" (by decide))).tail
    (.send [] [] rfl rfl)).tail (.cancel _ 1)
  have hclosed := (((hcancelled.tail (.receive rfl rfl)).tail (.close rfl)).tail
    (.make 0 "lost" (by decide))).tail (.refuse [] [] rfl rfl)
  have hfinished := (((hclosed.tail (.drain rfl (.refl _))).tail (.drain rfl (.refl _))).tail
    (.giveUp [] [] rfl)).tail (.run 0 rfl)
  exact ⟨_, hfinished, rfl, rfl, rfl, rfl, timers_end_once hfinished⟩

end TimerHistory

end ChatCommands
