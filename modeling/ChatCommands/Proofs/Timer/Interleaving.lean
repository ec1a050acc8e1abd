import Mathlib.Logic.Relation
import ChatCommands.Proofs.Timer.Steps

/-! # Timers under all interleavings

Clients set and cancel timers and tell the task to stop while the task takes its steps and jobs that
were handed over wait for their turn to run, all in any order. A call that sets a timer makes it
first and tells the task then, and may find that the task takes no more messages.
-/

namespace ChatCommands

open Relation
open scoped List

/-- A call that sets a timer and has not returned. -/
inductive TimerCall (K : Type)
  /-- It has made the timer, and is about to tell the task. -/
  | sending (id deadline : Nat) (task : K)
  /-- It could not tell the task, and is about to cancel the timer. -/
  | refused (id : Nat)

namespace TimerCall

variable {K : Type}

def id : TimerCall K → Nat
  | sending id _ _ => id
  | refused id => id

end TimerCall

/-- Timers whose jobs bear their handles, with the calls that set timers and all that was seen. -/
structure TimerHistory (K : Type) where
  clock : Nat := 0
  timers : Timers (Nat × K) := {}
  calls : List (TimerCall K) := []
  /-- All timers that were made, with their deadlines and jobs. -/
  made : List (Nat × Nat × K) := []
  /-- The jobs that were handed over, with the moments. -/
  handovers : List (Nat × Nat × K) := []
  ran : List (Nat × K) := []
  /-- The answers to those who cancelled timers. -/
  answers : List (Nat × Bool) := []

namespace TimerHistory

variable {K : Type}

/-- Begins to set a timer. Nobody else knows of it yet. -/
def make (h : TimerHistory K) (delay : Nat) (task : K) : TimerHistory K :=
  let id := h.timers.arms.length
  let deadline := h.clock + delay
  { h with
    timers := { h.timers with arms := h.timers.arms ++ [.armed] }
    calls := h.calls ++ [.sending id deadline task]
    made := h.made ++ [(deadline, id, task)] }

/-- The task has taken a step towards firing, and may have handed a job over. -/
def fire (h : TimerHistory K) (t : Timers (Nat × K)) : TimerHistory K :=
  { h with
    timers := t
    handovers := h.handovers ++
      (t.handed.drop h.timers.handed.length).map fun job => (h.clock, job) }

inductive Step : TimerHistory K → TimerHistory K → Prop
  | tick (h : TimerHistory K) (nanos : Nat) : Step h { h with clock := h.clock + nanos }
  | make {h : TimerHistory K} (delay : Nat) (task : K) : h.clock + delay ≤ Timers.horizon →
      Step h (h.make delay task)
  /-- A call finds the channel to the task open and puts its message in. These are two steps of a
  channel that is not closed between them, see `SplitHistory`. -/
  | send {h : TimerHistory K} (before after : List (TimerCall K)) {id deadline : Nat} {task : K} :
      h.calls = before ++ .sending id deadline task :: after → h.timers.isRunning = true →
      Step h { h with
        timers := { h.timers with
          inbox := h.timers.inbox ++ [.schedule id deadline (id, task)] }
        calls := before ++ after }
  | refuse {h : TimerHistory K} (before after : List (TimerCall K)) {id deadline : Nat} {task : K} :
      h.calls = before ++ .sending id deadline task :: after → h.timers.isRunning = false →
      Step h { h with calls := before ++ .refused id :: after }
  | giveUp {h : TimerHistory K} (before after : List (TimerCall K)) {id : Nat} :
      h.calls = before ++ .refused id :: after →
      Step h { h with timers := (h.timers.cancel id).2, calls := before ++ after }
  | cancel (h : TimerHistory K) (id : Nat) :
      Step h { h with
        timers := (h.timers.cancel id).2
        answers := h.answers ++ [(id, (h.timers.cancel id).1)] }
  | shutdown (h : TimerHistory K) : Step h { h with timers := h.timers.shutdown }
  | receive {h : TimerHistory K} {t : Timers (Nat × K)} : h.timers.phase = .waiting →
      h.timers.receive? = some t → Step h { h with timers := t }
  /-- Nobody is left who could send a message. -/
  | abandon {h : TimerHistory K} : h.timers.phase = .waiting → h.timers.inbox = [] →
      h.calls = [] → Step h { h with timers := { h.timers with phase := .stopping } }
  /-- The task wakes, and fires the first timer that is due. -/
  | wake {h : TimerHistory K} {t : Timers (Nat × K)} : h.timers.phase = .waiting →
      h.timers.fire? h.clock = some t → Step h (h.fire t)
  /-- The task fires the next timer that was due when it woke. -/
  | fire {h : TimerHistory K} {now : Nat} {t : Timers (Nat × K)} : h.timers.phase = .firing now →
      h.timers.fire? now = some t → Step h (h.fire t)
  /-- The task forgets cancelled timers, but maybe not those that are cancelled just then. -/
  | rest {h : TimerHistory K} {now : Nat} (keep : Nat → Bool) : h.timers.phase = .firing now →
      h.timers.fire? now = none → (∀ id, h.timers.isPending id = true → keep id = true) →
      Step h { h with timers := { h.timers with
        table := h.timers.table.prune keep
        phase := .waiting } }
  | close {h : TimerHistory K} : h.timers.phase = .stopping →
      Step h { h with timers := h.timers.close }
  /-- The task cancels one of the timers that it has, in whatever order these are. -/
  | drain {h : TimerHistory K} {jobs : List (Nat × Nat × K)} : h.timers.phase = .draining →
      jobs ~ h.timers.table.jobs →
      Step h { h with timers := Timers.drain { h.timers with
        table := { h.timers.table with jobs := jobs } } }
  | run {h : TimerHistory K} (position : Nat) {job : Nat × K} {t : Timers (Nat × K)} :
      h.timers.takeHanded? position = some (job, t) →
      Step h { h with timers := t, ran := h.ran ++ [job] }

/-- The history comes about by steps of clients, of the task and of the jobs in some order. -/
def Reachable (h : TimerHistory K) : Prop :=
  ReflTransGen Step {} h

/-- A call that sets a timer, if nothing comes in between, does so at once. -/
theorem reaches_schedule (h : TimerHistory K) {delay : Nat} {task : K} {id : Nat}
    {t : Timers (Nat × K)}
    (hs : h.timers.schedule h.clock delay (h.timers.arms.length, task) = .ok (id, t)) :
    ReflTransGen Step h
      { h with timers := t, made := h.made ++ [(h.clock + delay, id, task)] } := by
  obtain ⟨-, herror⟩ | ⟨hle, hr, hok⟩ | ⟨hle, hr, hok⟩ :=
    h.timers.schedule_cases h.clock delay (h.timers.arms.length, task)
  · rw [herror] at hs
    cases hs
  · cases hok.symm.trans hs
    have hsent := (ReflTransGen.single (Step.make delay task hle)).tail (.send _ [] rfl hr)
    rwa [List.append_nil] at hsent
  · cases hok.symm.trans hs
    have hrefused := (ReflTransGen.single (Step.make delay task hle)).tail (.refuse _ [] rfl hr)
    have hgone := hrefused.tail (.giveUp _ [] rfl)
    have hpending : (h.make delay task).timers.isPending h.timers.arms.length = true :=
      (Timers.isPending_concat rfl _).mpr (Or.inr ⟨rfl, rfl⟩)
    have hcancelled : ((h.make delay task).timers.cancel h.timers.arms.length).2 =
        { h.timers with arms := h.timers.arms ++ [.cancelled] } := by
      rw [Timers.cancel, Timers.turn, if_pos hpending]
      simp [TimerHistory.make]
    rw [List.append_nil] at hgone
    exact hcancelled ▸ hgone

theorem exists_step_of_task (h : TimerHistory K) {t : Timers (Nat × K)}
    (hs : Timers.TaskStep h.clock h.timers t) : ∃ h', h.Step h' ∧ h'.timers = t ∧
      h'.clock = h.clock ∧ h'.ran = h.ran ∧ h'.made = h.made := by
  cases hs with
  | receive hp hreceive => exact ⟨_, .receive hp hreceive, rfl, rfl, rfl, rfl⟩
  | wake hp hfire => exact ⟨_, .wake hp hfire, rfl, rfl, rfl, rfl⟩
  | fire hp hfire => exact ⟨_, .fire hp hfire, rfl, rfl, rfl, rfl⟩
  | rest keep hp hfire hkeep => exact ⟨_, .rest keep hp hfire hkeep, rfl, rfl, rfl, rfl⟩

/-- What the task does next on a clock is one of its steps here. -/
theorem exists_step_of_act? (h : TimerHistory K) {t : Timers (Nat × K)}
    (hact : h.timers.act? h.clock = some t) : ∃ h', h.Step h' ∧ h'.timers = t := by
  unfold Timers.act? at hact
  split at hact
  · rename_i hp
    cases hreceive : h.timers.receive? with
    | some s =>
      rw [hreceive] at hact
      cases hact
      exact ⟨_, .receive hp hreceive, rfl⟩
    | none =>
      rw [hreceive] at hact
      exact ⟨_, .wake hp hact, rfl⟩
  · rename_i now hp
    cases hact
    cases hfire : h.timers.fire? now with
    | some s => exact ⟨_, .fire hp hfire, rfl⟩
    | none => exact ⟨_, .rest _ hp hfire fun _ hid => hid, rfl⟩
  · rename_i hp
    cases hact
    exact ⟨_, .close hp, rfl⟩
  · rename_i hp
    cases hact
    exact ⟨_, .drain hp (.refl _), rfl⟩
  · cases hact

/-- The timers of the calls that have not returned. -/
def called (h : TimerHistory K) : List Nat :=
  h.calls.map TimerCall.id

/-- What is known of the timers that are made. -/
structure Kept (h : TimerHistory K) : Prop where
  length : h.timers.arms.length = h.made.length
  /-- The job of a timer bears its handle. -/
  handle : ∀ (id deadline : Nat) (job : Nat × K), h.made[id]? = some (deadline, job) → job.1 = id
  called : ∀ id ∈ h.called, id < h.made.length
  sending : ∀ id deadline task, .sending id deadline task ∈ h.calls →
    h.made[id]? = some (deadline, id, task)
  /-- No armed timer gets lost between the calls, the inbox and the table. -/
  accounted : h.timers.Accounted h.called
  tracks : h.timers.isRunning = true → h.timers.Tracks h.made
  nodup : h.timers.isRunning = true → (h.timers.kept ++ h.called).Nodup
  punctual : ∀ now, h.timers.phase = .firing now → now ≤ h.clock
  emptied : h.timers.phase = .finished → h.timers.kept = []

variable {h h' : TimerHistory K}

theorem kept_start : Kept ({} : TimerHistory K) where
  length := rfl
  handle := by simp
  called := by simp [called]
  sending := by simp
  accounted := by simp [Timers.Accounted, Timers.isPending, Timers.arm?]
  tracks := fun _ => ⟨TimerTable.lists_empty _, by simp, .nil⟩
  nodup := fun _ => .nil
  punctual := by simp
  emptied := by simp

/-- What the task does, and what is done to it, while no timer is made. -/
theorem Kept.moves (hk : h.Kept) (hclock : h'.clock = h.clock) (hcalls : h'.calls = h.calls)
    (hmade : h'.made = h.made) (hlength : h'.timers.arms.length = h.timers.arms.length)
    (haccounted : h'.timers.Accounted h.called)
    (hrunning : h'.timers.isRunning = true → h.timers.isRunning = true ∧
      h'.timers.Tracks h.made ∧ h'.timers.kept.Sublist h.timers.kept)
    (hpunctual : ∀ now, h'.timers.phase = .firing now → now ≤ h.clock)
    (hemptied : h'.timers.phase = .finished → h'.timers.kept = []) : h'.Kept := by
  have hcalled : h'.called = h.called := by rw [TimerHistory.called, hcalls, TimerHistory.called]
  refine {
    length := by rw [hlength, hmade, hk.length]
    handle := hmade ▸ hk.handle
    called := by rw [hcalled, hmade]; exact hk.called
    sending := by rw [hcalls, hmade]; exact hk.sending
    accounted := by rw [hcalled]; exact haccounted
    tracks := fun hr => hmade ▸ (hrunning hr).2.1
    nodup := fun hr => ?_
    punctual := by rw [hclock]; exact hpunctual
    emptied := hemptied }
  obtain ⟨hrunning, -, hkept⟩ := hrunning hr
  rw [hcalled]
  exact (hk.nodup hrunning).sublist (hkept.append_right _)

theorem Kept.make (hk : h.Kept) (delay : Nat) (task : K) : (h.make delay task).Kept := by
  have hcalled : (h.make delay task).called = h.called ++ [h.made.length] := by
    simp [TimerHistory.make, TimerHistory.called, TimerCall.id, hk.length]
  have hmade : (h.make delay task).made = h.made ++ [(h.clock + delay, h.made.length, task)] := by
    simp [TimerHistory.make, hk.length]
  constructor
  case length => simp [TimerHistory.make, hk.length]
  case handle =>
    intro id deadline job hset
    rw [hmade, List.getElem?_append] at hset
    split at hset
    · exact hk.handle id deadline job hset
    · rename_i hge
      obtain ⟨hlt, heq⟩ := List.getElem?_eq_some_iff.mp hset
      rw [List.length_singleton] at hlt
      rw [List.getElem_singleton] at heq
      cases heq
      omega
  case called =>
    intro id hid
    rw [hcalled, List.mem_append, List.mem_singleton] at hid
    rw [hmade, List.length_append, List.length_singleton]
    exact hid.elim (fun hid => Nat.lt_succ_of_lt (hk.called id hid)) (fun hid => by omega)
  case sending =>
    intro id deadline other hcall
    rw [hmade]
    rcases List.mem_append.mp hcall with hcall | hcall
    · exact getElem?_append_of_eq_some (hk.sending id deadline other hcall) _
    · cases List.mem_singleton.mp hcall
      rw [hk.length]
      exact List.getElem?_concat_length
  case accounted =>
    intro id hid
    rw [hcalled, List.mem_append, List.mem_singleton]
    rcases (Timers.isPending_concat rfl id).mp hid with hid | ⟨rfl, -⟩
    · exact (hk.accounted id hid).imp_right Or.inl
    · exact Or.inr (Or.inr hk.length)
  case tracks =>
    intro hr
    rw [hmade]
    exact ((hk.tracks hr).append _).congr rfl rfl
  case nodup =>
    intro hr
    rw [hcalled, ← List.append_assoc]
    refine List.nodup_append.mpr ⟨hk.nodup hr, List.nodup_singleton _, fun a ha b hb heq => ?_⟩
    obtain rfl := List.mem_singleton.mp hb
    subst heq
    rcases List.mem_append.mp ha with ha | ha
    · exact Nat.lt_irrefl _ ((hk.tracks hr).lt_length ha)
    · exact Nat.lt_irrefl _ (hk.called _ ha)
  case punctual => exact hk.punctual
  case emptied => exact hk.emptied

variable {before after : List (TimerCall K)} {id deadline : Nat} {task : K}

theorem called_perm {call : TimerCall K} (hcalls : h.calls = before ++ call :: after) :
    h.called ~ call.id :: (before ++ after).map TimerCall.id := by
  rw [TimerHistory.called, hcalls, List.map_append, List.map_append]
  exact List.perm_middle

/-- A call returns. -/
theorem Kept.returns (hk : h.Kept) {call : TimerCall K}
    (hcalls : h.calls = before ++ call :: after) {t : Timers (Nat × K)}
    (hlength : t.arms.length = h.timers.arms.length) (hphase : t.phase = h.timers.phase)
    (haccounted : t.Accounted ((before ++ after).map TimerCall.id))
    (hrunning : h.timers.isRunning = true → t.Tracks h.made ∧
      (t.kept ++ (before ++ after).map TimerCall.id).Nodup)
    (hemptied : h.timers.phase = .finished → t.kept = []) :
    Kept { h with timers := t, calls := before ++ after } := by
  have hsame : t.isRunning = h.timers.isRunning := Timers.isRunning_congr hphase
  have hrest : ∀ other ∈ before ++ after, other ∈ h.calls := by
    intro other hother
    rw [hcalls]
    exact ((List.sublist_cons_self call after).append_left before).subset hother
  exact {
    length := hlength.trans hk.length
    handle := hk.handle
    called := fun other hother =>
      hk.called other ((called_perm hcalls).mem_iff.mpr (List.mem_cons_of_mem _ hother))
    sending := fun other d k hother => hk.sending other d k (hrest _ hother)
    accounted := haccounted
    tracks := fun hr => (hrunning (hsame ▸ hr)).1
    nodup := fun hr => (hrunning (hsame ▸ hr)).2
    punctual := fun now hp => hk.punctual now (hphase ▸ hp)
    emptied := fun hp => hemptied (hphase ▸ hp) }

/-- The call tells the task of its timer. -/
theorem Kept.send (hk : h.Kept) (hcalls : h.calls = before ++ .sending id deadline task :: after)
    (hr : h.timers.isRunning = true) : Kept { h with
      timers := { h.timers with inbox := h.timers.inbox ++ [.schedule id deadline (id, task)] }
      calls := before ++ after } := by
  have hkept : Timers.kept { h.timers with
      inbox := h.timers.inbox ++ [.schedule id deadline (id, task)] } = h.timers.kept ++ [id] :=
    Timers.kept_schedule rfl rfl
  have hcalled := called_perm hcalls
  have hnodup : (h.timers.kept ++ ([id] ++ (before ++ after).map TimerCall.id)).Nodup :=
    (hcalled.append_left _).nodup_iff.mp (hk.nodup hr)
  refine hk.returns hcalls rfl rfl (fun other hother => ?_) (fun _ => ⟨?_, ?_⟩) (fun hp => ?_)
  · rw [hkept, List.mem_append, or_assoc, ← List.mem_append]
    have hmem := hk.accounted other hother
    rwa [hcalled.mem_iff] at hmem
  · refine (hk.tracks hr).schedule rfl rfl (hk.sending id deadline task (by simp [hcalls])) ?_
    exact fun hmem => (List.nodup_append.mp hnodup).2.2 id hmem id List.mem_cons_self rfl
  · rw [hkept, List.append_assoc]
    exact hnodup
  · rw [Timers.isRunning, hp] at hr
    cases hr

theorem Kept.refuse (hk : h.Kept)
    (hcalls : h.calls = before ++ .sending id deadline task :: after) :
    Kept { h with calls := before ++ .refused id :: after } := by
  have hcalled : TimerHistory.called { h with calls := before ++ .refused id :: after } =
      h.called := by
    rw [TimerHistory.called, TimerHistory.called, hcalls, List.map_append, List.map_append]
    rfl
  refine {
    length := hk.length
    handle := hk.handle
    called := hcalled ▸ hk.called
    sending := fun other d k hother => hk.sending other d k ?_
    accounted := hcalled ▸ hk.accounted
    tracks := hk.tracks
    nodup := hcalled ▸ hk.nodup
    punctual := hk.punctual
    emptied := hk.emptied }
  rw [hcalls]
  simp only [List.mem_append, List.mem_cons, reduceCtorEq, false_or] at hother ⊢
  exact hother.imp_right Or.inr

theorem Kept.giveUp (hk : h.Kept) (hcalls : h.calls = before ++ .refused id :: after) :
    Kept { h with timers := (h.timers.cancel id).2, calls := before ++ after } := by
  have hcalled := called_perm hcalls
  have hkept := Timers.kept_turn h.timers id .cancelled
  obtain ⟨-, -, hphase⟩ := Timers.turn_eq h.timers id .cancelled
  refine hk.returns hcalls (Timers.length_turn _ _ _) hphase (fun other hother => ?_)
    (fun hr => ⟨(hk.tracks hr).turn id .cancelled, ?_⟩) (fun hp => hkept.trans (hk.emptied hp))
  · obtain ⟨hne, hpending⟩ := (Timers.isPending_turn (by decide)).mp hother
    have hmem := hk.accounted other hpending
    rw [hcalled.mem_iff, List.mem_cons] at hmem
    rw [Timers.cancel, hkept]
    exact hmem.imp_right fun hmem => hmem.resolve_left hne
  · have hnodup := (hcalled.append_left _).nodup_iff.mp (hk.nodup hr)
    rw [Timers.cancel, hkept]
    exact hnodup.sublist ((List.sublist_cons_self _ _).append_left _)

theorem Kept.cancel (hk : h.Kept) (id : Nat) (answers : List (Nat × Bool)) :
    Kept { h with timers := (h.timers.cancel id).2, answers := answers } := by
  obtain ⟨-, -, hphase⟩ := Timers.turn_eq h.timers id .cancelled
  have hkept := Timers.kept_turn h.timers id .cancelled
  refine hk.moves rfl rfl rfl (Timers.length_turn _ _ _) (hk.accounted.turn id) (fun hr => ?_)
    (fun now hp => hk.punctual now (hphase ▸ hp)) (fun hp => ?_)
  · have hr : h.timers.isRunning = true := Timers.isRunning_congr hphase ▸ hr
    exact ⟨hr, (hk.tracks hr).turn id .cancelled, hkept ▸ .refl _⟩
  · exact hkept.trans (hk.emptied (hphase ▸ hp))

theorem Kept.shutdown (hk : h.Kept) : Kept { h with timers := h.timers.shutdown } := by
  obtain ⟨harms, hphase, -⟩ := h.timers.shutdown_eq
  have hkept := h.timers.kept_shutdown
  refine hk.moves rfl rfl rfl (congrArg List.length harms) (hk.accounted.congr harms hkept)
    (fun hr => ?_) (fun now hp => hk.punctual now (hphase ▸ hp)) (fun hp => ?_)
  · have hr : h.timers.isRunning = true := Timers.isRunning_congr hphase ▸ hr
    exact ⟨hr, (hk.tracks hr).shutdown, hkept ▸ .refl _⟩
  · exact hkept.trans (hk.emptied (hphase ▸ hp))

theorem isRunning_of_waiting {t : Timers (Nat × K)} (hp : t.phase = .waiting) :
    t.isRunning = true := by
  rw [Timers.isRunning, hp]

theorem Kept.receive (hk : h.Kept) {t : Timers (Nat × K)} (hp : h.timers.phase = .waiting)
    (hs : h.timers.receive? = some t) : Kept { h with timers := t } := by
  have hr := isRunning_of_waiting hp
  obtain ⟨htracks, hkept, harms, -⟩ := (hk.tracks hr).receive? hs
  have hphase : t.phase = .waiting ∨ t.phase = .stopping := by
    obtain ⟨_, _, _, -, heq⟩ | ⟨-, heq⟩ := Timers.receive?_cases hs
    · exact Or.inl (heq ▸ hp)
    · exact Or.inr (heq ▸ rfl)
  refine hk.moves rfl rfl rfl (congrArg List.length harms) (hk.accounted.congr harms hkept)
    (fun _ => ⟨hr, htracks, hkept ▸ .refl _⟩) (fun now hfiring => ?_) (fun hfinished => ?_)
  · have hfiring : t.phase = .firing now := hfiring
    rw [hfiring] at hphase
    simp at hphase
  · have hfinished : t.phase = .finished := hfinished
    rw [hfinished] at hphase
    simp at hphase

theorem Kept.fire (hk : h.Kept) {t : Timers (Nat × K)} {now : Nat} (hnow : now ≤ h.clock)
    (hr : h.timers.isRunning = true) (hs : h.timers.fire? now = some t) : (h.fire t).Kept := by
  have hlists := (hk.tracks hr).lists
  obtain ⟨_, id, job, -, -, -, -, -, -, hphase, harms⟩ := Timers.fire?_cases hlists hs
  obtain ⟨htracks, hkept⟩ := (hk.tracks hr).fire? hs
  refine hk.moves rfl rfl rfl ?_ (hk.accounted.fire? hlists hs) (fun _ => ⟨hr, htracks, hkept⟩)
    (fun moment hp => ?_) (fun hp => ?_)
  · obtain ⟨-, harms, -⟩ | ⟨-, harms, -⟩ := harms
    · exact (congrArg List.length harms).trans List.length_set
    · exact congrArg List.length harms
  · cases hphase.symm.trans hp
    exact hnow
  · cases hphase.symm.trans hp

theorem Kept.rest (hk : h.Kept) (hr : h.timers.isRunning = true) {keep : Nat → Bool}
    (hkeep : ∀ id, h.timers.isPending id = true → keep id = true) : Kept { h with
      timers := { h.timers with table := h.timers.table.prune keep, phase := .waiting } } := by
  obtain ⟨htracks, hkept⟩ := (hk.tracks hr).prune keep
  exact hk.moves rfl rfl rfl rfl (hk.accounted.prune hkeep) (fun _ => ⟨hr, htracks, hkept⟩)
    (fun _ hp => by cases hp) (fun hp => by cases hp)

theorem Kept.drain (hk : h.Kept) {jobs : List (Nat × Nat × K)} (hp : h.timers.phase = .draining)
    (hjobs : jobs ~ h.timers.table.jobs) : Kept { h with
      timers := Timers.drain { h.timers with table := { h.timers.table with jobs := jobs } } } := by
  generalize ht : { h.timers with table := { h.timers.table with jobs := jobs } } = t
  have hkept : t.kept ~ h.timers.kept := ht ▸ (hjobs.map Prod.fst).append_right _
  have harms : t.arms = h.timers.arms := ht ▸ rfl
  have hphase : t.phase = .draining := ht ▸ hp
  have haccounted : t.Accounted h.called := fun id hid =>
    (hk.accounted id (Timers.isPending_congr harms id ▸ hid)).imp_left hkept.mem_iff.mpr
  have hdrained : t.drain.phase = .draining ∨ t.drain.phase = .finished ∧ t.drain.kept = [] := by
    obtain ⟨_, -, -, -, hsame⟩ | ⟨hkept, -, -, hsame | ⟨hnil, hfinished⟩⟩ := t.drain_cases
    · exact Or.inl (hsame.trans hphase)
    · exact Or.inl (hsame.trans hphase)
    · exact Or.inr ⟨hfinished, hkept.trans hnil⟩
  have hlength : t.drain.arms.length = t.arms.length := by
    obtain ⟨_, -, hturned, -⟩ | ⟨-, hsame, -⟩ := t.drain_cases
    · rw [hturned, Timers.length_turn]
    · rw [hsame]
  refine hk.moves rfl rfl rfl (hlength.trans (harms ▸ rfl)) haccounted.drain (fun hr => ?_)
    (fun now hfiring => ?_) (fun hfinished => ?_)
  · rcases hdrained with hdrained | ⟨hdrained, -⟩ <;> simp [Timers.isRunning, hdrained] at hr
  · have hfiring : t.drain.phase = .firing now := hfiring
    rcases hdrained with hdrained | ⟨hdrained, -⟩ <;> simp [hfiring] at hdrained
  · have hfinished : t.drain.phase = .finished := hfinished
    rcases hdrained with hdrained | ⟨-, hnil⟩
    · simp [hfinished] at hdrained
    · exact hnil

/-- The timers that the task keeps stay as they are. -/
theorem Kept.stay (hk : h.Kept) {t : Timers (Nat × K)} (ran : List (Nat × K))
    (harms : t.arms = h.timers.arms) (htable : t.table = h.timers.table)
    (hinbox : t.inbox = h.timers.inbox)
    (hphase : t.phase = h.timers.phase ∨ t.phase = .stopping ∧ h.timers.phase = .waiting ∨
      t.phase = .draining) : Kept { h with timers := t, ran := ran } := by
  have hkept := Timers.kept_congr htable hinbox
  refine hk.moves rfl rfl rfl (congrArg List.length harms) (hk.accounted.congr harms hkept)
    (fun hr => ?_) (fun now hfiring => ?_) (fun hfinished => ?_)
  · have hr : t.isRunning = true := hr
    have hrunning : h.timers.isRunning = true := by
      rcases hphase with hsame | ⟨-, hwaiting⟩ | hdraining
      · exact Timers.isRunning_congr hsame ▸ hr
      · exact isRunning_of_waiting hwaiting
      · simp [Timers.isRunning, hdraining] at hr
    exact ⟨hrunning, (hk.tracks hrunning).congr htable hinbox, hkept ▸ .refl _⟩
  · have hfiring : t.phase = .firing now := hfiring
    rw [hfiring] at hphase
    have hsame : .firing now = h.timers.phase := by simpa using hphase
    exact hk.punctual now hsame.symm
  · have hfinished : t.phase = .finished := hfinished
    rw [hfinished] at hphase
    have hsame : .finished = h.timers.phase := by simpa using hphase
    exact hkept.trans (hk.emptied hsame.symm)

theorem Kept.step (hk : h.Kept) (hs : h.Step h') : h'.Kept := by
  cases hs with
  | tick nanos =>
    exact { hk with punctual := fun now hp => Nat.le_add_right_of_le (hk.punctual now hp) }
  | make delay task _ => exact hk.make delay task
  | send _ _ hcalls hr => exact hk.send hcalls hr
  | refuse _ _ hcalls _ => exact hk.refuse hcalls
  | giveUp _ _ hcalls => exact hk.giveUp hcalls
  | cancel id => exact hk.cancel id _
  | shutdown => exact hk.shutdown
  | receive hp hs => exact hk.receive hp hs
  | abandon hp _ _ => exact hk.stay _ rfl rfl rfl (Or.inr (Or.inl ⟨rfl, hp⟩))
  | wake hp hs => exact hk.fire (Nat.le_refl _) (isRunning_of_waiting hp) hs
  | fire hp hs => exact hk.fire (hk.punctual _ hp) (by rw [Timers.isRunning, hp]) hs
  | rest _ hp _ hkeep => exact hk.rest (by rw [Timers.isRunning, hp]) hkeep
  | close _ => exact hk.stay _ rfl rfl rfl (Or.inr (Or.inr rfl))
  | drain hp hjobs => exact hk.drain hp hjobs
  | run _ htake =>
    obtain ⟨_, -, heq⟩ := Option.map_eq_some_iff.mp htake
    cases heq
    exact hk.stay _ rfl rfl rfl (Or.inl rfl)

theorem Reachable.kept (hr : h.Reachable) : h.Kept := by
  induction hr with
  | refl => exact kept_start
  | tail _ hs ih => exact ih.step hs

end TimerHistory

end ChatCommands
