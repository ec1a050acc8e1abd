import ChatCommands.Proofs.Timer.Interleaving

/-! # Sends in two steps

A call that sets a timer sends a message in one step of a history. A channel takes two steps for
it: the call finds it open, and then the message goes in. As long as the channel is not closed
between the two, this makes no difference. If it could be, a message might go in when nobody looks
for it any more.
-/

namespace ChatCommands

open Relation

variable {K : Type}

namespace TimerHistory

/-- The call of a timer has sent its message and returned. -/
def sent (h : TimerHistory K) (id deadline : Nat) (task : K) (calls : List (TimerCall K)) :
    TimerHistory K :=
  { h with
    timers := { h.timers with inbox := h.timers.inbox ++ [.schedule id deadline (id, task)] }
    calls := calls }

variable {h h' : TimerHistory K}

theorem mem_called {id deadline : Nat} {task : K} (hcall : .sending id deadline task ∈ h.calls) :
    id ∈ h.called :=
  List.mem_map.mpr ⟨.sending id deadline task, hcall, rfl⟩

/-- Calls return by sending their messages, or after they were refused. -/
theorem Step.sends_or_keeps (hs : h.Step h') :
    (∃ before after id deadline task, h.calls = before ++ .sending id deadline task :: after ∧
      h.timers.isRunning = true ∧ h' = h.sent id deadline task (before ++ after)) ∨
    ∀ id deadline task, .sending id deadline task ∈ h.calls → id ∈ h'.called := by
  cases hs with
  | send before after hcalls hr => exact Or.inl ⟨before, after, _, _, _, hcalls, hr, rfl⟩
  | make delay task =>
    exact Or.inr fun id deadline other hcall => mem_called (List.mem_append_left _ hcall)
  | refuse before after hcalls =>
    refine Or.inr fun id deadline task hcall => ?_
    have hcalled := mem_called hcall
    rw [called, hcalls, List.map_append] at hcalled
    rw [called, List.map_append]
    exact hcalled
  | giveUp before after hcalls =>
    refine Or.inr fun id deadline task hcall => ?_
    have hstays : .sending id deadline task ∈ before ++ after := by simpa [hcalls] using hcall
    exact mem_called hstays
  | _ => exact Or.inr fun id deadline task hcall => mem_called hcall

end TimerHistory

/-- A history with the timers whose calls found the channel open, while the messages of these calls
have not gone in. -/
structure SplitHistory (K : Type) where
  whole : TimerHistory K := {}
  entering : List Nat := []

namespace SplitHistory

/-- One step, where `closes` tells when the channel may be closed in view of the messages that are
about to go in. -/
inductive Step (closes : List Nat → Prop) : SplitHistory K → SplitHistory K → Prop
  /-- A call finds the channel open. -/
  | enter {s : SplitHistory K} {id deadline : Nat} {task : K} :
      .sending id deadline task ∈ s.whole.calls → s.whole.timers.isRunning = true →
      Step closes s { s with entering := id :: s.entering }
  /-- Its message goes in, whatever has become of the channel. -/
  | push {s : SplitHistory K} (before after : List (TimerCall K)) {id deadline : Nat} {task : K} :
      s.whole.calls = before ++ .sending id deadline task :: after → id ∈ s.entering →
      Step closes s
        ⟨s.whole.sent id deadline task (before ++ after), s.entering.filter (· != id)⟩
  /-- Any step but a send. A call whose message is about to go in is not refused any more. -/
  | other {s : SplitHistory K} {h : TimerHistory K} : s.whole.Step h →
      (∀ id deadline task, .sending id deadline task ∈ s.whole.calls → id ∈ h.called) →
      (∀ id ∈ s.entering, ∃ deadline task, .sending id deadline task ∈ h.calls) →
      (s.whole.timers.isRunning = true → h.timers.isRunning = false → closes s.entering) →
      Step closes s { s with whole := h }

/-- The channel is never closed between the two steps of a send. -/
def Unbroken (closes : List Nat → Prop) : Prop :=
  ∀ entering, closes entering → entering = []

def Reachable (closes : List Nat → Prop) (s : SplitHistory K) : Prop :=
  ReflTransGen (Step closes) {} s

variable {closes : List Nat → Prop} {s : SplitHistory K} {h : TimerHistory K}

/-- What is done by sends in two steps could be done by sends in one, and the channel stays open
for the messages that are about to go in. -/
theorem Reachable.whole (hclosed : Unbroken closes) (hs : s.Reachable closes) :
    s.whole.Reachable ∧ (s.entering ≠ [] → s.whole.timers.isRunning = true) := by
  induction hs with
  | refl => exact ⟨.refl, fun hne => absurd rfl hne⟩
  | tail _ hstep ih =>
    obtain ⟨hreachable, hopen⟩ := ih
    cases hstep with
    | enter _ hr => exact ⟨hreachable, fun _ => hr⟩
    | push before after hcalls hid =>
      have hr := hopen (List.ne_nil_of_mem hid)
      exact ⟨hreachable.tail (.send before after hcalls hr), fun _ => hr⟩
    | other hstep _ _ hcloses =>
      refine ⟨hreachable.tail hstep, fun hne => ?_⟩
      by_contra hstopped
      exact hne (hclosed _ (hcloses (hopen hne) (Bool.eq_false_iff.mpr hstopped)))

theorem reachable_of_whole (hempty : closes []) (hh : h.Reachable) :
    Reachable closes ⟨h, []⟩ := by
  induction hh with
  | refl => exact .refl
  | @tail h _ _ hstep ih =>
    rcases hstep.sends_or_keeps with ⟨before, after, id, deadline, task, hcalls, hr, rfl⟩ | hkeeps
    · have hcall : .sending id deadline task ∈ h.calls := by simp [hcalls]
      have hpush := (ih.tail (.enter hcall hr)).tail (.push before after hcalls List.mem_cons_self)
      rwa [List.filter_cons_of_neg (by simp)] at hpush
    · exact ih.tail (.other hstep hkeeps (by simp) fun _ _ => hempty)

/-- If a channel is not closed in the middle of a send, histories come about in the same ways
whether a send is one step or two. -/
theorem whole_reachable_iff (hclosed : ∀ entering, closes entering ↔ entering = []) :
    h.Reachable ↔ ∃ entering, Reachable closes ⟨h, entering⟩ := by
  constructor
  · intro hh
    exact ⟨[], reachable_of_whole ((hclosed []).mpr rfl) hh⟩
  · rintro ⟨entering, hs⟩
    exact (hs.whole fun entering => (hclosed entering).mp).1

/-- The task and the holders of timers go on while a message is about to go in. -/
theorem Step.of_calls (hstep : s.whole.Step h) (hcalls : h.calls = s.whole.calls)
    (hentering : ∀ id ∈ s.entering, ∃ deadline task,
      .sending id deadline task ∈ s.whole.calls) :
    Step (fun _ => True) s { s with whole := h } := by
  refine .other hstep (fun id deadline task hcall => ?_) (hcalls ▸ hentering) fun _ _ => trivial
  exact TimerHistory.mem_called (hcalls ▸ hcall)

/-- If it can be closed then, a message may go in too late, and its timer stays armed for good. -/
theorem late_message_is_lost : ∃ s : SplitHistory Unit, s.Reachable (fun _ => True) ∧
    s.whole.timers.phase = .finished ∧ s.whole.calls = [] ∧ s.whole.timers.isPending 0 = true := by
  have hcall : ∀ id ∈ [0], ∃ deadline task,
      TimerCall.sending id deadline task ∈ [TimerCall.sending 0 0 ()] := by simp
  have hmake : Step (fun _ => True) ({} : SplitHistory Unit)
      ⟨({} : TimerHistory Unit).make 0 (), []⟩ :=
    .other (.make 0 () (by decide)) (by simp) (by simp) fun _ _ => trivial
  have hentered := (ReflTransGen.single hmake).tail (@Step.enter _ _ _ 0 0 () List.mem_cons_self rfl)
  have htold := hentered.tail (.of_calls (.shutdown _) rfl hcall)
  have hstopping := htold.tail (.of_calls (.receive rfl rfl) rfl hcall)
  have hclosed := hstopping.tail (.of_calls (.close rfl) rfl hcall)
  have hfinished := hclosed.tail (.of_calls (.drain rfl (.refl _)) rfl hcall)
  exact ⟨_, hfinished.tail (.push [] [] rfl List.mem_cons_self), rfl, rfl, rfl⟩

end SplitHistory

end ChatCommands
