import ChatCommands.Proofs.Console.Erase
import ChatCommands.Proofs.Console.Waits

/-! # Listeners and questions at a console

Each user is waited for by one listener at most, and every question has a listener. So a line of the
user is an answer to that question alone, and its timer ends that question alone.
-/

namespace ChatCommands.Console

open TimerAct TimedTimers Text

variable {waits : List Wait} {s : Session} {w : Wait} {listener : Nat}

/-- Those that wait are known to the session, with a listener and perhaps a question each. -/
structure Books (waits : List Wait) (s : Session) : Prop where
  listeners : s.waiter.listeners = waits.map Wait.entry
  questions : s.questions = waits.filterMap Wait.question?
  users : (waits.map Wait.user).Nodup
  ids : (waits.map Wait.listener).Nodup
  fresh : ∀ w ∈ waits, w.listener < s.waiter.nextId

theorem Books.congr {s' : Session} (h : Books waits s) (hwaiter : s'.waiter = s.waiter)
    (hquestions : s'.questions = s.questions) : Books waits s' := by
  refine ⟨?_, ?_, h.users, h.ids, ?_⟩
  · rw [hwaiter, h.listeners]
  · rw [hquestions, h.questions]
  · rw [hwaiter]
    exact h.fresh

/-- In a list without repeated keys, the key of an element picks it out. -/
theorem filter_key_eq {α K : Type} [BEq K] [LawfulBEq K] {key : α → K} {as : List α} {a : α}
    (h : (as.map key).Nodup) (ha : a ∈ as) : as.filter (key · == key a) = [a] := by
  obtain ⟨before, after, rfl⟩ := List.append_of_mem ha
  rw [List.map_append, List.map_cons, List.nodup_append] at h
  obtain ⟨-, hafter, hbefore⟩ := h
  have hnone : before.filter (key · == key a) = [] := by
    refine List.filter_eq_nil_iff.mpr fun b hb heq => ?_
    exact hbefore (key b) (List.mem_map_of_mem hb) (key a) (by simp) (eq_of_beq heq)
  have hnone' : after.filter (key · == key a) = [] := by
    refine List.filter_eq_nil_iff.mpr fun b hb heq => ?_
    exact (List.nodup_cons.mp hafter).1 (eq_of_beq heq ▸ List.mem_map_of_mem hb)
  simp [hnone, hnone']

theorem Wait.question?_cases (w : Wait) : w.asked? = none ∧ w.question? = none ∨
    ∃ timer q, w.asked? = some (timer, q) ∧ w.question? = some q ∧ q.listener = w.listener ∧
      q.user = w.user := by
  unfold Wait.question?
  cases hasked : w.asked? with
  | none => exact Or.inl ⟨rfl, rfl⟩
  | some asked => exact Or.inr ⟨asked.1, asked.2, rfl, rfl, w.asked _ _ hasked⟩

theorem filter_questions (p : Nat → Bool) (waits : List Wait) :
    (waits.filterMap Wait.question?).filter (p ·.listener) =
      (waits.filter (p ·.listener)).filterMap Wait.question? := by
  induction waits with
  | nil => rfl
  | cons w rest ih =>
    obtain ⟨-, hq⟩ | ⟨timer, q, -, hq, hlistener, -⟩ := w.question?_cases
    · rw [List.filterMap_cons_none hq, ih, List.filter_cons]
      split
      · rw [List.filterMap_cons_none hq]
      · rfl
    · rw [List.filterMap_cons_some hq, List.filter_cons, List.filter_cons, ih, hlistener]
      split
      · rw [List.filterMap_cons_some hq]
      · rfl

theorem users_sublist (waits : List Wait) :
    ((waits.filterMap Wait.question?).map Question.user).Sublist (waits.map Wait.user) := by
  induction waits with
  | nil => exact .slnil
  | cons w rest ih =>
    obtain ⟨-, hq⟩ | ⟨timer, q, -, hq, -, huser⟩ := w.question?_cases
    · rw [List.filterMap_cons_none hq]
      exact ih.cons _
    · rw [List.filterMap_cons_some hq, List.map_cons, List.map_cons, huser]
      exact ih.cons_cons _

theorem Books.erase (h : Books waits s) (gone : Nat) :
    Books (waits.filter (·.listener != gone)) (s.erase gone) := by
  refine ⟨?_, ?_, ?_, ?_, fun w hw => h.fresh w (List.mem_of_mem_filter hw)⟩
  · simp only [Session.erase, EventWaiter.expire, h.listeners, List.filter_map]
    rfl
  · simp only [Session.erase, h.questions]
    exact filter_questions (· != gone) waits
  · exact h.users.sublist (List.filter_sublist.map _)
  · exact h.ids.sublist (List.filter_sublist.map _)

theorem Books.find?_question (h : Books waits s) (hw : w ∈ waits) :
    s.questions.find? (·.listener == w.listener) = w.question? := by
  rw [← List.head?_filter, h.questions, filter_questions (· == w.listener),
    filter_key_eq h.ids hw]
  cases hq : w.question? <;> simp [hq]

/-- Whoever is asked has no other question. -/
theorem Books.questions_users (h : Books waits s) : (s.questions.map Question.user).Nodup := by
  rw [h.questions]
  exact h.users.sublist (users_sublist waits)

theorem Books.mem_questions (h : Books waits s) {q : Question} :
    q ∈ s.questions ↔ ∃ w ∈ waits, ∃ timer, w.asked? = some (timer, q) := by
  rw [h.questions, List.mem_filterMap]
  simp [Wait.question?]

/-! ## Answers -/

/-- What is printed when a question is answered. -/
def Question.reply (q : Question) (text : String) : List String :=
  if asciiLowercase text.toList = "yes".toList then
    "confirmed" :: Session.describe (.success q.command)
  else Session.describe (.cancelled q.command)

/-- What is printed when nobody answers a question in time. -/
def Question.lapse (q : Question) : List String :=
  "timed out waiting for an answer" :: Session.describe (.cancelled q.command)

theorem answer_snd (s : Session) (listener : Nat) (reply? : Option String) :
    (s.answer listener reply?).2 =
      { s with questions := s.questions.filter (·.listener != listener) } := by
  unfold Session.answer
  split
  · rename_i hnone
    have hall : s.questions.filter (·.listener != listener) = s.questions := by
      refine List.filter_eq_self.mpr fun q hq => ?_
      simpa using List.find?_eq_none.mp hnone q hq
    rw [hall]
  · rfl

theorem answer_reply {q : Question} (hq : s.questions.find? (·.listener == listener) = some q)
    (text : String) : (s.answer listener (some text)).1 = q.reply text := by
  unfold Session.answer Question.reply
  rw [hq]
  dsimp only
  by_cases hyes : asciiLowercase text.toList = "yes".toList
  · rw [if_pos (beq_iff_eq.mpr hyes), if_pos hyes]
    rfl
  · rw [if_neg (mt beq_iff_eq.mp hyes), if_neg hyes]
    rfl

theorem answer_lapse {q : Question} (hq : s.questions.find? (·.listener == listener) = some q) :
    (s.answer listener none).1 = q.lapse := by
  unfold Session.answer
  rw [hq]
  rfl

theorem answer_none (hq : s.questions.find? (·.listener == listener) = none)
    (reply? : Option String) : (s.answer listener reply?).1 = [] := by
  unfold Session.answer
  rw [hq]

/-! ## Alarms -/

/-- The timeout of the listing, if one is open. -/
def Session.timeout? (s : Session) : Option (Timeout ExpiryAction) :=
  s.pages?.bind PageSession.timeout?

/-- What no alarm and no answer changes. -/
structure Keeps (s s' : Session) : Prop where
  timers : s'.timers = s.timers
  limit : s'.waiter.defaultTimeout = s.waiter.defaultTimeout
  timeout : s'.timeout? = s.timeout?

theorem Keeps.trans {s s' s'' : Session} (h : Keeps s s') (h' : Keeps s' s'') : Keeps s s'' :=
  ⟨h'.timers.trans h.timers, h'.limit.trans h.limit, h'.timeout.trans h.timeout⟩

theorem keeps_erase (s : Session) (gone : Nat) : Keeps s (s.erase gone) :=
  ⟨rfl, rfl, rfl⟩

theorem Books.ring_listener (h : Books waits s) (id : Nat) :
    (s.ring (.listener id)).2 = s.erase id := by
  unfold Session.ring
  dsimp only
  split
  · rw [answer_snd]
    rfl
  · rename_i hwaiting
    have hall : s.questions.filter (·.listener != id) = s.questions := by
      refine List.filter_eq_self.mpr fun q hq => ?_
      obtain ⟨w, hw, timer, hasked⟩ := h.mem_questions.mp hq
      have hentry : w.entry ∈ s.waiter.listeners := h.listeners ▸ List.mem_map_of_mem hw
      simp only [EventWaiter.expire, List.any_eq_true, not_exists, not_and] at hwaiting
      simpa [(w.asked timer q hasked).1, Wait.entry] using hwaiting _ hentry
    rw [Session.erase, hall]

/-- An alarm ends the wait of its listener at most. -/
theorem Books.ring (h : Books waits s) (alarm : Alarm) :
    Books (waits.filter fun w => .listener w.listener ≠ alarm) (s.ring alarm).2 ∧
      Keeps s (s.ring alarm).2 := by
  cases alarm with
  | listener id =>
    have hfilter : (waits.filter fun w => Alarm.listener w.listener ≠ .listener id) =
        waits.filter (·.listener != id) :=
      List.filter_congr fun w _ => by simp [bne, BEq.beq]
    rw [h.ring_listener, hfilter]
    exact ⟨h.erase id, keeps_erase s id⟩
  | reminder user text =>
    have hfilter :
        (waits.filter fun w => Alarm.listener w.listener ≠ .reminder user text) = waits :=
      List.filter_eq_self.mpr fun w _ => by simp
    rw [hfilter]
    exact ⟨h, rfl, rfl, rfl⟩
  | pages =>
    have hfilter : (waits.filter fun w => Alarm.listener w.listener ≠ .pages) = waits :=
      List.filter_eq_self.mpr fun w _ => by simp
    rw [hfilter]
    unfold Session.ring
    dsimp only
    split
    · exact ⟨h, rfl, rfl, rfl⟩
    · rename_i session hpages
      refine ⟨h.congr rfl rfl, rfl, rfl, ?_⟩
      rw [Session.timeout?, Session.timeout?, hpages]
      rfl

theorem Books.ringAll (h : Books waits s) (alarms : List Alarm) :
    Books (waits.filter fun w => .listener w.listener ∉ alarms) (s.ringAll alarms).2 ∧
      Keeps s (s.ringAll alarms).2 := by
  induction alarms generalizing waits s with
  | nil =>
    rw [List.filter_eq_self.mpr fun w _ => by simp]
    exact ⟨h, rfl, rfl, rfl⟩
  | cons alarm rest ih =>
    obtain ⟨hrung, hkeeps⟩ := h.ring alarm
    obtain ⟨hrest, hkeeps'⟩ := ih hrung
    refine ⟨?_, hkeeps.trans hkeeps'⟩
    rw [List.filter_filter] at hrest
    refine (List.filter_congr fun w _ => ?_) ▸ hrest
    simp [Bool.and_comm]

/-! ## Offers -/

/-- What an answer does to the timers. -/
def Wait.stop (w : Wait) (t : TimedTimers Alarm) : TimedTimers Alarm :=
  match w.asked? with
  | none => t
  | some (timer, _) => (t.cancel timer).2

theorem Books.user_eq_iff (h : Books waits s) {v : Wait} (hv : v ∈ waits) (hw : w ∈ waits) :
    v.user = w.user ↔ v.listener = w.listener := by
  constructor
  · intro heq
    rw [List.inj_on_of_nodup_map h.users hv hw heq]
  · intro heq
    rw [List.inj_on_of_nodup_map h.ids hv hw heq]

theorem Books.offer_of_mem (h : Books waits s) (hw : w ∈ waits) (text : String)
    (t : TimedTimers Alarm) : s.waiter.offer ⟨w.user, text⟩ t =
      ([w.listener], (s.waiter.expire w.listener).2, w.stop t) := by
  have hmatched : s.waiter.listeners.filter (·.2.wants ⟨w.user, text⟩) = [w.entry] := by
    rw [h.listeners, List.filter_map]
    have hfilter :
        waits.filter ((fun entry => entry.2.wants ⟨w.user, text⟩) ∘ Wait.entry) = [w] := by
      rw [← filter_key_eq h.users hw]
      exact List.filter_congr fun v _ => Bool.beq_comm
    rw [hfilter]
    rfl
  have hothers : s.waiter.listeners.filter (!·.2.wants ⟨w.user, text⟩) =
      s.waiter.listeners.filter (·.1 != w.listener) := by
    refine List.filter_congr fun entry hentry => ?_
    obtain ⟨v, hv, rfl⟩ := List.mem_map.mp (h.listeners ▸ hentry)
    have hiff := h.user_eq_iff hv hw
    by_cases heq : v.listener = w.listener
    · simp [Wait.entry, heq, hiff.mpr heq]
    · have hne : (w.user == v.user) = false := beq_eq_false_iff_ne.mpr (Ne.symm (mt hiff.mp heq))
      simp [Wait.entry, hne, heq]
  rw [EventWaiter.offer_eq, hmatched, hothers]
  unfold Wait.stop
  cases hasked : w.asked? <;> simp [Wait.entry, hasked, EventWaiter.expire]

theorem Books.offer_of_forall (h : Books waits s) {user : UInt64} (hno : ∀ w ∈ waits, w.user ≠ user)
    (text : String) (t : TimedTimers Alarm) :
    s.waiter.offer ⟨user, text⟩ t = ([], s.waiter, t) := by
  have hreject : ∀ entry ∈ s.waiter.listeners, entry.2.wants ⟨user, text⟩ = false := by
    intro entry hentry
    obtain ⟨w, hw, rfl⟩ := List.mem_map.mp (h.listeners ▸ hentry)
    exact beq_eq_false_iff_ne.mpr (hno w hw).symm
  have hmatched : s.waiter.listeners.filter (·.2.wants ⟨user, text⟩) = [] :=
    List.filter_eq_nil_iff.mpr fun entry hentry => by simp [hreject entry hentry]
  have hothers : s.waiter.listeners.filter (!·.2.wants ⟨user, text⟩) = s.waiter.listeners :=
    List.filter_eq_self.mpr fun entry hentry => by simp [hreject entry hentry]
  rw [EventWaiter.offer_eq, hmatched, hothers]
  rfl

/-- A message of a user who is waited for is an answer and nothing else. -/
theorem Books.receive_of_mem (h : Books waits s) (hw : w ∈ waits) {m : Message}
    (huser : m.context.author.id = w.user) : s.receive m =
      ((w.question?.map (·.reply m.text)).getD [],
        { s.erase w.listener with timers := w.stop s.timers }) := by
  rw [Session.receive_eq, huser, h.offer_of_mem hw]
  have hfind := h.find?_question hw
  generalize hs : ({ s with
    waiter := (s.waiter.expire w.listener).2
    timers := w.stop s.timers } : Session) = s'
  have hquestions : s'.questions = s.questions := by rw [← hs]
  rw [← hquestions] at hfind
  have hprinted : (s'.answer w.listener (some m.text)).1 =
      (w.question?.map (·.reply m.text)).getD [] := by
    cases hq : w.question? with
    | none => exact answer_none (hfind.trans hq) _
    | some q => exact answer_reply (hfind.trans hq) _
  have hdeliver : s'.deliver [w.listener] m = s'.answer w.listener (some m.text) := by
    rw [Session.deliver, if_pos (by rfl), Session.answerAll]
    simp [Session.answerAll]
  rw [hdeliver]
  refine Prod.ext hprinted ?_
  rw [answer_snd, ← hs]
  rfl

theorem Books.receive_of_forall (h : Books waits s) {m : Message}
    (hno : ∀ w ∈ waits, w.user ≠ m.context.author.id) : s.receive m = s.handle m := by
  rw [Session.receive_eq, h.offer_of_forall hno]
  rfl

end ChatCommands.Console
