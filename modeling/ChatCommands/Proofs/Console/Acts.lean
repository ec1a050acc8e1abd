import ChatCommands.Proofs.Console.Order

/-! # What goes on at a console

Lines are typed and time passes, and after each of these everything that needs no time is done. Who
is waited for then changes by an answer, by a timer, or by a message of somebody new.
-/

namespace ChatCommands.Console

open TimerAct TimedTimers Text

/-- What happens to a session. -/
inductive SessionAct
  | line (text : String)
  | advance (nanos : Nat)

namespace SessionAct

def nanos : SessionAct → Nat
  | line _ => 0
  | advance nanos => nanos

/-- The time that passes. -/
def elapsed : List SessionAct → Nat
  | [] => 0
  | act :: acts => act.nanos + elapsed acts

/-- The message that a line is, if it is one. -/
def message? : SessionAct → Option Message
  | line text => if isBlank text.toList then none else (parseLine text).toOption
  | advance _ => none

/-- Who sent a message. -/
def sender? (act : SessionAct) : Option UInt64 :=
  act.message?.map (·.context.author.id)

end SessionAct

namespace Session

/-- What is printed because of an act, what is wrong about its line, and what comes of it. -/
def take (s : Session) : SessionAct → (List String × Option LineError) × Session
  | .line text =>
    let (printed, error?, s) := s.feed s.timers.clock text
    let (more, s) := s.advance s.timers.clock
    ((printed ++ more, error?), s)
  | .advance nanos =>
    let (printed, s) := s.advance (s.timers.clock + nanos)
    ((printed, none), s)

def run (s : Session) : List SessionAct → List (List String × Option LineError) × Session
  | [] => ([], s)
  | act :: acts =>
    let (out, s) := s.take act
    let (outs, s) := s.run acts
    (out :: outs, s)

variable {s : Session} {text : String}

theorem advance_clock (h : s.timers.Settled) : s.advance s.timers.clock = ([], s) := by
  unfold advance
  rw [h.advance_clock]
  rfl

/-- What is wrong about a line that is no message. Nothing is wrong about a blank one. -/
def error? (text : String) : Option LineError :=
  if isBlank text.toList then none
  else
    match parseLine text with
    | .ok _ => none
    | .error e => some e

theorem take_of_no_message (h : s.timers.Settled) (hm : (SessionAct.line text).message? = none) :
    s.take (.line text) = (([], error? text), s) := by
  unfold take feed error?
  rw [advance_clock h]
  dsimp only
  rw [SessionAct.message?] at hm
  split
  · dsimp only
    rw [advance_clock h]
    rfl
  · rename_i hblank
    rw [if_neg hblank] at hm
    cases hparse : parseLine text with
    | error e =>
      dsimp only
      rw [advance_clock h]
      rfl
    | ok m =>
      rw [hparse] at hm
      cases hm

theorem take_of_message {m : Message} (h : s.timers.Settled)
    (hm : (SessionAct.line text).message? = some m) : s.take (.line text) =
      (((s.receive m).1 ++ ((s.receive m).2.advance (s.receive m).2.timers.clock).1, none),
        ((s.receive m).2.advance (s.receive m).2.timers.clock).2) := by
  unfold take feed
  rw [advance_clock h]
  dsimp only
  rw [SessionAct.message?] at hm
  split at hm
  · cases hm
  · rename_i hblank
    rw [if_neg hblank]
    cases hparse : parseLine text with
    | error e =>
      rw [hparse] at hm
      cases hm
    | ok other =>
      rw [hparse] at hm
      cases hm
      rfl

end Session

variable {acts acts' : List (TimerAct Alarm)} {waits waits' : List Wait} {s : Session} {w : Wait}
  {limit : Duration} {q : Question} {timer deadline : Nat}

/-! ## Who is waited for -/

/-- All is in order, and nothing is left to do before time passes. -/
structure AtRest (acts : List (TimerAct Alarm)) (waits : List Wait) (limit : Duration)
    (s : Session) : Prop extends Orderly acts waits limit s where
  settled : s.timers.Settled

/-- How those that wait change up to a moment, by a message or by time. Those that are not answered
stay until their timers are due, and whoever sent the message may be waited for anew. -/
structure Passes (acts : List (TimerAct Alarm)) (waits : List Wait) (sender? : Option UInt64)
    (due now : Nat) (acts' : List (TimerAct Alarm)) (waits' : List Wait) : Prop where
  past : acts <+: acts'
  stays : ∀ w ∈ waits, sender? ≠ some w.user → ∀ timer deadline q, w.asked? = some (timer, q) →
    Due acts timer deadline (.listener w.listener) → now < deadline → w ∈ waits'
  joins : ∀ w ∈ waits', w ∈ waits ∨ sender? = some w.user ∧ ∀ timer q,
    w.asked? = some (timer, q) → Due acts' timer due (.listener w.listener)

/-- A timer keeps its deadline. -/
theorem Minds.due_of_past {t : TimedTimers Alarm} (h : Minds acts' waits' t) (hpast : acts <+: acts')
    (hw : w ∈ waits') (hasked : w.asked? = some (timer, q))
    (hdue : Due acts timer deadline (.listener w.listener)) :
    Due acts' timer deadline (.listener w.listener) := by
  obtain ⟨more, rfl⟩ := hpast
  obtain ⟨deadline', hdue'⟩ := h.exists_due hw hasked
  cases hdue'.2.symm.trans (getElem?_scheduled_append hdue.2 more)
  exact hdue'

/-- The listener of a question is not among the alarms before its timer is due. -/
theorem Orderly.listener_mem_alarms_iff (h : Orderly acts waits limit s) (hw : w ∈ waits)
    (hasked : w.asked? = some (timer, q)) (hdue : Due acts timer deadline (.listener w.listener))
    (nanos : Nat) :
    .listener w.listener ∈ (s.timers.advance (s.timers.clock + nanos)).1.map Prod.snd ↔
      deadline ≤ s.timers.clock + nanos := by
  rw [h.minds.mem_alarms]
  constructor
  · rintro ⟨other, deadline', hdue', hle⟩
    cases h.minds.timer_unique h.books.ids hw hasked hdue'
    cases hdue.unique hdue'
    exact hle
  · intro hle
    exact ⟨timer, deadline, hdue, hle⟩

theorem Orderly.timers_advance (h : Orderly acts waits limit s) (now : Nat) :
    (s.advance now).2.timers = (s.timers.advance now).2 := by
  have hbooks : Books waits { s with timers := (s.timers.advance now).2 } :=
    h.books.congr rfl rfl
  exact (hbooks.ringAll _).2.timers

theorem Orderly.atRest (h : Orderly acts waits limit s) (nanos : Nat) :
    AtRest (acts ++ [.advance nanos]) (waits.filter fun w =>
      .listener w.listener ∉ (s.timers.advance (s.timers.clock + nanos)).1.map Prod.snd) limit
      (s.advance (s.timers.clock + nanos)).2 := by
  refine ⟨h.advance nanos, ?_⟩
  rw [h.timers_advance]
  exact settled_advance (Nat.le_add_right _ _)

/-- Time alone ends the waits whose timers are due. -/
theorem Orderly.passes_time (h : Orderly acts waits limit s) (nanos due : Nat) :
    Passes acts waits none due (s.timers.clock + nanos) (acts ++ [.advance nanos])
      (waits.filter fun w =>
        .listener w.listener ∉ (s.timers.advance (s.timers.clock + nanos)).1.map Prod.snd) where
  past := List.prefix_append _ _
  stays := by
    intro w hw _ timer deadline q hasked hdue hahead
    refine List.mem_filter.mpr ⟨hw, decide_eq_true ?_⟩
    rw [h.listener_mem_alarms_iff hw hasked hdue]
    exact Nat.not_le.mpr hahead
  joins := fun w hw => Or.inl (List.mem_of_mem_filter hw)

/-- An answer ends the wait for it, and any other message may add a wait. -/
theorem Orderly.receive (h : Orderly acts waits limit s) (m : Message) : ∃ acts' waits',
    Extends acts acts' ∧ Orderly acts' waits' limit (s.receive m).2 ∧
      Passes acts waits (some m.context.author.id) (s.timers.clock + limit.nanos) s.timers.clock
        acts' waits' := by
  by_cases hwaited : ∃ w ∈ waits, w.user = m.context.author.id
  · obtain ⟨w, hw, huser⟩ := hwaited
    obtain ⟨acts', hmore, horder⟩ := h.answered hw
    rw [h.books.receive_of_mem hw huser.symm]
    refine ⟨acts', _, hmore, horder, hmore.past, ?_,
      fun v hv => Or.inl (List.mem_of_mem_filter hv)⟩
    intro v hv hother _ _ _ _ _ _
    refine List.mem_filter.mpr ⟨hv, bne_iff_ne.mpr fun heq => hother ?_⟩
    rw [(h.books.user_eq_iff hv hw).mpr heq, huser]
  · have hno : ∀ w ∈ waits, w.user ≠ m.context.author.id :=
      fun w hw huser => hwaited ⟨w, hw, huser⟩
    obtain ⟨acts', waits', hmore, horder, hjoins⟩ := h.handle hno
    rw [h.books.receive_of_forall hno]
    refine ⟨acts', waits', hmore, horder, hmore.past, ?_, ?_⟩
    · intro v hv _ _ _ _ _ _ _
      obtain rfl | ⟨w, rfl, -⟩ := hjoins
      · exact hv
      · exact List.mem_append_left _ hv
    · intro v hv
      obtain rfl | ⟨w, rfl, huser, hdue⟩ := hjoins
      · exact Or.inl hv
      · rcases List.mem_append.mp hv with hv | hv
        · exact Or.inl hv
        · cases List.mem_singleton.mp hv
          exact Or.inr ⟨congrArg some huser.symm, hdue⟩

theorem Orderly.clock_eq (h : Orderly acts waits limit s) {s' : Session}
    (h' : Orderly acts' waits' limit s') (hmore : Extends acts acts') :
    s'.timers.clock = s.timers.clock := by
  rw [h'.minds.reflects.clock, hmore.elapsed_eq, h.minds.reflects.clock]

theorem passes_refl (acts : List (TimerAct Alarm)) (waits : List Wait) (sender? : Option UInt64)
    (due now : Nat) : Passes acts waits sender? due now acts waits :=
  ⟨List.prefix_refl _, fun _ hw _ _ _ _ _ _ _ => hw, fun _ hw => Or.inl hw⟩

/-- One act leaves all in order and at rest. -/
theorem AtRest.take (h : AtRest acts waits limit s) (act : SessionAct) : ∃ acts' waits',
    AtRest acts' waits' limit (s.take act).2 ∧
      Passes acts waits act.sender? (s.timers.clock + limit.nanos) (s.timers.clock + act.nanos)
        acts' waits' ∧
      (s.take act).2.timers.clock = s.timers.clock + act.nanos := by
  cases act with
  | advance nanos =>
    refine ⟨_, _, h.atRest nanos, h.passes_time nanos _, ?_⟩
    exact (congrArg TimedTimers.clock (h.timers_advance _)).trans (clock_advance _ _)
  | line text =>
    cases hm : (SessionAct.line text).message? with
    | none =>
      rw [Session.take_of_no_message h.settled hm]
      exact ⟨acts, waits, h, passes_refl _ _ _ _ _, rfl⟩
    | some m =>
      -- First the message, then what needs no time: a timer that was set just now may be due.
      obtain ⟨acts', waits', hmore, horder, hpasses⟩ := h.receive m
      have hclock := h.clock_eq horder hmore
      have hrest := horder.atRest 0
      have htime := horder.passes_time 0 (s.timers.clock + limit.nanos)
      have hsender : (SessionAct.line text).sender? = some m.context.author.id := by
        rw [SessionAct.sender?, hm]
        rfl
      rw [Session.take_of_message h.settled hm, hsender]
      refine ⟨_, _, hrest, ⟨hpasses.past.trans htime.past, ?_, ?_⟩, ?_⟩
      · intro w hw hother timer deadline q hasked hdue hahead
        have hw' := hpasses.stays w hw hother timer deadline q hasked hdue hahead
        have hdue' := horder.minds.due_of_past hpasses.past hw' hasked hdue
        exact htime.stays w hw' nofun timer deadline q hasked hdue' (hclock ▸ hahead)
      · intro w hw
        have hw' := List.mem_of_mem_filter hw
        refine (hpasses.joins w hw').imp_right (And.imp_right fun hdue timer q hasked => ?_)
        exact hrest.minds.due_of_past htime.past hw hasked (hdue timer q hasked)
      · rw [horder.timers_advance, clock_advance, hclock]
        rfl

/-- A listener waits for its user alone. -/
theorem Books.rejects (h : Books waits s) (hw : w ∈ waits) {reply : Reply}
    (huser : reply.author ≠ w.user) :
    ∀ l, (w.listener, l) ∈ s.waiter.listeners → l.wants reply = false := by
  intro l hl
  obtain ⟨v, hv, heq⟩ := List.mem_map.mp (h.listeners ▸ hl)
  cases List.inj_on_of_nodup_map h.ids hv hw (congrArg Prod.fst heq)
  cases heq
  exact beq_eq_false_iff_ne.mpr huser

/-- An act of somebody else, before the timer is due, goes on as without the listener. -/
theorem AtRest.take_erase (h : AtRest acts waits limit s) (hw : w ∈ waits)
    (hasked : w.asked? = some (timer, q)) (hdue : Due acts timer deadline (.listener w.listener))
    {act : SessionAct} (hother : act.sender? ≠ some w.user)
    (hahead : s.timers.clock + act.nanos < deadline) :
    (s.erase w.listener).take act = Prod.map id (·.erase w.listener) (s.take act) := by
  cases act with
  | advance nanos =>
    have halarm := mt (h.listener_mem_alarms_iff hw hasked hdue nanos).mp (Nat.not_le.mpr hahead)
    have herase : (s.erase w.listener).advance ((s.erase w.listener).timers.clock + nanos) = _ :=
      Session.advance_erase halarm
    simp only [Session.take]
    rw [herase]
    rfl
  | line text =>
    have hsettled : (s.erase w.listener).timers.Settled := h.settled
    cases hm : (SessionAct.line text).message? with
    | none =>
      rw [Session.take_of_no_message h.settled hm, Session.take_of_no_message hsettled hm]
      rfl
    | some m =>
      obtain ⟨acts', waits', hmore, horder, hpasses⟩ := h.receive m
      have hsender : some m.context.author.id ≠ some w.user := by
        rw [SessionAct.sender?, hm] at hother
        exact hother
      have hw' := hpasses.stays w hw hsender timer deadline q hasked hdue hahead
      have hdue' := horder.minds.due_of_past hpasses.past hw' hasked hdue
      have halarm := mt (horder.listener_mem_alarms_iff hw' hasked hdue' 0).mp
        (Nat.not_le.mpr (h.clock_eq horder hmore ▸ hahead))
      have hreceive : (s.erase w.listener).receive m = _ :=
        Session.receive_erase (Ne.symm (Nat.ne_of_lt (h.books.fresh w hw)))
          (h.books.rejects hw fun huser => hsender (congrArg some huser))
      rw [Session.take_of_message h.settled hm, Session.take_of_message hsettled hm, hreceive]
      have hrest : ((s.receive m).2.erase w.listener).advance (s.receive m).2.timers.clock = _ :=
        Session.advance_erase halarm
      simp only [Prod.map, id, Session.erase_timers, hrest]

/-- So do the acts of others, one after the other. The wait stays as it is. -/
theorem AtRest.run_erase {s : Session} (h : AtRest acts waits limit s) (hw : w ∈ waits)
    (hasked : w.asked? = some (timer, q)) (hdue : Due acts timer deadline (.listener w.listener))
    {later : List SessionAct} (hothers : ∀ act ∈ later, act.sender? ≠ some w.user)
    (hahead : s.timers.clock + SessionAct.elapsed later < deadline) :
    (s.erase w.listener).run later = Prod.map id (·.erase w.listener) (s.run later) ∧
      ∃ acts' waits', AtRest acts' waits' limit (s.run later).2 ∧ w ∈ waits' ∧
        Due acts' timer deadline (.listener w.listener) := by
  induction later generalizing s acts waits with
  | nil => exact ⟨rfl, acts, waits, h, hw, hdue⟩
  | cons act later ih =>
    rw [SessionAct.elapsed] at hahead
    have hother := hothers act List.mem_cons_self
    have hnow : s.timers.clock + act.nanos < deadline := by omega
    -- The wait is still there after the act, with the same timer, so the rest goes on alike.
    obtain ⟨acts', waits', hrest, hpasses, hclock⟩ := h.take act
    have hw' := hpasses.stays w hw hother timer deadline q hasked hdue hnow
    have hdue' := hrest.minds.due_of_past hpasses.past hw' hasked hdue
    obtain ⟨herase, hstays⟩ := ih hrest hw' hdue'
      (fun act hact => hothers act (List.mem_cons_of_mem _ hact)) (by omega)
    refine ⟨?_, hstays⟩
    rw [Session.run, Session.run, h.take_erase hw hasked hdue hother hnow]
    simp only [Prod.map, id, herase]

/-! ## How questions end -/

/-- A message of the user is the answer, and that is all that comes of it. -/
theorem AtRest.take_answer (h : AtRest acts waits limit s) (hw : w ∈ waits)
    (hasked : w.asked? = some (timer, q)) {text : String} {m : Message}
    (hm : (SessionAct.line text).message? = some m) (huser : m.context.author.id = w.user) :
    s.take (.line text) = ((q.reply m.text, none),
      { s.erase w.listener with timers := (s.timers.cancel timer).2 }) := by
  have hstop : w.stop s.timers = (s.timers.cancel timer).2 := by
    rw [Wait.stop, hasked]
  rw [Session.take_of_message h.settled hm, h.books.receive_of_mem hw huser,
    Wait.question?_of_asked hasked, hstop]
  have hsettled : ({ s.erase w.listener with
      timers := (s.timers.cancel timer).2 } : Session).timers.Settled :=
    h.settled.cancel timer
  dsimp only
  rw [Session.advance_clock hsettled]
  simp

theorem Books.ring_lapse (h : Books waits s) (hw : w ∈ waits) (hquestion : w.question? = some q) :
    (s.ring (.listener w.listener)).1 = q.lapse := by
  have hwaiting : (s.waiter.expire w.listener).1 = true := by
    refine List.any_eq_true.mpr ⟨w.entry, ?_, beq_self_eq_true _⟩
    rw [h.listeners]
    exact List.mem_map_of_mem hw
  unfold Session.ring
  dsimp only
  rw [if_pos hwaiting]
  exact answer_lapse ((h.find?_question hw).trans hquestion)

/-- When the alarm of a listener is among others, its question lapses. -/
theorem Books.ringAll_lapse (h : Books waits s) (hw : w ∈ waits) (hquestion : w.question? = some q)
    {alarms : List Alarm} (halarm : .listener w.listener ∈ alarms) :
    q.lapse <:+: (s.ringAll alarms).1 := by
  induction alarms generalizing s waits with
  | nil => cases halarm
  | cons alarm rest ih =>
    rw [Session.ringAll]
    dsimp only
    by_cases heq : .listener w.listener = alarm
    · rw [← heq, h.ring_lapse hw hquestion]
      exact (List.prefix_append _ _).isInfix
    · have hrest := (List.mem_cons.mp halarm).resolve_left heq
      have hw' : w ∈ waits.filter fun w => .listener w.listener ≠ alarm :=
        List.mem_filter.mpr ⟨hw, decide_eq_true heq⟩
      exact (ih (h.ring alarm).1 hw' hrest).trans (List.suffix_append _ _).isInfix

/-- Once the timer of a question is due, the question lapses. -/
theorem Orderly.advance_lapse (h : Orderly acts waits limit s) (hw : w ∈ waits)
    (hasked : w.asked? = some (timer, q)) (hdue : Due acts timer deadline (.listener w.listener))
    {nanos : Nat} (hpast : deadline ≤ s.timers.clock + nanos) :
    q.lapse <:+: (s.advance (s.timers.clock + nanos)).1 ∧
      q ∉ (s.advance (s.timers.clock + nanos)).2.questions := by
  have halarm := (h.listener_mem_alarms_iff hw hasked hdue nanos).mpr hpast
  have hbooks : Books waits
      { s with timers := (s.timers.advance (s.timers.clock + nanos)).2 } :=
    h.books.congr rfl rfl
  refine ⟨hbooks.ringAll_lapse hw (Wait.question?_of_asked hasked) halarm, fun hq => ?_⟩
  obtain ⟨v, hv, timer', hasked'⟩ := (h.advance nanos).books.mem_questions.mp hq
  obtain ⟨hv, hnot⟩ := List.mem_filter.mp hv
  have hlistener : v.listener = w.listener :=
    (v.asked timer' q hasked').1.symm.trans (w.asked timer q hasked).1
  exact of_decide_eq_true hnot (hlistener ▸ halarm)

end ChatCommands.Console
