import ChatCommands.Console.Session
import ChatCommands.Proofs.Waiter.Interleaving

/-! # Sessions without one of their listeners

What goes on without the listener goes on in the same way without the rest that is about it.
-/

namespace ChatCommands.Console.Session

open Text

variable {s : Session} {gone listener : Nat}

/-- A session without a listener and its question. The timer of the listener stays, but nobody is
there when it rings. -/
def erase (s : Session) (gone : Nat) : Session :=
  { s with
    waiter := (s.waiter.expire gone).2
    questions := s.questions.filter (·.listener != gone) }

@[simp] theorem erase_settings (s : Session) (gone : Nat) :
    (s.erase gone).settings = s.settings :=
  rfl

@[simp] theorem erase_timers (s : Session) (gone : Nat) : (s.erase gone).timers = s.timers :=
  rfl

@[simp] theorem erase_waiter (s : Session) (gone : Nat) :
    (s.erase gone).waiter = (s.waiter.expire gone).2 :=
  rfl

@[simp] theorem erase_pages? (s : Session) (gone : Nat) : (s.erase gone).pages? = s.pages? :=
  rfl

@[simp] theorem erase_pagesPoisoned (s : Session) (gone : Nat) :
    (s.erase gone).pagesPoisoned = s.pagesPoisoned :=
  rfl

theorem answer_erase (h : listener ≠ gone) (reply? : Option String) :
    (s.erase gone).answer listener reply? =
      Prod.map id (·.erase gone) (s.answer listener reply?) := by
  have hfind : (s.questions.filter (·.listener != gone)).find? (·.listener == listener) =
      s.questions.find? (·.listener == listener) := by
    rw [List.find?_filter]
    congr 1
    funext q
    by_cases hq : q.listener = listener
    · simp [hq, h]
    · simp [hq]
  unfold answer
  rw [erase, hfind]
  split
  · rfl
  · simp only [Prod.map, id, Prod.mk.injEq, true_and]
    simp only [erase, List.filter_filter, Bool.and_comm]

theorem answerAll_erase {listeners : List Nat} (h : gone ∉ listeners) (reply : String) :
    (s.erase gone).answerAll listeners reply =
      Prod.map id (·.erase gone) (s.answerAll listeners reply) := by
  induction listeners generalizing s with
  | nil => rfl
  | cons listener rest ih =>
    obtain ⟨hne, hrest⟩ := List.ne_and_not_mem_of_not_mem_cons h
    rw [answerAll, answerAll, answer_erase (Ne.symm hne)]
    simp only [Prod.map, id, ih hrest]

theorem ring_erase {alarm : Alarm} (h : alarm ≠ .listener gone) :
    (s.erase gone).ring alarm = Prod.map id (·.erase gone) (s.ring alarm) := by
  cases alarm with
  | reminder user text => rfl
  | pages =>
    unfold ring
    simp only [erase]
    split <;> rfl
  | listener other =>
    have hne : other ≠ gone := fun heq => h (congrArg _ heq)
    have hany : (s.waiter.listeners.filter (·.1 != gone)).any (·.1 == other) =
        s.waiter.listeners.any (·.1 == other) := by
      rw [List.any_filter]
      congr 1
      funext entry
      by_cases hentry : entry.1 = other
      · simp [hentry, hne]
      · simp [hentry]
    have hexpire : { s.erase gone with waiter := ((s.erase gone).waiter.expire other).2 } =
        { s with waiter := (s.waiter.expire other).2 }.erase gone := by
      simp only [erase, EventWaiter.expire, List.filter_filter, Bool.and_comm]
    have hwaiting : ((s.erase gone).waiter.expire other).1 = (s.waiter.expire other).1 := hany
    unfold ring
    simp only [hexpire, hwaiting, answer_erase hne]
    split <;> rfl

theorem ringAll_erase {alarms : List Alarm} (h : .listener gone ∉ alarms) :
    (s.erase gone).ringAll alarms = Prod.map id (·.erase gone) (s.ringAll alarms) := by
  induction alarms generalizing s with
  | nil => rfl
  | cons alarm rest ih =>
    obtain ⟨hne, hrest⟩ := List.ne_and_not_mem_of_not_mem_cons h
    rw [ringAll, ringAll, ring_erase (Ne.symm hne)]
    simp only [Prod.map, id, ih hrest]

/-- Time passes as without the listener, as long as its timer does not ring. -/
theorem advance_erase {now : Nat}
    (h : .listener gone ∉ ((s.timers.advance now).1.map Prod.snd)) :
    (s.erase gone).advance now = Prod.map id (·.erase gone) (s.advance now) := by
  exact ringAll_erase (s := { s with timers := (s.timers.advance now).2 }) h

/-! ## Messages -/

theorem turnPages_erase (direction : String) : (s.erase gone).turnPages direction =
    Prod.map id (·.erase gone) (s.turnPages direction) := by
  unfold turnPages
  rw [erase_pagesPoisoned]
  split
  · rfl
  · split
    · have hopen : (s.erase gone).openPages = Prod.map id (·.erase gone) s.openPages := by
        unfold openPages
        simp only [erase]
        split <;> rfl
      simp only [hopen, Prod.map, id]
      cases s.openPages.1 <;> rfl
    · simp only [erase_pages?]
      split
      · rfl
      · rfl
      · rename_i session turn _ _
        simp only [erase_timers]
        cases (session.turn turn s.timers Alarm.pages).1 <;> rfl

theorem enter_expire {E : Type} {w : EventWaiter E} (h : w.nextId ≠ gone) (l : Listener E) :
    (w.expire gone).2.enter l = ((w.enter l).expire gone).2 := by
  simp [EventWaiter.enter, EventWaiter.expire, h]

theorem wait_expire {E J : Type} {w : EventWaiter E} (h : w.nextId ≠ gone) (wants : E → Bool)
    (timers : TimedTimers J) (job : Nat → J) :
    (w.expire gone).2.wait wants none timers job =
      Prod.map id (Prod.map (fun w => (w.expire gone).2) id) (w.wait wants none timers job) := by
  unfold EventWaiter.wait
  simp only [enter_expire h]
  simp only [EventWaiter.expire]
  split <;> rfl

theorem ask_erase (command : Command Action) (invocation : Invocation)
    (h : s.waiter.nextId ≠ gone) : (s.erase gone).ask command invocation =
      Prod.map id (·.erase gone) (s.ask command invocation) := by
  unfold ask
  simp only [erase, wait_expire h]
  rcases s.waiter.wait_cases (fun reply => reply.author == invocation.context.author.id) none
    s.timers Alarm.listener with ⟨timer, later, -, hwait⟩ | ⟨e, hwait⟩
  · simp [hwait, Except.toOption, h]
  · simp [hwait, Except.toOption]

/-- Most handlers do not look at the session at all. -/
theorem perform_still (command : Command Action) (invocation : Invocation) {action : Action}
    (h : action ∉ [.remind, .confirm, .pages]) :
    ∃ printed ending, ∀ s : Session,
      s.perform command invocation action = (printed, .ended ending, s) := by
  cases action with
  | remind | confirm | pages => simp at h
  | addIntegers =>
    simp only [perform]
    split
    · split
      · exact ⟨_, _, fun _ => rfl⟩
      · exact ⟨_, _, fun _ => rfl⟩
    · exact ⟨_, _, fun _ => rfl⟩
  | sum =>
    simp only [perform]
    split
    · exact ⟨_, _, fun _ => rfl⟩
    · exact ⟨_, _, fun _ => rfl⟩
  | ping | addFloats | say | createChannel | deleteChannel | panic => exact ⟨_, _, fun _ => rfl⟩

theorem perform_still_snd (command : Command Action) (invocation : Invocation) {action : Action}
    (h : action ∉ [.remind, .confirm, .pages]) :
    (s.perform command invocation action).2.2 = s := by
  obtain ⟨printed, ending, hperform⟩ := perform_still command invocation h
  rw [hperform]

theorem perform_still_erase {command : Command Action} {invocation : Invocation} {action : Action}
    (h : action ∉ [.remind, .confirm, .pages]) : (s.erase gone).perform command invocation action =
      Prod.map id (Prod.map id (·.erase gone)) (s.perform command invocation action) := by
  obtain ⟨printed, ending, hperform⟩ := perform_still command invocation h
  rw [hperform, hperform]
  rfl

theorem perform_erase (command : Command Action) (invocation : Invocation) (action : Action)
    (h : s.waiter.nextId ≠ gone) : (s.erase gone).perform command invocation action =
      Prod.map id (Prod.map id (·.erase gone)) (s.perform command invocation action) := by
  cases action with
  | remind =>
    simp only [perform, remind, erase_timers]
    split
    · rfl
    · rename_i delay _
      cases s.timers.schedule delay.nanos
        (.reminder invocation.context.author.id ((textAt invocation 1).getD "")) <;> rfl
  | confirm =>
    simp only [perform, ask_erase command invocation h]
    rcases s.ask command invocation with ⟨e | listener, later⟩ <;> rfl
  | pages =>
    simp only [perform, turnPages_erase]
    rcases s.turnPages ((textAt invocation 0).getD "first") with ⟨ending | shown, later⟩ <;> rfl
  | ping | addIntegers | addFloats | sum | say | createChannel | deleteChannel | panic =>
    refine perform_still_erase ?_
    decide

/-- What is done about a message once that is decided. -/
def carryOut (s : Session) : Decision Action → List String × Session
  | .settled outcome => (describe outcome, s)
  | .broken _ => ([], s)
  | .run command invocation =>
    match command.handler? with
    | none => (describe (.invalidArguments command), s)
    | some action =>
      let (printed, progress, s) := s.perform command invocation action
      match progress with
      | .ended ending => (printed ++ describe (.ofEnding command invocation ending), s)
      | .asked _ => (printed, s)

theorem dispatch_eq (s : Session) (m : Message) : s.dispatch m =
    { s with cooldowns := (s.dispatcher.decide s.timers.clock s.cooldowns m).2 }.carryOut
      (s.dispatcher.decide s.timers.clock s.cooldowns m).1 :=
  rfl

theorem carryOut_erase (decision : Decision Action) (h : s.waiter.nextId ≠ gone) :
    (s.erase gone).carryOut decision = Prod.map id (·.erase gone) (s.carryOut decision) := by
  unfold carryOut
  split
  · rfl
  · rfl
  · rename_i command invocation
    split
    · rfl
    · rename_i action _
      simp only [perform_erase command invocation action h]
      rcases s.perform command invocation action with ⟨printed, ending | listener, later⟩ <;> rfl

theorem dispatch_erase (m : Message) (h : s.waiter.nextId ≠ gone) :
    (s.erase gone).dispatch m = Prod.map id (·.erase gone) (s.dispatch m) := by
  rw [dispatch_eq, dispatch_eq]
  exact carryOut_erase (s := { s with
    cooldowns := (s.dispatcher.decide s.timers.clock s.cooldowns m).2 }) _ h

theorem offer_expire {E J : Type} {w : EventWaiter E} {event : E}
    (h : ∀ l, (gone, l) ∈ w.listeners → l.wants event = false) (timers : TimedTimers J) :
    (w.expire gone).2.offer event timers =
      Prod.map id (Prod.map (fun w => (w.expire gone).2) id) (w.offer event timers) := by
  have hmatched : (w.listeners.filter (·.1 != gone)).filter (·.2.wants event) =
      w.listeners.filter (·.2.wants event) := by
    rw [List.filter_filter]
    refine List.filter_congr fun entry hentry => ?_
    by_cases heq : entry.1 = gone
    · rw [h entry.2 (heq ▸ hentry), Bool.false_and]
    · simp [heq]
  rw [EventWaiter.offer_eq, EventWaiter.offer_eq]
  simp only [EventWaiter.expire, hmatched, List.filter_filter, Bool.and_comm, Prod.map, id]

theorem not_mem_offer {E J : Type} {w : EventWaiter E} {event : E}
    (h : ∀ l, (gone, l) ∈ w.listeners → l.wants event = false) (timers : TimedTimers J) :
    gone ∉ (w.offer event timers).1 := by
  rw [EventWaiter.offer_eq]
  rintro hmem
  obtain ⟨⟨_, l⟩, hl, rfl⟩ := List.mem_map.mp hmem
  obtain ⟨hentry, hwants⟩ := List.mem_filter.mp hl
  exact Bool.false_ne_true ((h l hentry).symm.trans hwants)

/-- What is done about a message that nobody waits for. -/
def handle (s : Session) (m : Message) : List String × Session :=
  if String.ofList (trimStart m.text.toList) == s.settings.mark ++ "help" then
    (s.help m.context, s)
  else s.dispatch m

theorem handle_erase (m : Message) (h : s.waiter.nextId ≠ gone) :
    (s.erase gone).handle m = Prod.map id (·.erase gone) (s.handle m) := by
  unfold handle
  rw [erase_settings]
  split
  · rfl
  · exact dispatch_erase m h

/-- What is done about a message that some listeners took. -/
def deliver (s : Session) (listeners : List Nat) (m : Message) : List String × Session :=
  if !listeners.isEmpty then s.answerAll listeners m.text else s.handle m

theorem receive_eq (s : Session) (m : Message) : s.receive m =
    { s with
      waiter := (s.waiter.offer ⟨m.context.author.id, m.text⟩ s.timers).2.1
      timers := (s.waiter.offer ⟨m.context.author.id, m.text⟩ s.timers).2.2 }.deliver
        (s.waiter.offer ⟨m.context.author.id, m.text⟩ s.timers).1 m :=
  rfl

/-- A message that the listener does not want is handled as without it. -/
theorem receive_erase {m : Message} (hnew : s.waiter.nextId ≠ gone)
    (hlistener : ∀ l, (gone, l) ∈ s.waiter.listeners →
      l.wants ⟨m.context.author.id, m.text⟩ = false) :
    (s.erase gone).receive m = Prod.map id (·.erase gone) (s.receive m) := by
  have hid := not_mem_offer hlistener s.timers
  have hnext : (s.waiter.offer ⟨m.context.author.id, m.text⟩ s.timers).2.1.nextId ≠ gone := by
    rw [EventWaiter.offer_eq]
    exact hnew
  rw [receive_eq, receive_eq]
  simp only [erase_timers, erase_waiter, offer_expire hlistener]
  unfold deliver
  simp only [Prod.map, id]
  split
  · exact answerAll_erase (s := { s with waiter := _, timers := _ }) hid m.text
  · exact handle_erase (s := { s with waiter := _, timers := _ }) m hnext

end ChatCommands.Console.Session
