import ChatCommands.Proofs.Console.Books
import ChatCommands.Proofs.Dispatch.Stages

/-! # Order at a console

Messages are taken one after the other, and whoever is waited for answers before giving another
command. So nobody is ever waited for twice, and the timers of the questions go on until the answer.
-/

namespace ChatCommands

open TimerAct TimedTimers

namespace Console

variable {acts acts' : List (TimerAct Alarm)} {waits waits' : List Wait} {s s' : Session} {w : Wait}
  {limit : Duration} {user : UInt64}

/-- The listeners, the questions and the timers of a session agree on who is waited for. -/
structure Orderly (acts : List (TimerAct Alarm)) (waits : List Wait) (limit : Duration)
    (s : Session) : Prop where
  books : Books waits s
  minds : Minds acts waits s.timers
  paced : Paced acts s.timeout?
  limit : s.waiter.defaultTimeout = limit

/-- The timer of a wait that is over is cancelled. -/
theorem Minds.answered {t : TimedTimers Alarm} (h : Minds acts waits t)
    (hids : (waits.map Wait.listener).Nodup) (hw : w ∈ waits) : ∃ acts', Extends acts acts' ∧
      Minds acts' (waits.filter (·.listener != w.listener)) (w.stop t) := by
  have hleft : ∀ timer id, (∃ v ∈ waits.filter (·.listener != w.listener), v.listener = id ∧
      ∃ q, v.asked? = some (timer, q)) ↔
        id ≠ w.listener ∧ ∃ v ∈ waits, v.listener = id ∧ ∃ q, v.asked? = some (timer, q) := by
    intro timer id
    constructor
    · rintro ⟨v, hv, rfl, hasked⟩
      obtain ⟨hv, hne⟩ := List.mem_filter.mp hv
      exact ⟨bne_iff_ne.mp hne, v, hv, rfl, hasked⟩
    · rintro ⟨hne, v, hv, rfl, hasked⟩
      exact ⟨v, List.mem_filter.mpr ⟨hv, bne_iff_ne.mpr hne⟩, rfl, hasked⟩
  unfold Wait.stop
  split
  · rename_i hasked
    refine ⟨acts, extends_refl acts, h.reflects, h.running, fun timer id => ?_⟩
    rw [hleft, h.due_iff]
    refine (and_iff_right_of_imp ?_).symm
    rintro ⟨v, hv, rfl, q, hasked'⟩ heq
    cases List.inj_on_of_nodup_map hids hv hw heq
    cases hasked.symm.trans hasked'
  · rename_i timer q hasked
    refine ⟨_, extends_cancel acts timer, h.reflects.cancel timer, by simpa using h.running,
      fun other id => ?_⟩
    rw [hleft, ← h.due_iff]
    simp only [due_cancel, exists_and_right]
    -- A timer is for one listener and a listener has one timer, so no other wait loses its own.
    rw [and_comm]
    refine and_congr_left fun ⟨deadline, hdue⟩ => not_congr ⟨?_, ?_⟩
    · rintro rfl
      obtain ⟨deadline', hdue'⟩ := h.exists_due hw hasked
      cases hdue.2.symm.trans hdue'.2
      rfl
    · rintro rfl
      exact h.timer_unique hids hw hasked hdue

/-- Time ends the waits whose timers are due by then. -/
theorem Orderly.advance (h : Orderly acts waits limit s) (nanos : Nat) :
    Orderly (acts ++ [.advance nanos]) (waits.filter fun w =>
      .listener w.listener ∉ (s.timers.advance (s.timers.clock + nanos)).1.map Prod.snd) limit
      (s.advance (s.timers.clock + nanos)).2 := by
  have hbooks : Books waits
      { s with timers := (s.timers.advance (s.timers.clock + nanos)).2 } :=
    h.books.congr rfl rfl
  obtain ⟨hrung, hkeeps⟩ :=
    hbooks.ringAll ((s.timers.advance (s.timers.clock + nanos)).1.map Prod.snd)
  refine ⟨hrung, ?_, ?_, hkeeps.limit.trans h.limit⟩
  · rw [Session.advance, hkeeps.timers]
    exact h.minds.advance h.books.ids nanos
  · rw [Session.advance, hkeeps.timeout]
    exact h.paced.append _

/-- An answer ends the wait for it. -/
theorem Orderly.answered (h : Orderly acts waits limit s) (hw : w ∈ waits) :
    ∃ acts', Extends acts acts' ∧ Orderly acts' (waits.filter (·.listener != w.listener)) limit
      { s.erase w.listener with timers := w.stop s.timers } := by
  obtain ⟨acts', hmore, hminds⟩ := h.minds.answered h.books.ids hw
  exact ⟨acts', hmore, (h.books.erase w.listener).congr rfl rfl, hminds, h.paced.mono hmore,
    h.limit⟩

/-! ## Handlers -/

/-- Of those that wait, a message leaves all, and adds its user at most. -/
def Joins (acts : List (TimerAct Alarm)) (waits : List Wait) (user : UInt64) (deadline : Nat)
    (waits' : List Wait) : Prop :=
  waits' = waits ∨ ∃ w, waits' = waits ++ [w] ∧ w.user = user ∧
    ∀ timer q, w.asked? = some (timer, q) → Due acts timer deadline (.listener w.listener)

/-- All is in order after a message of a user. -/
def Settles (acts : List (TimerAct Alarm)) (waits : List Wait) (limit : Duration) (user : UInt64)
    (deadline : Nat) (s : Session) : Prop :=
  ∃ acts' waits', Extends acts acts' ∧ Orderly acts' waits' limit s ∧
    Joins acts' waits user deadline waits'

variable {deadline : Nat}

theorem Orderly.settles (h : Orderly acts' waits limit s) (hmore : Extends acts acts') :
    Settles acts waits limit user deadline s :=
  ⟨acts', waits, hmore, h, Or.inl rfl⟩

/-- Only the waiter and the questions tell who is waited for. -/
theorem Orderly.of_timers (h : Orderly acts waits limit s) (hwaiter : s'.waiter = s.waiter)
    (hquestions : s'.questions = s.questions) (hminds : Minds acts' waits s'.timers)
    (hpaced : Paced acts' s'.timeout?) : Orderly acts' waits limit s' :=
  ⟨h.books.congr hwaiter hquestions, hminds, hpaced, by rw [hwaiter, h.limit]⟩

theorem Orderly.remind (h : Orderly acts waits limit s) {delay : Duration} {text : String}
    (hset : s.remind delay text user = .ok s') : Settles acts waits limit user deadline s' := by
  unfold Session.remind at hset
  cases hschedule : s.timers.schedule delay.nanos (.reminder user text) with
  | error e =>
    rw [hschedule] at hset
    cases hset
  | ok set =>
    obtain ⟨timer, later⟩ := set
    rw [hschedule] at hset
    cases hset
    have hmore := extends_schedule acts delay.nanos (.reminder user text)
    have hjob : ∀ id, Alarm.reminder user text ≠ .listener id := by simp
    have hminds := h.minds.schedule delay.nanos hjob
    rw [(schedule_eq_ok hschedule).1] at hminds
    exact Orderly.settles (h.of_timers rfl rfl hminds (h.paced.mono hmore)) hmore

theorem Orderly.openPages (h : Orderly acts waits limit s) :
    Settles acts waits limit user deadline s.openPages.2 := by
  unfold Session.openPages
  dsimp only
  split
  · exact h.settles (extends_refl acts)
  · rename_i session timers hopened
    obtain ⟨acts', hmore, hminds, hpaced⟩ := h.minds.withExpiry? hopened
    cases hpages : s.pages? with
    | none => exact Orderly.settles (h.of_timers rfl rfl hminds hpaced) hmore
    | some old =>
      have hold : Paced acts' old.timeout? := by
        have hpaced := h.paced
        rw [Session.timeout?, hpages] at hpaced
        exact hpaced.mono hmore
      obtain ⟨acts'', hmore', hclosed⟩ := hminds.close hold
      exact Orderly.settles (h.of_timers rfl rfl hclosed (hpaced.mono hmore')) (hmore.trans hmore')

theorem Settles.showPage (h : Settles acts waits limit user deadline s)
    (page? : Except TimerError (Option String)) :
    Settles acts waits limit user deadline (s.showPage page?).2 := by
  cases page? with
  | ok page? => exact h
  | error e =>
    obtain ⟨acts', waits', hmore, horder, hjoins⟩ := h
    exact ⟨acts', waits', hmore, horder.of_timers rfl rfl horder.minds horder.paced, hjoins⟩

theorem Orderly.turnPages (h : Orderly acts waits limit s) (direction : String) :
    Settles acts waits limit user deadline (s.turnPages direction).2 := by
  unfold Session.turnPages
  split
  · exact h.settles (extends_refl acts)
  · split
    · exact h.openPages.showPage _
    · split
      · exact h.settles (extends_refl acts)
      · exact h.settles (extends_refl acts)
      · rename_i session turn hpages _
        have hopen : Paced acts session.timeout? := by
          have hpaced := h.paced
          rw [Session.timeout?, hpages] at hpaced
          exact hpaced
        obtain ⟨acts', hmore, hturned, hpaced⟩ := h.minds.turn hopen turn
        have horder : Orderly acts' waits limit { s with
            pages? := some (session.turn turn s.timers .pages).2.1
            timers := (session.turn turn s.timers .pages).2.2 } :=
          h.of_timers rfl rfl hturned hpaced
        exact (horder.settles hmore).showPage _

/-- A user that nobody waited for has a listener. -/
theorem Books.enter (h : Books waits s) (hno : ∀ v ∈ waits, v.user ≠ w.user)
    (hlistener : w.listener = s.waiter.nextId)
    (hwaiter : s'.waiter = s.waiter.enter w.entry.2)
    (hquestions : s'.questions = s.questions ++ w.question?.toList) : Books (waits ++ [w]) s' := by
  refine ⟨?_, ?_, ?_, ?_, ?_⟩
  · rw [hwaiter, EventWaiter.enter, h.listeners, List.map_append, ← hlistener]
    rfl
  · rw [hquestions, h.questions, List.filterMap_append]
    cases hq : w.question? <;> simp [hq]
  · rw [List.map_append, List.nodup_append]
    refine ⟨h.users, List.nodup_singleton _, fun user huser other hother => ?_⟩
    obtain ⟨v, hv, rfl⟩ := List.mem_map.mp huser
    cases List.mem_singleton.mp hother
    exact hno v hv
  · rw [List.map_append, List.nodup_append]
    refine ⟨h.ids, List.nodup_singleton _, fun id hid other hother => ?_⟩
    obtain ⟨v, hv, rfl⟩ := List.mem_map.mp hid
    cases List.mem_singleton.mp hother
    exact hlistener ▸ Nat.ne_of_lt (h.fresh v hv)
  · intro v hv
    rw [hwaiter, EventWaiter.enter]
    rcases List.mem_append.mp hv with hv | hv
    · exact Nat.lt_succ_of_lt (h.fresh v hv)
    · cases List.mem_singleton.mp hv
      exact hlistener ▸ Nat.lt_succ_self _

theorem Minds.enter {t later : TimedTimers Alarm} {timer : Nat} {q : Question}
    (h : Minds acts waits t)
    (hset : t.schedule limit.nanos (.listener w.listener) = .ok (timer, later))
    (hasked : w.asked? = some (timer, q)) :
    Minds (acts ++ [.schedule limit.nanos (.listener w.listener)]) (waits ++ [w]) later ∧
      Due (acts ++ [.schedule limit.nanos (.listener w.listener)]) timer (t.clock + limit.nanos)
        (.listener w.listener) := by
  obtain ⟨rfl, rfl, hle⟩ := schedule_eq_ok hset
  have hdue : Due (acts ++ [.schedule limit.nanos (.listener w.listener)]) t.timers.arms.length
      (t.clock + limit.nanos) (.listener w.listener) :=
    due_schedule.mpr (Or.inr ⟨h.reflects.length, by rw [h.reflects.clock], rfl, hle, h.not_halted⟩)
  refine ⟨⟨h.reflects.schedule _ _, by simpa using h.running, fun other id => ⟨?_, ?_⟩⟩, hdue⟩
  · rintro ⟨deadline, hdue'⟩
    rcases due_schedule.mp hdue' with hold | ⟨rfl, -, hid, -, -⟩
    · obtain ⟨v, hv, hlistener⟩ := (h.due_iff other id).mp ⟨deadline, hold⟩
      exact ⟨v, List.mem_append_left _ hv, hlistener⟩
    · cases hid
      exact ⟨w, List.mem_append_right _ (List.mem_singleton_self w), rfl, q,
        h.reflects.length ▸ hasked⟩
  · rintro ⟨v, hv, rfl, r, hasked'⟩
    rcases List.mem_append.mp hv with hv | hv
    · obtain ⟨deadline, hold⟩ := (h.due_iff other v.listener).mpr ⟨v, hv, rfl, r, hasked'⟩
      exact ⟨deadline, due_schedule.mpr (Or.inl hold)⟩
    · cases List.mem_singleton.mp hv
      cases hasked.symm.trans hasked'
      exact ⟨_, hdue⟩

theorem Minds.enter_unasked {t : TimedTimers Alarm} (h : Minds acts waits t)
    (hasked : w.asked? = none) : Minds acts (waits ++ [w]) t := by
  refine ⟨h.reflects, h.running, fun timer id => ?_⟩
  rw [h.due_iff]
  constructor
  · rintro ⟨v, hv, hlistener⟩
    exact ⟨v, List.mem_append_left _ hv, hlistener⟩
  · rintro ⟨v, hv, rfl, q, hasked'⟩
    rcases List.mem_append.mp hv with hv | hv
    · exact ⟨v, hv, rfl, q, hasked'⟩
    · cases List.mem_singleton.mp hv
      cases hasked.symm.trans hasked'

theorem Orderly.ask (h : Orderly acts waits limit s) (command : Command Action)
    {invocation : Invocation} (huser : invocation.context.author.id = user)
    (hno : ∀ w ∈ waits, w.user ≠ user) :
    Settles acts waits limit user (s.timers.clock + limit.nanos) (s.ask command invocation).2 := by
  subst huser
  unfold Session.ask
  dsimp only
  rcases s.waiter.wait_cases (fun reply => reply.author == invocation.context.author.id) none
    s.timers Alarm.listener with ⟨timer, later, hset, hwait⟩ | ⟨e, hwait⟩
  · rw [hwait]
    rw [Option.getD_none, h.limit] at hset
    let w := Wait.ofCall s.waiter.nextId command invocation (some timer)
    obtain ⟨hminds, hdue⟩ := h.minds.enter (w := w) hset rfl
    have hmore := extends_schedule acts limit.nanos (.listener s.waiter.nextId)
    refine ⟨_, waits ++ [w], hmore, ⟨h.books.enter hno rfl rfl rfl, hminds, h.paced.mono hmore,
      h.limit⟩, Or.inr ⟨w, rfl, rfl, ?_⟩⟩
    rintro _ _ ⟨⟩
    exact hdue
  · rw [hwait]
    let w := Wait.ofCall s.waiter.nextId command invocation none
    exact ⟨acts, waits ++ [w], extends_refl acts, ⟨h.books.enter hno rfl rfl rfl,
      h.minds.enter_unasked rfl, h.paced, h.limit⟩, Or.inr ⟨w, rfl, rfl, nofun⟩⟩

theorem Orderly.perform (h : Orderly acts waits limit s) (command : Command Action)
    {invocation : Invocation} (huser : invocation.context.author.id = user)
    (hno : ∀ w ∈ waits, w.user ≠ user) (action : Action) :
    Settles acts waits limit user (s.timers.clock + limit.nanos)
      (s.perform command invocation action).2.2 := by
  cases action with
  | remind =>
    simp only [Session.perform]
    split
    · exact h.settles (extends_refl acts)
    · split
      · rename_i hset
        exact h.remind (huser ▸ hset)
      · exact h.settles (extends_refl acts)
  | confirm =>
    have hasked := h.ask command huser hno
    simp only [Session.perform]
    generalize s.ask command invocation = asked at hasked ⊢
    obtain ⟨e | listener, later⟩ := asked <;> exact hasked
  | pages =>
    have hturned : Settles acts waits limit user (s.timers.clock + limit.nanos)
        (s.turnPages ((Session.textAt invocation 0).getD "first")).2 :=
      h.turnPages _
    simp only [Session.perform]
    generalize s.turnPages ((Session.textAt invocation 0).getD "first") = turned at hturned ⊢
    obtain ⟨ending | shown, later⟩ := turned <;> exact hturned
  | ping | addIntegers | addFloats | sum | say | createChannel | deleteChannel | panic =>
    rw [Session.perform_still_snd command invocation]
    · exact h.settles (extends_refl acts)
    · decide

/-! ## Messages -/

theorem Orderly.carryOut (h : Orderly acts waits limit s) {decision : Decision Action}
    (hrun : ∀ command invocation, decision = .run command invocation →
      invocation.context.author.id = user) (hno : ∀ w ∈ waits, w.user ≠ user) :
    Settles acts waits limit user (s.timers.clock + limit.nanos) (s.carryOut decision).2 := by
  unfold Session.carryOut
  split
  · exact h.settles (extends_refl acts)
  · exact h.settles (extends_refl acts)
  · rename_i command invocation
    split
    · exact h.settles (extends_refl acts)
    · rename_i action _
      have hperformed := h.perform command (hrun _ _ rfl) hno action
      generalize s.perform command invocation action = performed at hperformed ⊢
      obtain ⟨printed, ending | listener, later⟩ := performed <;> exact hperformed

theorem Orderly.handle (h : Orderly acts waits limit s) {m : Message}
    (hno : ∀ w ∈ waits, w.user ≠ m.context.author.id) :
    Settles acts waits limit m.context.author.id (s.timers.clock + limit.nanos) (s.handle m).2 := by
  unfold Session.handle
  split
  · exact h.settles (extends_refl acts)
  · rw [Session.dispatch_eq]
    have horder : Orderly acts waits limit { s with
        cooldowns := (s.dispatcher.decide s.timers.clock s.cooldowns m).2 } :=
      h.of_timers rfl rfl h.minds h.paced
    refine horder.carryOut (fun command invocation hrun => ?_) hno
    obtain ⟨-, -, -, -, hcontext⟩ := Dispatcher.exists_fit_of_run hrun
    rw [hcontext]

end Console

end ChatCommands
