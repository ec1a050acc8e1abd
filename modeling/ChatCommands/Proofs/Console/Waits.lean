import ChatCommands.Console.Session
import ChatCommands.Proofs.Timer.Settled

/-! # Who waits at a console

The timers of a session are those of reminders, of its listing, and one for each question. Whatever
else goes on leaves the timers of the questions alone.
-/

namespace ChatCommands

open TimerAct TimedTimers

namespace TimerAct

variable {J : Type} {acts acts' later more : List (TimerAct J)} {id deadline other : Nat} {job : J}

/-- A timer is pending, with a deadline and a job. -/
def Due (acts : List (TimerAct J)) (id deadline : Nat) (job : J) : Prop :=
  Pending acts id ∧ (scheduled acts)[id]? = some (deadline, job)

/-- More was done, which took no time. -/
def Extends (acts acts' : List (TimerAct J)) : Prop :=
  ∃ more, acts' = acts ++ more ∧ elapsed more = 0

theorem extends_refl (acts : List (TimerAct J)) : Extends acts acts :=
  ⟨[], (List.append_nil _).symm, rfl⟩

theorem Extends.trans (h : Extends acts acts') (h' : Extends acts' later) : Extends acts later := by
  obtain ⟨more, rfl, hmore⟩ := h
  obtain ⟨rest, rfl, hrest⟩ := h'
  exact ⟨more ++ rest, List.append_assoc _ _ _, by rw [elapsed_append, hmore, hrest]⟩

theorem extends_schedule (acts : List (TimerAct J)) (delay : Nat) (job : J) :
    Extends acts (acts ++ [.schedule delay job]) :=
  ⟨_, rfl, rfl⟩

theorem extends_cancel (acts : List (TimerAct J)) (id : Nat) :
    Extends acts (acts ++ [.cancel id]) :=
  ⟨_, rfl, rfl⟩

theorem Extends.past (h : Extends acts acts') : acts <+: acts' := by
  obtain ⟨more, rfl, -⟩ := h
  exact List.prefix_append acts more

theorem Extends.elapsed_eq (h : Extends acts acts') : elapsed acts' = elapsed acts := by
  obtain ⟨more, rfl, hmore⟩ := h
  rw [elapsed_append, hmore, Nat.add_zero]

theorem getElem?_scheduled_append {timer : Nat × J} (h : (scheduled acts)[id]? = some timer)
    (more : List (TimerAct J)) : (scheduled (acts ++ more))[id]? = some timer := by
  rw [scheduled_append]
  exact getElem?_append_of_eq_some h _

theorem Extends.scheduled (h : Extends acts acts') {timer : Nat × J}
    (hset : (scheduled acts)[id]? = some timer) : (TimerAct.scheduled acts')[id]? = some timer := by
  obtain ⟨more, rfl, -⟩ := h
  exact getElem?_scheduled_append hset more

theorem Due.unique (h : Due acts id deadline job) (h' : Due acts id other job) :
    deadline = other := by
  cases h.2.symm.trans h'.2
  rfl

/-- A timer is due as it was, or was just set. -/
theorem due_schedule {delay : Nat} {new : J} : Due (acts ++ [.schedule delay new]) id deadline job ↔
    Due acts id deadline job ∨ id = (scheduled acts).length ∧ deadline = elapsed acts + delay ∧
      job = new ∧ deadline ≤ Timers.horizon ∧ ¬Halted acts := by
  rw [Due, pending_schedule]
  constructor
  · rintro ⟨hpending | ⟨hle, rfl, hhalted⟩, hset⟩
    · rw [scheduled_append, List.getElem?_append_left hpending.1] at hset
      exact Or.inl ⟨hpending, hset⟩
    · rw [scheduled_append, scheduledFrom, if_neg (Nat.not_lt.mpr hle), scheduledFrom,
        List.getElem?_concat_length] at hset
      cases hset
      exact Or.inr ⟨rfl, rfl, rfl, hle, hhalted⟩
  · rintro (⟨hpending, hset⟩ | ⟨rfl, rfl, rfl, hle, hhalted⟩)
    · exact ⟨Or.inl hpending, getElem?_scheduled_append hset _⟩
    · refine ⟨Or.inr ⟨hle, rfl, hhalted⟩, ?_⟩
      rw [scheduled_append, scheduledFrom, if_neg (Nat.not_lt.mpr hle)]
      exact List.getElem?_concat_length

theorem due_cancel : Due (acts ++ [.cancel other]) id deadline job ↔
    Due acts id deadline job ∧ id ≠ other := by
  rw [Due, pending_cancel, scheduled_of_ne_schedule (by simp), Due, and_right_comm]

theorem due_advance {nanos : Nat} (hrunning : .shutdown ∉ acts) :
    Due (acts ++ [.advance nanos]) id deadline job ↔
      Due acts id deadline job ∧ elapsed acts + nanos < deadline := by
  rw [Due, pending_advance, scheduled_advance, Due]
  constructor
  · rintro ⟨⟨hpending, -, hahead⟩, hset⟩
    exact ⟨⟨hpending, hset⟩, hahead _ hset⟩
  · rintro ⟨⟨hpending, hset⟩, hahead⟩
    refine ⟨⟨hpending, hrunning, fun timer htimer => ?_⟩, hset⟩
    cases hset.symm.trans htimer
    exact hahead

end TimerAct

namespace Console

/-- The user who is asked. -/
def Question.user (q : Question) : UInt64 :=
  q.invocation.context.author.id

/-- A user whose next line a listener waits for. -/
structure Wait where
  user : UInt64
  listener : Nat
  /-- The timer and the question, unless the timer could not be set: then the call has failed. -/
  asked? : Option (Nat × Question)
  asked : ∀ timer q, asked? = some (timer, q) → q.listener = listener ∧ q.user = user

namespace Wait

def entry (w : Wait) : Nat × Listener Reply :=
  (w.listener, ⟨fun reply => reply.author == w.user, w.asked?.map Prod.fst⟩)

def question? (w : Wait) : Option Question :=
  w.asked?.map Prod.snd

theorem question?_of_asked {w : Wait} {timer : Nat} {q : Question}
    (h : w.asked? = some (timer, q)) : w.question? = some q := by
  rw [question?, h]
  rfl

/-- The wait of a call of a handler, whose timer may have failed. -/
def ofCall (listener : Nat) (command : Command Action) (invocation : Invocation)
    (timer? : Option Nat) : Wait where
  user := invocation.context.author.id
  listener := listener
  asked? := timer?.map fun timer => (timer, ⟨listener, command, invocation⟩)
  asked := by
    intro timer q h
    obtain ⟨_, -, heq⟩ := Option.map_eq_some_iff.mp h
    cases heq
    exact ⟨rfl, rfl⟩

end Wait

variable {acts : List (TimerAct Alarm)} {waits : List Wait} {t later : TimedTimers Alarm}
  {acts' : List (TimerAct Alarm)} {timer id delay deadline : Nat} {job : Alarm}
  {timeout : Timeout ExpiryAction}

/-! ## Their timers -/

/-- The pending timers of listeners are those of the calls that wait. -/
structure Minds (acts : List (TimerAct Alarm)) (waits : List Wait) (t : TimedTimers Alarm) :
    Prop where
  reflects : Reflects acts t
  running : .shutdown ∉ acts
  due_iff : ∀ timer id, (∃ deadline, Due acts timer deadline (.listener id)) ↔
    ∃ w ∈ waits, w.listener = id ∧ ∃ q, w.asked? = some (timer, q)

theorem schedule_eq_ok (h : t.schedule delay job = .ok (id, later)) :
    (t.perform (.schedule delay job)).2 = later ∧ id = t.timers.arms.length ∧
      t.clock + delay ≤ Timers.horizon := by
  have hperform : (t.perform (.schedule delay job)).2 = later := by rw [perform, h]
  unfold TimedTimers.schedule at h
  rcases t.timers.schedule_cases t.clock delay job with ⟨-, hset⟩ | ⟨hle, -, hset⟩ | ⟨hle, -, hset⟩
  · rw [hset] at h
    cases h
  · rw [hset] at h
    cases h
    exact ⟨hperform, rfl, hle⟩
  · rw [hset] at h
    cases h
    exact ⟨hperform, rfl, hle⟩

theorem exists_schedule_eq_ok (h : t.clock + delay ≤ Timers.horizon) (job : Alarm) :
    ∃ set, t.schedule delay job = .ok set := by
  unfold TimedTimers.schedule
  rcases t.timers.schedule_cases t.clock delay job with ⟨hpast, -⟩ | ⟨-, -, hset⟩ | ⟨-, -, hset⟩
  · exact absurd h (Nat.not_le.mpr hpast)
  · exact ⟨_, by rw [hset]; rfl⟩
  · exact ⟨_, by rw [hset]; rfl⟩

theorem Minds.not_halted (h : Minds acts waits t) : ¬Halted acts :=
  fun hhalted => h.running (mem_of_halted hhalted)

/-- A timer that is not for a listener is of no account. -/
theorem Minds.schedule (h : Minds acts waits t) (delay : Nat) (hjob : ∀ id, job ≠ .listener id) :
    Minds (acts ++ [.schedule delay job]) waits (t.perform (.schedule delay job)).2 := by
  refine ⟨h.reflects.schedule delay job, by simpa using h.running, fun timer id => ?_⟩
  rw [← h.due_iff]
  apply exists_congr
  intro deadline
  rw [due_schedule]
  apply or_iff_left
  rintro ⟨-, -, hlistener, -⟩
  exact hjob id hlistener.symm

theorem Minds.exists_due (h : Minds acts waits t) {w : Wait} {q : Question} (hw : w ∈ waits)
    (hasked : w.asked? = some (timer, q)) :
    ∃ deadline, Due acts timer deadline (.listener w.listener) :=
  (h.due_iff timer w.listener).mpr ⟨w, hw, rfl, q, hasked⟩

/-- The listeners that time brings an end to are those whose timers are due by then. -/
theorem Minds.mem_alarms (h : Minds acts waits t) (nanos : Nat) :
    job ∈ (t.advance (t.clock + nanos)).1.map Prod.snd ↔
      ∃ timer deadline, Due acts timer deadline job ∧ deadline ≤ t.clock + nanos := by
  obtain ⟨-, ids, hout, -, hids⟩ := h.reflects.advance nanos
  have hmem : ∀ deadline, (deadline, job) ∈ (t.advance (t.clock + nanos)).1 ↔
      ∃ timer ∈ ids, (scheduled acts)[timer]? = some (deadline, job) := by
    intro deadline
    have hsome : some (deadline, job) ∈ (t.advance (t.clock + nanos)).1.map some ↔
        ∃ timer ∈ ids, (scheduled acts)[timer]? = some (deadline, job) := by
      rw [hout, List.mem_map]
    simpa using hsome
  constructor
  · intro hjob
    obtain ⟨⟨deadline, _⟩, hentry, rfl⟩ := List.mem_map.mp hjob
    obtain ⟨timer, hid, hset⟩ := (hmem deadline).mp hentry
    obtain ⟨-, hpending, due, hset', hle⟩ := (hids timer).mp hid
    cases hset.symm.trans hset'
    exact ⟨timer, deadline, ⟨hpending, hset⟩, h.reflects.clock ▸ hle⟩
  · rintro ⟨timer, deadline, ⟨hpending, hset⟩, hle⟩
    have hid := (hids timer).mpr ⟨h.running, hpending, _, hset, h.reflects.clock ▸ hle⟩
    exact List.mem_map.mpr ⟨_, (hmem deadline).mpr ⟨timer, hid, hset⟩, rfl⟩

theorem Minds.timer_unique (h : Minds acts waits t) (hids : (waits.map Wait.listener).Nodup)
    {w : Wait} {q : Question} (hw : w ∈ waits) (hasked : w.asked? = some (timer, q)) {other : Nat}
    (hdue : Due acts other deadline (.listener w.listener)) : other = timer := by
  obtain ⟨v, hv, hlistener, r, hasked'⟩ := (h.due_iff other w.listener).mp ⟨deadline, hdue⟩
  cases List.inj_on_of_nodup_map hids hv hw hlistener
  cases hasked.symm.trans hasked'
  rfl

/-- Time ends the waits whose timers are due by then. -/
theorem Minds.advance (h : Minds acts waits t) (hids : (waits.map Wait.listener).Nodup)
    (nanos : Nat) : Minds (acts ++ [.advance nanos])
      (waits.filter fun w => .listener w.listener ∉ (t.advance (t.clock + nanos)).1.map Prod.snd)
      (t.advance (t.clock + nanos)).2 := by
  refine ⟨(h.reflects.advance nanos).1, by simpa using h.running, fun timer id => ?_⟩
  simp only [due_advance h.running, ← h.reflects.clock]
  constructor
  · rintro ⟨deadline, hdue, hahead⟩
    obtain ⟨w, hw, rfl, q, hasked⟩ := (h.due_iff timer id).mp ⟨deadline, hdue⟩
    refine ⟨w, List.mem_filter.mpr ⟨hw, decide_eq_true fun halarm => ?_⟩, rfl, q, hasked⟩
    obtain ⟨other, due, hdue', hle⟩ := (h.mem_alarms nanos).mp halarm
    cases h.timer_unique hids hw hasked hdue'
    cases hdue.unique hdue'
    exact Nat.not_lt.mpr hle hahead
  · rintro ⟨w, hw, rfl, q, hasked⟩
    obtain ⟨hw, halarm⟩ := List.mem_filter.mp hw
    obtain ⟨deadline, hdue⟩ := h.exists_due hw hasked
    refine ⟨deadline, hdue, Nat.not_le.mp fun hle => of_decide_eq_true halarm ?_⟩
    exact (h.mem_alarms nanos).mpr ⟨timer, deadline, hdue, hle⟩

/-- The handle of the listing's timeout is that of a timer of the listing. -/
def Handles (acts : List (TimerAct Alarm)) (timeout : Timeout ExpiryAction) : Prop :=
  ∀ id, timeout.current? = some id → ∃ deadline, (scheduled acts)[id]? = some (deadline, .pages)

theorem Handles.append (h : Handles acts timeout) (more : List (TimerAct Alarm)) :
    Handles (acts ++ more) timeout := by
  intro id hid
  obtain ⟨deadline, hset⟩ := h id hid
  exact ⟨deadline, getElem?_scheduled_append hset more⟩

theorem Minds.stop (h : Minds acts waits t) (hhandle : Handles acts timeout) :
    ∃ acts', Extends acts acts' ∧ Minds acts' waits (timeout.stop t).2.2 ∧
      Handles acts' (timeout.stop t).2.1 := by
  unfold Timeout.stop
  split
  · exact ⟨acts, extends_refl acts, h, hhandle⟩
  · rename_i id hcurrent
    obtain ⟨deadline, hset⟩ := hhandle id hcurrent
    refine ⟨_, extends_cancel acts id, ⟨h.reflects.cancel id, by simpa using h.running, ?_⟩, nofun⟩
    intro timer listener
    rw [← h.due_iff]
    apply exists_congr
    intro other
    rw [due_cancel]
    apply and_iff_left_of_imp
    rintro ⟨-, hlistener⟩ rfl
    cases hset.symm.trans hlistener

theorem Minds.arm (h : Minds acts waits t) (hhandle : Handles acts timeout) :
    ∃ acts', Extends acts acts' ∧ Minds acts' waits (timeout.arm t .pages).2.2 ∧
      Handles acts' (timeout.arm t .pages).2.1 := by
  unfold Timeout.arm
  split
  · rename_i id later hset
    obtain ⟨rfl, rfl, hle⟩ := schedule_eq_ok hset
    refine ⟨_, extends_schedule acts _ _, h.schedule _ (by simp), fun id hid => ?_⟩
    cases hid
    rw [h.reflects.length]
    have hdue : Due (acts ++ [.schedule timeout.duration.nanos .pages]) (scheduled acts).length
        (elapsed acts + timeout.duration.nanos) .pages := by
      rw [h.reflects.clock] at hle
      exact due_schedule.mpr (Or.inr ⟨rfl, rfl, rfl, hle, h.not_halted⟩)
    exact ⟨_, hdue.2⟩
  · exact ⟨acts, extends_refl acts, h, hhandle⟩

theorem Minds.start (h : Minds acts waits t) (hhandle : Handles acts timeout) :
    ∃ acts', Extends acts acts' ∧ Minds acts' waits (timeout.start t .pages).2.2 ∧
      Handles acts' (timeout.start t .pages).2.1 := by
  unfold Timeout.start
  split
  · exact ⟨acts, extends_refl acts, h, hhandle⟩
  · exact h.arm hhandle

theorem Minds.restart (h : Minds acts waits t) (hhandle : Handles acts timeout) :
    ∃ acts', Extends acts acts' ∧ Minds acts' waits (timeout.restart t .pages).2.2 ∧
      Handles acts' (timeout.restart t .pages).2.1 := by
  unfold Timeout.restart
  split
  · exact ⟨acts, extends_refl acts, h, hhandle⟩
  · obtain ⟨acts', hmore, hstopped, hhandle⟩ := h.stop hhandle
    obtain ⟨acts'', hmore', hset, hhandle⟩ := hstopped.arm hhandle
    exact ⟨acts'', hmore.trans hmore', hset, hhandle⟩

/-! ## The listing -/

/-- The timeout of a listing, if there is one, has timers of its own. -/
def Paced (acts : List (TimerAct Alarm)) (timeout? : Option (Timeout ExpiryAction)) : Prop :=
  ∀ timeout, timeout? = some timeout → Handles acts timeout

theorem Paced.append {timeout? : Option (Timeout ExpiryAction)} (h : Paced acts timeout?)
    (more : List (TimerAct Alarm)) : Paced (acts ++ more) timeout? :=
  fun timeout htimeout => (h timeout htimeout).append more

theorem Paced.mono {timeout? : Option (Timeout ExpiryAction)} (h : Paced acts timeout?)
    (hmore : Extends acts acts') : Paced acts' timeout? := by
  obtain ⟨more, rfl, -⟩ := hmore
  exact h.append more

theorem Minds.withExpiry? {pages : List String} {expiry? : Option Duration} {action : ExpiryAction}
    {session : PageSession String} (h : Minds acts waits t)
    (hset : PageSession.withExpiry? pages expiry? action t .pages = .ok (session, later)) :
    ∃ acts', Extends acts acts' ∧ Minds acts' waits later ∧ Paced acts' session.timeout? := by
  cases expiry? with
  | none =>
    cases hset
    exact ⟨acts, extends_refl acts, h, nofun⟩
  | some expiry =>
    have hunset : Handles acts ⟨expiry, true, some action, none⟩ := nofun
    obtain ⟨acts', hmore, hstarted, hhandle⟩ := h.start hunset
    rw [PageSession.withExpiry?, PageSession.withExpiry] at hset
    cases hanswer : (Timeout.start ⟨expiry, true, some action, none⟩ t Alarm.pages).1 with
    | error e =>
      rw [hanswer] at hset
      cases hset
    | ok armed =>
      rw [hanswer] at hset
      cases hset
      refine ⟨acts', hmore, hstarted, fun timeout htimeout => ?_⟩
      cases htimeout
      exact hhandle

theorem Minds.close {session : PageSession String} (h : Minds acts waits t)
    (hpaced : Paced acts session.timeout?) :
    ∃ acts', Extends acts acts' ∧ Minds acts' waits (session.close t).2 := by
  unfold PageSession.close
  split
  · exact ⟨acts, extends_refl acts, h⟩
  · rename_i timeout htimeout
    obtain ⟨acts', hmore, hstopped, -⟩ := h.stop (hpaced timeout htimeout)
    exact ⟨acts', hmore, hstopped⟩

theorem Minds.turn {session : PageSession String} (h : Minds acts waits t)
    (hpaced : Paced acts session.timeout?) (turn : PageTurn) :
    ∃ acts', Extends acts acts' ∧ Minds acts' waits (session.turn turn t .pages).2.2 ∧
      Paced acts' (session.turn turn t .pages).2.1.timeout? := by
  unfold PageSession.turn
  split
  · exact ⟨acts, extends_refl acts, h, hpaced⟩
  · split
    · exact ⟨acts, extends_refl acts, h, hpaced⟩
    · split
      · rename_i hnever
        exact ⟨acts, extends_refl acts, h, fun timeout htimeout => hpaced timeout htimeout⟩
      · rename_i timeout htimeout
        obtain ⟨acts', hmore, hrestarted, hhandle⟩ := h.restart (hpaced timeout htimeout)
        refine ⟨acts', hmore, hrestarted, fun timeout htimeout => ?_⟩
        cases htimeout
        exact hhandle

end Console

end ChatCommands
