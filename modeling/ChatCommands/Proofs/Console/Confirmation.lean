import ChatCommands.Proofs.Console.Acts

/-! # Confirmations

A question waits for the next line of its user alone, and for that line alone. Meanwhile the lines
of others are handled as if it were not there. Without an answer it lapses.
-/

namespace ChatCommands.Console

open TimerAct TimedTimers Text

/-- A question waits for an answer until a deadline: its listener is there, and the timer of the
listener is pending. -/
structure Session.Pends (s : Session) (q : Question) (timer deadline : Nat) : Prop where
  asked : q ∈ s.questions
  listens : ∃ l, (q.listener, l) ∈ s.waiter.listeners ∧ l.timer? = some timer
  armed : s.timers.timers.isPending timer = true
  listed : (deadline, timer) ∈ s.timers.timers.table.agenda

/-- Nobody waits for a user. -/
def Session.Free (s : Session) (user : UInt64) : Prop :=
  ∀ entry ∈ s.waiter.listeners, ∀ text, entry.2.wants ⟨user, text⟩ = false

/-- What happens to the questions of a session from here on, when users have `limit` to answer. -/
structure Session.Confirms (limit : Duration) (s : Session) : Prop where
  /-- Each user has one at most. -/
  alone : (s.questions.map Question.user).Nodup
  pending : ∀ q ∈ s.questions, ∃ timer deadline,
    s.Pends q timer deadline ∧ s.timers.clock < deadline
  /-- New ones come from a message of their user, and wait for the whole time. -/
  asked : ∀ act, ∀ q ∈ (s.take act).2.questions, q ∉ s.questions →
    act.sender? = some q.user ∧
      ∃ timer, (s.take act).2.Pends q timer (s.timers.clock + limit.nanos)
  /-- Unless somebody waits for its user, a command that asks for confirmation does so. Without any
  time to answer, the question lapses at once. -/
  begins : ∀ line m command invocation, (SessionAct.line line).message? = some m →
    s.Free m.context.author.id →
    String.ofList (trimStart m.text.toList) ≠ s.settings.mark ++ "help" →
    (s.dispatcher.decide s.timers.clock s.cooldowns m).1 = .run command invocation →
    command.handler? = some .confirm → s.timers.clock + limit.nanos ≤ Timers.horizon →
    ∃ more, (s.take (.line line)).1 = ("are you sure? (yes/no)" :: more, none) ∧
      if limit.nanos = 0 then Question.lapse ⟨s.waiter.nextId, command, invocation⟩ <:+: more
      else ∃ timer, (s.take (.line line)).2.Pends ⟨s.waiter.nextId, command, invocation⟩ timer
        (s.timers.clock + limit.nanos)
  /-- The next message of the user is the answer and nothing else: the question is gone with its
  timer, and the rest of the session is as it was. -/
  answered : ∀ q timer deadline, s.Pends q timer deadline → ∀ line m,
    (SessionAct.line line).message? = some m → m.context.author.id = q.user →
    s.take (.line line) = ((q.reply m.text, none),
      { s.erase q.listener with timers := (s.timers.cancel timer).2 }) ∧
      (s.take (.line line)).2.Free q.user
  /-- Until then others neither end it nor give it more time, and all that they do goes on as if it
  were not there. -/
  undisturbed : ∀ q timer deadline, s.Pends q timer deadline → ∀ later : List SessionAct,
    (∀ act ∈ later, act.sender? ≠ some q.user) →
    s.timers.clock + SessionAct.elapsed later < deadline →
    (s.run later).2.Pends q timer deadline ∧
      (s.erase q.listener).run later = Prod.map id (·.erase q.listener) (s.run later)
  lapses : ∀ q timer deadline, s.Pends q timer deadline → ∀ nanos,
    deadline ≤ s.timers.clock + nanos →
    q.lapse <:+: (s.take (.advance nanos)).1.1 ∧ q ∉ (s.take (.advance nanos)).2.questions ∧
      (s.take (.advance nanos)).2.Free q.user

variable {acts : List (TimerAct Alarm)} {waits : List Wait} {s : Session} {w : Wait}
  {limit : Duration} {q : Question} {timer deadline : Nat}

/-- Nobody else waits for a user whose wait is over. -/
theorem Books.free {s' : Session} {keep : Wait → Bool} (h : Books waits s) (hw : w ∈ waits)
    (h' : Books (waits.filter keep) s') (hgone : keep w = false) : s'.Free w.user := by
  intro entry hentry text
  obtain ⟨v, hv, rfl⟩ := List.mem_map.mp (h'.listeners ▸ hentry)
  obtain ⟨hv, hkept⟩ := List.mem_filter.mp hv
  refine beq_eq_false_iff_ne.mpr fun huser => ?_
  cases List.inj_on_of_nodup_map h.users hv hw huser.symm
  exact Bool.false_ne_true (hgone.symm.trans hkept)

theorem AtRest.pends_of_due (h : AtRest acts waits limit s) (hw : w ∈ waits)
    (hasked : w.asked? = some (timer, q)) (hdue : Due acts timer deadline (.listener w.listener)) :
    s.Pends q timer deadline where
  asked := h.books.mem_questions.mpr ⟨w, hw, timer, hasked⟩
  listens := by
    refine ⟨w.entry.2, ?_, ?_⟩
    · rw [h.books.listeners, (w.asked timer q hasked).1]
      exact List.mem_map_of_mem hw
    · rw [Wait.entry, hasked]
      rfl
  armed := (h.minds.reflects.armed timer).mpr hdue.1
  listed := (h.minds.reflects.mem_agenda_iff h.minds.running h.settled hdue.1).mpr ⟨_, hdue.2⟩

/-- A question that pends has a wait and a timer that is due at its deadline. -/
theorem AtRest.pends_iff (h : AtRest acts waits limit s) : s.Pends q timer deadline ↔
    ∃ w ∈ waits, w.asked? = some (timer, q) ∧ Due acts timer deadline (.listener w.listener) := by
  constructor
  · intro hpends
    obtain ⟨w, hw, other, hasked⟩ := h.books.mem_questions.mp hpends.asked
    obtain ⟨l, hl, htimer⟩ := hpends.listens
    obtain ⟨v, hv, hentry⟩ := List.mem_map.mp (h.books.listeners ▸ hl)
    have hlistener : v.listener = w.listener :=
      (congrArg Prod.fst hentry).trans (w.asked other q hasked).1
    cases List.inj_on_of_nodup_map h.books.ids hv hw hlistener
    have hother : w.entry.2.timer? = l.timer? := congrArg (·.2.timer?) hentry
    rw [htimer, Wait.entry, hasked] at hother
    cases hother
    obtain ⟨due, hdue⟩ := h.minds.exists_due hw hasked
    obtain ⟨job, hset⟩ := (h.minds.reflects.mem_agenda_iff h.minds.running h.settled hdue.1).mp
      hpends.listed
    cases hset.symm.trans hdue.2
    exact ⟨w, hw, hasked, hdue⟩
  · rintro ⟨w, hw, hasked, hdue⟩
    exact h.pends_of_due hw hasked hdue

namespace Session

theorem ask_ok (command : Command Action) (invocation : Invocation)
    (h : s.timers.clock + s.waiter.defaultTimeout.nanos ≤ Timers.horizon) :
    (s.ask command invocation).1 = .ok s.waiter.nextId ∧
      ⟨s.waiter.nextId, command, invocation⟩ ∈ (s.ask command invocation).2.questions := by
  obtain ⟨set, hset⟩ := exists_schedule_eq_ok h (.listener s.waiter.nextId)
  unfold ask EventWaiter.wait
  dsimp only
  rw [Option.getD_none, hset]
  simp [Except.toOption]

theorem receive_confirm {m : Message} {command : Command Action} {invocation : Invocation}
    (hfree : s.receive m = s.handle m)
    (hhelp : String.ofList (trimStart m.text.toList) ≠ s.settings.mark ++ "help")
    (hdecide : (s.dispatcher.decide s.timers.clock s.cooldowns m).1 = .run command invocation)
    (hhandler : command.handler? = some .confirm)
    (hle : s.timers.clock + s.waiter.defaultTimeout.nanos ≤ Timers.horizon) :
    (s.receive m).1 = ["are you sure? (yes/no)"] ∧
      ⟨s.waiter.nextId, command, invocation⟩ ∈ (s.receive m).2.questions := by
  rw [hfree, handle, if_neg (by simpa using hhelp), dispatch_eq, hdecide, carryOut, hhandler]
  dsimp only
  rw [perform]
  obtain ⟨hok, hmem⟩ := ask_ok (s := { s with
    cooldowns := (s.dispatcher.decide s.timers.clock s.cooldowns m).2 }) command invocation hle
  generalize ask _ command invocation = asked at hok hmem ⊢
  obtain ⟨answer, later⟩ := asked
  cases hok
  exact ⟨rfl, hmem⟩

end Session

/-- Whoever is not waited for can ask to be asked. -/
theorem AtRest.take_confirm (h : AtRest acts waits limit s) {line : String} {m : Message}
    {command : Command Action} {invocation : Invocation}
    (hm : (SessionAct.line line).message? = some m) (hfree : s.Free m.context.author.id)
    (hhelp : String.ofList (trimStart m.text.toList) ≠ s.settings.mark ++ "help")
    (hdecide : (s.dispatcher.decide s.timers.clock s.cooldowns m).1 = .run command invocation)
    (hhandler : command.handler? = some .confirm)
    (hle : s.timers.clock + limit.nanos ≤ Timers.horizon) :
    ∃ more, (s.take (.line line)).1 = ("are you sure? (yes/no)" :: more, none) ∧
      if limit.nanos = 0 then Question.lapse ⟨s.waiter.nextId, command, invocation⟩ <:+: more
      else ∃ timer, (s.take (.line line)).2.Pends ⟨s.waiter.nextId, command, invocation⟩ timer
        (s.timers.clock + limit.nanos) := by
  have hno : ∀ w ∈ waits, w.user ≠ m.context.author.id := by
    intro w hw huser
    have hwants := hfree w.entry (h.books.listeners ▸ List.mem_map_of_mem hw) m.text
    exact beq_eq_false_iff_ne.mp hwants huser.symm
  have hreceived := Session.receive_confirm (h.books.receive_of_forall hno) hhelp hdecide hhandler
    (h.limit ▸ hle)
  obtain ⟨acts', waits', hmore, horder, hpasses⟩ := h.receive m
  have hclock := h.clock_eq horder hmore
  obtain ⟨w, hw, timer, hasked⟩ := horder.books.mem_questions.mp hreceived.2
  have hnew : w ∉ waits := by
    intro hold
    exact Nat.lt_irrefl _ ((w.asked timer _ hasked).1 ▸ h.books.fresh w hold)
  have hdue := ((hpasses.joins w hw).resolve_left hnew).2 timer _ hasked
  rw [Session.take_of_message h.settled hm, hreceived.1]
  refine ⟨_, rfl, ?_⟩
  split
  · rename_i hzero
    have hnow : s.timers.clock + limit.nanos ≤ (s.receive m).2.timers.clock + 0 := by
      rw [hclock, hzero]
    exact (horder.advance_lapse hw hasked hdue hnow).1
  · rename_i hpositive
    have htime := horder.passes_time 0 0
    have hw' := htime.stays w hw nofun timer _ _ hasked hdue (by rw [hclock]; omega)
    have hrest := horder.atRest 0
    exact ⟨timer, hrest.pends_of_due hw' hasked
      (hrest.minds.due_of_past htime.past hw' hasked hdue)⟩

/-- A session that is in order and at rest deals with its questions as it should. -/
theorem AtRest.confirms (h : AtRest acts waits limit s) : s.Confirms limit where
  alone := h.books.questions_users
  pending := by
    intro q hq
    obtain ⟨w, hw, timer, hasked⟩ := h.books.mem_questions.mp hq
    obtain ⟨deadline, hdue⟩ := h.minds.exists_due hw hasked
    exact ⟨timer, deadline, h.pends_of_due hw hasked hdue,
      h.minds.reflects.lt_deadline h.minds.running h.settled hdue.1 hdue.2⟩
  asked := by
    intro act q hq hnew
    obtain ⟨acts', waits', hrest, hpasses, -⟩ := h.take act
    obtain ⟨w, hw, timer, hasked⟩ := hrest.books.mem_questions.mp hq
    rcases hpasses.joins w hw with hold | ⟨hsender, hdue⟩
    · exact absurd (h.books.mem_questions.mpr ⟨w, hold, timer, hasked⟩) hnew
    · obtain ⟨-, huser⟩ := w.asked timer q hasked
      rw [huser]
      exact ⟨hsender, timer, hrest.pends_of_due hw hasked (hdue timer q hasked)⟩
  begins _ _ _ _ hm hfree hhelp hdecide hhandler hle :=
    h.take_confirm hm hfree hhelp hdecide hhandler hle
  answered := by
    intro q timer deadline hpends line m hm huser
    obtain ⟨w, hw, hasked, -⟩ := h.pends_iff.mp hpends
    obtain ⟨hlistener, hasker⟩ := w.asked timer q hasked
    rw [h.take_answer hw hasked hm (huser.trans hasker), hlistener, hasker]
    have hbooks : Books (waits.filter (·.listener != w.listener))
        { s.erase w.listener with timers := (s.timers.cancel timer).2 } :=
      (h.books.erase w.listener).congr rfl rfl
    exact ⟨rfl, h.books.free hw hbooks (by simp)⟩
  undisturbed := by
    intro q timer deadline hpends later hothers hahead
    obtain ⟨w, hw, hasked, hdue⟩ := h.pends_iff.mp hpends
    obtain ⟨hlistener, huser⟩ := w.asked timer q hasked
    obtain ⟨herase, acts', waits', hrest, hw', hdue'⟩ :=
      h.run_erase hw hasked hdue (huser ▸ hothers) hahead
    exact ⟨hrest.pends_of_due hw' hasked hdue', hlistener ▸ herase⟩
  lapses := by
    intro q timer deadline hpends nanos hpast
    obtain ⟨w, hw, hasked, hdue⟩ := h.pends_iff.mp hpends
    obtain ⟨hprinted, hquestion⟩ := h.advance_lapse hw hasked hdue hpast
    have halarm := (h.listener_mem_alarms_iff hw hasked hdue nanos).mpr hpast
    refine ⟨hprinted, hquestion, ?_⟩
    rw [(w.asked timer q hasked).2]
    exact h.books.free hw (h.advance nanos).books (by simpa using halarm)

/-- Whatever is done leaves all in order and at rest. -/
theorem AtRest.run {s : Session} (h : AtRest acts waits limit s) (later : List SessionAct) :
    ∃ acts' waits', AtRest acts' waits' limit (s.run later).2 := by
  induction later generalizing s acts waits with
  | nil => exact ⟨acts, waits, h⟩
  | cons act later ih =>
    obtain ⟨acts', waits', hrest, -, -⟩ := h.take act
    exact ih hrest

theorem exists_catalog : ∃ listed, catalog = .ok listed := by
  have hok : catalog.toOption.isSome = true := by decide +kernel
  cases hcatalog : catalog with
  | error e => simp [hcatalog, Except.toOption] at hok
  | ok listed => exact ⟨listed, rfl⟩

theorem atRest_start {settings : Settings} {s : Session} (h : Session.start settings = .ok s) :
    AtRest [] [] settings.waiterTimeout s := by
  unfold Session.start at h
  obtain ⟨listed, hcatalog⟩ := exists_catalog
  rw [hcatalog] at h
  cases h
  refine ⟨⟨⟨rfl, rfl, .nil, .nil, nofun⟩, ⟨reflects_start, nofun, ?_⟩, nofun, rfl⟩, ?_⟩
  · exact fun timer id => iff_of_false (fun ⟨_, hdue⟩ => Nat.not_lt_zero _ hdue.1.1) nofun
  · rfl

/-- From the start of a session on, whatever is typed and however much time passes, confirmations
are private to their users, take one line each, and lapse. They lapse on time where the task wakes
at the exact moment of a deadline, as in `TimedTimers.advance`. -/
theorem session_confirms (settings : Settings) (acts : List SessionAct) :
    ∃ s, Session.start settings = .ok s ∧ (s.run acts).2.Confirms settings.waiterTimeout := by
  obtain ⟨listed, hcatalog⟩ := exists_catalog
  obtain ⟨s, hs⟩ : ∃ s, Session.start settings = .ok s := by
    rw [Session.start, hcatalog]
    exact ⟨_, rfl⟩
  obtain ⟨acts', waits', hrest⟩ := (atRest_start hs).run acts
  exact ⟨s, hs, hrest.confirms⟩

-- another user's line goes past the question, the asker's own next line answers it, and a
-- question left alone is dropped
example : (Session.start {}).toOption.map (fun s => (s.run [.line "-confirm", .line "as 2 -ping",
    .line "YES", .line "-confirm", .advance 30000000000]).1.map fun out => out.1) =
    some [["are you sure? (yes/no)"], ["pong!"], ["confirmed"], ["are you sure? (yes/no)"],
      ["timed out waiting for an answer", "confirm was cancelled"]] := by
  decide +kernel

end ChatCommands.Console
