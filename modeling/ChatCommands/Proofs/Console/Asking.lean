import ChatCommands.Proofs.Console.Confirmation
import ChatCommands.Proofs.LeadIn.Stripping
import ChatCommands.Proofs.Resolution.Registration
import ChatCommands.Proofs.Text.Trim

/-! # How a question comes to be asked

Nothing that is done at a console changes its settings or its commands. So the line that asks for a
confirmation does so at any time, unless its user is waited for already.
-/

namespace ChatCommands.Console

open Text

/-! ## What never changes -/

namespace Session

variable {s : Session}

/-- What a session was started with. -/
def setup (s : Session) : Settings × Dispatcher Action :=
  (s.settings, s.dispatcher)

theorem setup_answer (s : Session) (listener : Nat) (reply? : Option String) :
    (s.answer listener reply?).2.setup = s.setup := by
  unfold answer
  split <;> rfl

theorem setup_answerAll (s : Session) (listeners : List Nat) (reply : String) :
    (s.answerAll listeners reply).2.setup = s.setup := by
  induction listeners generalizing s with
  | nil => rfl
  | cons listener rest ih => exact (ih _).trans (s.setup_answer listener (some reply))

theorem setup_ring (s : Session) (alarm : Alarm) : (s.ring alarm).2.setup = s.setup := by
  cases alarm with
  | reminder user text => rfl
  | listener id =>
    unfold ring
    dsimp only
    split
    · exact setup_answer { s with waiter := (s.waiter.expire id).2 } id none
    · rfl
  | pages =>
    unfold ring
    dsimp only
    split <;> rfl

theorem setup_ringAll (s : Session) (alarms : List Alarm) :
    (s.ringAll alarms).2.setup = s.setup := by
  induction alarms generalizing s with
  | nil => rfl
  | cons alarm rest ih => exact (ih _).trans (s.setup_ring alarm)

theorem setup_advance (s : Session) (now : Nat) : (s.advance now).2.setup = s.setup :=
  setup_ringAll { s with timers := (s.timers.advance now).2 } _

theorem setup_openPages (s : Session) : s.openPages.2.setup = s.setup := by
  unfold openPages
  dsimp only
  split <;> rfl

theorem setup_showPage (s : Session) (page? : Except TimerError (Option String)) :
    (s.showPage page?).2.setup = s.setup := by
  cases page? <;> rfl

theorem setup_turnPages (s : Session) (direction : String) :
    (s.turnPages direction).2.setup = s.setup := by
  unfold turnPages
  split
  · rfl
  · split
    · exact (setup_showPage _ _).trans s.setup_openPages
    · split
      · rfl
      · rfl
      · exact setup_showPage _ _

theorem setup_perform (s : Session) (command : Command Action) (invocation : Invocation)
    (action : Action) : (s.perform command invocation action).2.2.setup = s.setup := by
  cases action with
  | remind =>
    simp only [perform, remind]
    split
    · rfl
    · cases s.timers.schedule _ _ <;> rfl
  | confirm =>
    have hask : (s.ask command invocation).2.setup = s.setup := rfl
    simp only [perform]
    generalize s.ask command invocation = asked at hask ⊢
    obtain ⟨e | listener, later⟩ := asked <;> exact hask
  | pages =>
    have hturned := s.setup_turnPages ((textAt invocation 0).getD "first")
    simp only [perform]
    generalize s.turnPages ((textAt invocation 0).getD "first") = turned at hturned ⊢
    obtain ⟨ending | shown, later⟩ := turned <;> exact hturned
  | ping | addIntegers | addFloats | sum | say | createChannel | deleteChannel | panic =>
    rw [perform_still_snd command invocation]
    decide

theorem setup_carryOut (s : Session) (decision : Decision Action) :
    (s.carryOut decision).2.setup = s.setup := by
  unfold carryOut
  split
  · rfl
  · rfl
  · rename_i command invocation
    split
    · rfl
    · rename_i action _
      have hperformed := s.setup_perform command invocation action
      generalize s.perform command invocation action = performed at hperformed ⊢
      obtain ⟨printed, ending | listener, later⟩ := performed <;> exact hperformed

theorem setup_receive (s : Session) (m : Message) : (s.receive m).2.setup = s.setup := by
  rw [receive_eq]
  unfold deliver
  split
  · exact setup_answerAll { s with waiter := _, timers := _ } _ _
  · unfold handle
    split
    · rfl
    · exact setup_carryOut { s with waiter := _, timers := _, cooldowns := _ } _

theorem setup_feed (s : Session) (now : Nat) (line : String) :
    (s.feed now line).2.2.setup = s.setup := by
  unfold feed
  dsimp only
  split
  · exact s.setup_advance now
  · split
    · exact s.setup_advance now
    · exact (setup_receive _ _).trans (s.setup_advance now)

theorem setup_take (s : Session) (act : SessionAct) : (s.take act).2.setup = s.setup := by
  cases act with
  | line text => exact (setup_advance _ _).trans (s.setup_feed _ _)
  | advance nanos => exact s.setup_advance _

theorem setup_run (s : Session) (acts : List SessionAct) : (s.run acts).2.setup = s.setup := by
  induction acts generalizing s with
  | nil => rfl
  | cons act acts ih => exact (ih _).trans (s.setup_take act)

end Session

/-! ## The command that asks -/

/-- A command that anybody may give anywhere, at any time and with nothing behind it. -/
@[mk_iff]
structure Bare (c : Command Action) : Prop where
  parameters : c.parameters = []
  switches : c.switches = []
  subcommands : c.subcommands.isEmpty = true
  cooldown : c.cooldown? = none
  guilds : c.inGuilds = true
  direct : c.inPrivate = true
  developers : c.developerOnly = false
  caller : c.callerPermissions = []
  agent : c.agentPermissions = []

instance (c : Command Action) : Decidable (Bare c) :=
  decidable_of_iff _ (bare_iff c).symm

variable {c : Command Action} {action : Action} {d : Dispatcher Action} {m : Message}
  {leadIn rest word : List Char}

theorem Bare.fit? (h : Bare c) (hhandler : c.handler? = some action) (trigger : String)
    (env : Environment) : c.fit? trigger [] env = some ⟨c, trigger, [], []⟩ := by
  have htokens : Token.all true (trim [] ++ ' ' :: trim []) = [] := by decide +kernel
  rw [Command.fit?, Signature.isInvocable, hhandler, Command.sections, h.switches, h.parameters]
  simp [Switch.cut?, Parameter.arguments?, Switch.read, htokens, Switch.items, Except.map,
    Switch.givenOf, Switch.plainOf, isBlank]

theorem Bare.refusal? (h : Bare c) (hpermissions : d.permissions = .granted) {ctx : Context}
    (hbot : ctx.author.bot = false) : d.refusal? c ctx = none := by
  simp [Dispatcher.refusal?, Signature.isTriggerableIn, h.guilds, h.direct, hbot, h.developers,
    h.caller, h.agent, hpermissions, PermissionModel.granted, missingFrom]

/-- When a bare command alone answers to the word of a message, it is run. -/
theorem Bare.decide (h : Bare c) (hhandler : c.handler? = some action)
    (hstrip : d.leadIns.strip? m.text.toList m.context = some (leadIn, rest))
    (hword : splitTrigger rest = (word, [])) (hne : word ≠ [])
    (hfound : d.catalog.root.candidates (String.ofList word) = [c])
    (hpermissions : d.permissions = .granted) (hbot : m.context.author.bot = false) (now : Nat)
    (cooldowns : CooldownTable) :
    ∃ invocation, (d.decide now cooldowns m).1 = .run c invocation := by
  have hresolve : d.catalog.resolve rest (d.environment m.context) =
      .matched ⟨c, String.ofList word, [], []⟩ := by
    rw [Catalog.resolve, Level.resolve_eq_choose (by rwa [hword]), hword, hfound, Level.choose,
      Level.below]
    simp [h.subcommands, h.fit? hhandler]
  rw [Dispatcher.decide, hstrip]
  simp [hresolve, h.refusal? hpermissions hbot, Dispatcher.startCooldown, h.cooldown]

theorem exists_confirm : ∃ listed c, catalog = .ok listed ∧
    listed.root.candidates "confirm" = [c] ∧ Bare c ∧ c.handler? = some .confirm := by
  obtain ⟨listed, hlisted⟩ := exists_catalog
  have hfound : catalog.toOption.map (fun listed => (listed.root.candidates "confirm").map
      fun c => (decide (Bare c), c.handler?)) = some [(true, some .confirm)] := by decide +kernel
  rw [hlisted, Except.toOption, Option.map_some, Option.some.injEq] at hfound
  obtain ⟨c, hcandidates, hc⟩ := List.map_eq_singleton_iff.mp hfound
  obtain ⟨hbare, hhandler⟩ := Prod.mk.inj hc
  exact ⟨listed, c, hlisted, hcandidates, of_decide_eq_true hbare, hhandler⟩

/-! ## The line that asks -/

theorem bot_of_message? {line : String} (h : (SessionAct.line line).message? = some m) :
    m.context.author.bot = false := by
  rw [SessionAct.message?] at h
  split at h
  · cases h
  · rw [parseLine] at h
    cases hsender : sender (trim line.toList) with
    | error e =>
      rw [hsender] at h
      cases h
    | ok sent =>
      rw [hsender] at h
      cases h
      dsimp only
      split <;> rfl

/-- A message that ends in another word does not ask for help. -/
theorem ne_help (hstrip : d.leadIns.strip? m.text.toList m.context = some (leadIn, rest))
    (hword : splitTrigger rest = ("confirm".toList, [])) (mark : String) :
    String.ofList (trimStart m.text.toList) ≠ mark ++ "help" := by
  intro hhelp
  have hlast : m.text.toList.getLast? = some 'p' := by
    obtain ⟨before, -, hbefore⟩ := exists_blank_trimStart m.text.toList
    rw [hbefore, ← String.toList_ofList (l := trimStart _), hhelp, String.toList_append]
    simp
  obtain ⟨before, -, hbefore⟩ := exists_blank_trimStart rest
  obtain ⟨hconfirm, hafter⟩ := Prod.mk.inj hword
  rw [← (LeadIns.strip?_eq_iff.mp hstrip).append_eq, hbefore,
    ← List.takeWhile_append_dropWhile (p := (!isSpace ·)) (l := trimStart rest), hconfirm] at hlast
  generalize (trimStart rest).dropWhile (!isSpace ·) = after at hafter hlast
  rw [← List.append_assoc, ← List.append_assoc, List.getLast?_append] at hlast
  cases hend : after.getLast? with
  | none => simp [hend] at hlast
  | some c =>
    have hblank := List.all_eq_true.mp (isBlank_iff.mpr hafter) c (List.mem_of_getLast? hend)
    rw [hend, Option.some_or, Option.some.injEq] at hlast
    rw [hlast] at hblank
    cases hblank

/-- A line asks a user for a confirmation, and waits for the answer if there is any time for it. -/
def Session.Asks (s : Session) (line : String) (user : UInt64) (limit : Duration) : Prop :=
  ∃ more q, (s.take (.line line)).1 = ("are you sure? (yes/no)" :: more, none) ∧ q.user = user ∧
    if limit.nanos = 0 then q.lapse <:+: more
    else ∃ timer, (s.take (.line line)).2.Pends q timer (s.timers.clock + limit.nanos)

variable {settings : Settings}

/-- From the start of a session on, whoever gives the command for it is asked to confirm, unless
somebody waits for this user already. -/
theorem confirm_asks (acts : List SessionAct) {line : String}
    (hm : (SessionAct.line line).message? = some m)
    (hstrip : settings.leadIns.strip? m.text.toList m.context = some (leadIn, rest))
    (hword : splitTrigger rest = ("confirm".toList, [])) :
    ∃ s, Session.start settings = .ok s ∧ ((s.run acts).2.Free m.context.author.id →
      (s.run acts).2.timers.clock + settings.waiterTimeout.nanos ≤ Timers.horizon →
      (s.run acts).2.Asks line m.context.author.id settings.waiterTimeout) := by
  obtain ⟨listed, c, hlisted, hfound, hbare, hhandler⟩ := exists_confirm
  obtain ⟨s, hs⟩ : ∃ s, Session.start settings = .ok s := by
    rw [Session.start, hlisted]
    exact ⟨_, rfl⟩
  refine ⟨s, hs, fun hfree hle => ?_⟩
  have hstart := hs
  rw [Session.start, hlisted] at hstart
  obtain ⟨hsettings, hdispatcher⟩ := Prod.mk.inj (s.setup_run acts)
  obtain ⟨acts', waits', hrest⟩ := (atRest_start hs).run acts
  generalize (s.run acts).2 = later at *
  have hlater : later.dispatcher = .ofSettings settings listed .standard := by
    rw [hdispatcher]
    cases hstart
    rfl
  have hcut : later.dispatcher.leadIns.strip? m.text.toList m.context = some (leadIn, rest) := by
    rw [hlater]
    exact hstrip
  obtain ⟨invocation, hdecide⟩ := hbare.decide hhandler hcut hword (by decide)
    (by rw [hlater]; exact hfound) (by rw [hlater]; rfl) (bot_of_message? hm) later.timers.clock
    later.cooldowns
  obtain ⟨more, hprinted, hasked⟩ := hrest.take_confirm hm hfree (ne_help hcut hword _) hdecide
    hhandler hle
  refine ⟨more, _, hprinted, ?_, hasked⟩
  obtain ⟨-, -, -, -, hcontext⟩ := Dispatcher.exists_fit_of_run hdecide
  exact congrArg (·.author.id) hcontext

/-- With the usual mark this is what the line `-confirm` does, whatever else is configured. -/
theorem confirm_line_asks (hmark : settings.mark = "-") (acts : List SessionAct) :
    ∃ s, Session.start settings = .ok s ∧ ((s.run acts).2.Free 1 →
      (s.run acts).2.timers.clock + settings.waiterTimeout.nanos ≤ Timers.horizon →
      (s.run acts).2.Asks "-confirm" 1 settings.waiterTimeout) := by
  have hm : (SessionAct.line "-confirm").message? =
      some ⟨"-confirm", contextOf 1 (some homeGuild)⟩ := by decide +kernel
  have hmention : settings.leadIns.cutMention? "-confirm".toList = none := by
    have hnone : Mention.leading? "-confirm".toList = none := by decide +kernel
    unfold LeadIns.cutMention?
    rw [hnone]
    split <;> simp_all
  have hstrip : settings.leadIns.strip? "-confirm".toList (contextOf 1 (some homeGuild)) =
      some ("-".toList, "confirm".toList) := by
    rw [LeadIns.strip?, hmention, Settings.leadIns, hmark]
    rfl
  exact confirm_asks acts hm hstrip (by decide +kernel)

end ChatCommands.Console
