import ChatCommands.Dispatcher.Basic
import ChatCommands.Proofs.Cooldown.Window
import ChatCommands.Proofs.Resolution.Selection

/-! # Stages of a dispatch

Whether a message gets past a stage is said of each stage on its own. The first stage at which a
message fails settles its outcome and leaves the cooldowns alone; a message that fails at none has
the handler of its command run, behind a fresh window of the cooldown of that command. The dispatch
breaks off instead if that window would close past the horizon.
-/

namespace ChatCommands

open Text

variable {H : Type}

namespace Dispatcher

inductive Stage
  | leadIn
  | resolution
  | location
  | botAuthor
  | developer
  | callerPermissions
  | agentPermissions
  | cooldown
  deriving DecidableEq, Repr

/-- All stages, in the order in which a message comes to them. -/
def Stage.all : List Stage :=
  [.leadIn, .resolution, .location, .botAuthor, .developer, .callerPermissions, .agentPermissions,
    .cooldown]

variable {d : Dispatcher H} {now : Nat} {cooldowns : CooldownTable} {m : Message}

/-- What the text after the lead-in is resolved to. -/
def resolution? (d : Dispatcher H) (m : Message) : Option (Resolution H) :=
  (d.leadIns.strip? m.text.toList m.context).map fun cut =>
    d.catalog.resolve cut.2 (d.environment m.context)

/-- What the message fits, if it fits a command. -/
def fit? (d : Dispatcher H) (m : Message) : Option (Fit H) :=
  (d.resolution? m).bind (·.fit?)

/-- The outcome of a message that fails at a stage. -/
def failure? (d : Dispatcher H) (now : Nat) (cooldowns : CooldownTable) (m : Message) :
    Stage → Option (Outcome H)
  | .leadIn => if (d.leadIns.strip? m.text.toList m.context).isNone then some .noMatch else none
  | .resolution => (d.resolution? m).bind fun
    | .noMatch => some .noMatch
    | .invalid c => some (.invalidArguments c)
    | .matched _ => none
  | .location => (d.fit? m).bind fun fit =>
    if fit.command.isTriggerableIn m.context then none else some (.notTriggerableHere fit.command)
  | .botAuthor => (d.fit? m).bind fun fit =>
    if m.context.author.bot && !fit.command.byBots then some (.botAuthorRejected fit.command)
    else none
  | .developer => (d.fit? m).bind fun fit =>
    if fit.command.developerOnly && !d.isDeveloper m.context then some (.developerOnly fit.command)
    else none
  | .callerPermissions => (d.fit? m).bind fun fit =>
    match d.permissions.missingCaller m.context fit.command.callerPermissions with
    | [] => none
    | missing => some (.missingCallerPermissions fit.command missing)
  | .agentPermissions => (d.fit? m).bind fun fit =>
    match d.permissions.missingAgent m.context fit.command.agentPermissions with
    | [] => none
    | missing => some (.missingAgentPermissions fit.command missing)
  | .cooldown => (d.fit? m).bind fun fit => fit.command.cooldown?.bind fun cooldown =>
    if cooldown.duration.nanos = 0 then none
    else (cooldowns.left? now (cooldown.key fit.command.id m.context)).map (.onCooldown fit.command)

/-- The outcome of the first stage at which the message fails. -/
def firstFailure? (d : Dispatcher H) (now : Nat) (cooldowns : CooldownTable) (m : Message) :
    Option (Outcome H) :=
  Stage.all.findSome? (d.failure? now cooldowns m)

/-- The key and the end of the window that a dispatch to the command opens. -/
def window? (c : Command H) (ctx : Context) (now : Nat) : Option (CooldownKey × Nat) :=
  c.cooldown?.bind fun cooldown =>
    if cooldown.duration.nanos = 0 then none
    else some (cooldown.key c.id ctx, now + cooldown.duration.nanos)

/-- The window that a dispatch to the command opens would close past the horizon. -/
def Overruns (c : Command H) (now : Nat) : Prop :=
  ∃ cooldown, c.cooldown? = some cooldown ∧ cooldown.duration.nanos ≠ 0 ∧
    Timers.horizon < now + cooldown.duration.nanos

theorem resolution?_of_strip? {cut : List Char × List Char}
    (h : d.leadIns.strip? m.text.toList m.context = some cut) :
    d.resolution? m = some (d.catalog.resolve cut.2 (d.environment m.context)) := by
  rw [resolution?, h, Option.map_some]

theorem fit?_eq_some_iff {fit : Fit H} :
    d.fit? m = some fit ↔ ∃ leadIn rest,
      d.leadIns.strip? m.text.toList m.context = some (leadIn, rest) ∧
        d.catalog.resolve rest (d.environment m.context) = .matched fit := by
  simp only [fit?, resolution?, Option.bind_map, Option.bind_eq_some_iff, Function.comp_apply,
    Resolution.fit?_eq_some_iff, Prod.exists]

/-- A command that is there for its sub-commands only fits no message. -/
theorem isInvocable_of_fit? {fit : Fit H} (h : d.fit? m = some fit) :
    fit.command.isInvocable = true := by
  obtain ⟨_, _, _, hres⟩ := fit?_eq_some_iff.mp h
  obtain ⟨chain, _, hchain, _⟩ := Catalog.exists_chain_of_matched hres
  obtain ⟨hcommand, _, hinvocable⟩ := Command.fit?_command hchain
  rw [hcommand]
  exact hinvocable

/-- The gates between resolution and cooldown are the row of gates of the command. -/
theorem refusal?_eq_findSome? {fit : Fit H} (h : d.fit? m = some fit) :
    d.refusal? fit.command m.context =
      [Stage.location, .botAuthor, .developer, .callerPermissions, .agentPermissions].findSome?
        (d.failure? now cooldowns m) := by
  simp only [List.findSome?_cons, List.findSome?_nil, failure?, h, Option.bind_some, refusal?]
  cases fit.command.isTriggerableIn m.context with
  | false => rfl
  | true =>
    cases m.context.author.bot && !fit.command.byBots with
    | true => rfl
    | false =>
      cases fit.command.developerOnly && !d.isDeveloper m.context with
      | true => rfl
      | false =>
        cases d.permissions.missingCaller m.context fit.command.callerPermissions with
        | nil => cases d.permissions.missingAgent m.context fit.command.agentPermissions <;> rfl
        | cons node nodes => rfl

theorem failure?_leadIn_of_strip? {cut : List Char × List Char}
    (h : d.leadIns.strip? m.text.toList m.context = some cut) :
    d.failure? now cooldowns m .leadIn = none := by
  simp [failure?, h]

theorem firstFailure?_of_no_leadIn (h : d.leadIns.strip? m.text.toList m.context = none) :
    d.firstFailure? now cooldowns m = some .noMatch := by
  have hlead : d.failure? now cooldowns m .leadIn = some .noMatch := by simp [failure?, h]
  rw [firstFailure?, Stage.all, List.findSome?_cons, hlead]

theorem firstFailure?_of_resolution {cut : List Char × List Char} {o : Outcome H}
    (hstrip : d.leadIns.strip? m.text.toList m.context = some cut)
    (h : d.failure? now cooldowns m .resolution = some o) :
    d.firstFailure? now cooldowns m = some o := by
  rw [firstFailure?, Stage.all, List.findSome?_cons, failure?_leadIn_of_strip? hstrip,
    List.findSome?_cons, h]

theorem firstFailure?_of_fit? {fit : Fit H} (h : d.fit? m = some fit) :
    d.firstFailure? now cooldowns m =
      (d.refusal? fit.command m.context).or (d.failure? now cooldowns m .cooldown) := by
  obtain ⟨leadIn, rest, hstrip, hres⟩ := fit?_eq_some_iff.mp h
  have hresolution : d.failure? now cooldowns m .resolution = none := by
    simp [failure?, resolution?_of_strip? hstrip, hres]
  have hall : Stage.all = [.leadIn, .resolution] ++
      ([.location, .botAuthor, .developer, .callerPermissions, .agentPermissions] ++
        [.cooldown]) := rfl
  rw [firstFailure?, hall, List.findSome?_append, List.findSome?_append, ← refusal?_eq_findSome? h,
    List.findSome?_cons, failure?_leadIn_of_strip? hstrip, List.findSome?_cons, hresolution,
    List.findSome?_nil, Option.none_or, List.findSome?_singleton]

/-- A cooldown of the command that is open fails the message. Otherwise its window is opened, unless
that would close past the horizon. -/
theorem startCooldown_cases (now : Nat) (cooldowns : CooldownTable) {fit : Fit H}
    (h : d.fit? m = some fit) :
    (∃ left, d.failure? now cooldowns m .cooldown = some (.onCooldown fit.command left) ∧
      startCooldown fit.command m.context now cooldowns = (.ok (some left), cooldowns)) ∨
    (d.failure? now cooldowns m .cooldown = none ∧ Overruns fit.command now ∧
      ∃ kept, startCooldown fit.command m.context now cooldowns = (.error .pastHorizon, kept) ∧
        ∀ later key, now ≤ later → kept.left? later key = cooldowns.left? later key) ∨
    (d.failure? now cooldowns m .cooldown = none ∧ ¬Overruns fit.command now ∧
      ∃ opened, startCooldown fit.command m.context now cooldowns = (.ok none, opened) ∧
        ∀ key, opened.lookup key =
          match window? fit.command m.context now with
          | none => cooldowns.lookup key
          | some (own, expiry) => if key = own then some expiry else cooldowns.lookup key) := by
  simp only [failure?, h, Option.bind_some, startCooldown, window?, Overruns]
  cases hc : fit.command.cooldown? with
  | none => exact Or.inr (Or.inr ⟨rfl, by simp, cooldowns, rfl, fun _ => rfl⟩)
  | some cooldown =>
    simp only [Option.bind_some, Option.some.injEq, exists_eq_left']
    by_cases hz : cooldown.duration.nanos = 0
    · rw [if_pos hz, if_pos hz]
      exact Or.inr (Or.inr ⟨rfl, by simp [hz], cooldowns, CooldownTable.check_of_zero hz,
        fun _ => rfl⟩)
    · rw [if_neg hz, if_neg hz]
      cases hl : cooldowns.left? now (cooldown.key fit.command.id m.context) with
      | some left => exact Or.inl ⟨left, rfl, CooldownTable.check_of_open hz hl⟩
      | none =>
        by_cases hlt : Timers.horizon < now + cooldown.duration.nanos
        · exact Or.inr (Or.inl ⟨rfl, ⟨hz, hlt⟩, _, CooldownTable.check_of_past hz hl hlt,
            fun later key hle => CooldownTable.left?_remaining hle key⟩)
        · exact Or.inr (Or.inr ⟨rfl, fun h => hlt h.2,
            CooldownTable.check_of_closed hz hl (Nat.not_lt.mp hlt)⟩)

/-- A message that fits no command fails before it comes to the gates. -/
theorem firstFailure?_of_no_fit (now : Nat) (cooldowns : CooldownTable) (h : d.fit? m = none) :
    ∃ o, d.firstFailure? now cooldowns m = some o ∧
      d.decide now cooldowns m = (.settled o, cooldowns) := by
  unfold decide
  cases hstrip : d.leadIns.strip? m.text.toList m.context with
  | none => exact ⟨.noMatch, firstFailure?_of_no_leadIn hstrip, rfl⟩
  | some cut =>
    obtain ⟨leadIn, rest⟩ := cut
    have hresolution := resolution?_of_strip? hstrip
    simp only
    cases hres : d.catalog.resolve rest (d.environment m.context) with
    | noMatch =>
      exact ⟨.noMatch, firstFailure?_of_resolution hstrip (by simp [failure?, hresolution, hres]),
        rfl⟩
    | invalid c =>
      exact ⟨.invalidArguments c,
        firstFailure?_of_resolution hstrip (by simp [failure?, hresolution, hres]), rfl⟩
    | matched fit =>
      rw [fit?_eq_some_iff.mpr ⟨leadIn, rest, hstrip, hres⟩] at h
      cases h

theorem decide_of_failure {o : Outcome H} (h : d.firstFailure? now cooldowns m = some o) :
    d.decide now cooldowns m = (.settled o, cooldowns) := by
  cases hfit : d.fit? m with
  | none =>
    obtain ⟨other, hother, hdecide⟩ := firstFailure?_of_no_fit now cooldowns hfit
    rw [h] at hother
    cases hother
    exact hdecide
  | some fit =>
    obtain ⟨leadIn, rest, hstrip, hres⟩ := fit?_eq_some_iff.mp hfit
    rw [firstFailure?_of_fit? hfit] at h
    unfold decide
    simp only [hstrip, hres]
    cases hr : d.refusal? fit.command m.context with
    | some refused =>
      rw [hr, Option.some_or] at h
      cases h
      rfl
    | none =>
      rw [hr, Option.none_or] at h
      obtain ⟨left, hcool, hstart⟩ | ⟨hcool, -⟩ | ⟨hcool, -⟩ :=
        startCooldown_cases now cooldowns hfit
      · rw [hcool] at h
        cases h
        simp only [hstart]
      · rw [hcool] at h
        cases h
      · rw [hcool] at h
        cases h

theorem exists_fit_of_no_failure (h : d.firstFailure? now cooldowns m = none) :
    ∃ fit, d.fit? m = some fit := by
  cases hfit : d.fit? m with
  | none =>
    obtain ⟨o, ho, -⟩ := firstFailure?_of_no_fit now cooldowns hfit
    rw [h] at ho
    cases ho
  | some fit => exact ⟨fit, rfl⟩

/-- A message that fails at no stage has its handler run, behind a window that only its own key
sees, or breaks off with all windows as they are. -/
theorem decide_of_no_failure (h : d.firstFailure? now cooldowns m = none) :
    ∃ leadIn rest fit, d.leadIns.strip? m.text.toList m.context = some (leadIn, rest) ∧
      d.fit? m = some fit ∧
      ((Overruns fit.command now ∧
        ∃ kept, d.decide now cooldowns m = (.broken .pastHorizon, kept) ∧
          ∀ later key, now ≤ later → kept.left? later key = cooldowns.left? later key) ∨
      ¬Overruns fit.command now ∧ ∃ opened,
        d.decide now cooldowns m =
          (.run fit.command ⟨fit.arguments, fit.switches, m.context, m.text, String.ofList leadIn,
            fit.trigger⟩, opened) ∧
        ∀ key, opened.lookup key =
          match window? fit.command m.context now with
          | none => cooldowns.lookup key
          | some (own, expiry) => if key = own then some expiry else cooldowns.lookup key) := by
  obtain ⟨fit, hfit⟩ := exists_fit_of_no_failure h
  obtain ⟨leadIn, rest, hstrip, hres⟩ := fit?_eq_some_iff.mp hfit
  rw [firstFailure?_of_fit? hfit, Option.or_eq_none_iff] at h
  refine ⟨leadIn, rest, fit, hstrip, hfit, ?_⟩
  unfold decide
  obtain ⟨left, hcool, -⟩ | ⟨-, hpast, kept, hstart, hkept⟩ | ⟨-, hin, opened, hstart, hlookup⟩ :=
    startCooldown_cases now cooldowns hfit
  · rw [h.2] at hcool
    cases hcool
  · left
    refine ⟨hpast, kept, ?_, hkept⟩
    simp only [hstrip, hres, h.1, hstart]
  · right
    refine ⟨hin, opened, ?_, hlookup⟩
    simp only [hstrip, hres, h.1, hstart]

/-- Only a message that fails at no stage has its handler run. -/
theorem exists_fit_of_run {c : Command H} {invocation : Invocation}
    (h : (d.decide now cooldowns m).1 = .run c invocation) :
    ∃ fit, d.fit? m = some fit ∧ fit.command = c ∧ d.refusal? c m.context = none ∧
      invocation.context = m.context := by
  cases hfail : d.firstFailure? now cooldowns m with
  | some outcome =>
    rw [decide_of_failure hfail] at h
    cases h
  | none =>
    obtain ⟨_, _, fit, -, hfit, ⟨-, _, hdecide, -⟩ | ⟨-, _, hdecide, -⟩⟩ :=
      decide_of_no_failure hfail
    · rw [hdecide] at h
      cases h
    · rw [hdecide] at h
      cases h
      rw [firstFailure?_of_fit? hfit, Option.or_eq_none_iff] at hfail
      exact ⟨fit, hfit, rfl, hfail.1, rfl⟩

end Dispatcher

end ChatCommands
