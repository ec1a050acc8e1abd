import Mathlib.Data.List.Induction
import ChatCommands.Proofs.Cooldown.Window

/-! # Cooldowns over time

Cooldowns are checked, asked about and reset while time passes. The table forgets windows that have
closed, but whoever looks at the answers alone sees the windows that checks have opened: each key
has at most one, which stays open for its time unless it is reset, and no other key knows of it.
-/

namespace ChatCommands

/-! ## Who shares a cooldown -/

namespace CooldownScope

/-- The cooldown counts for the author alone. -/
inductive Personal : CooldownScope → Context → Prop
  | user (ctx : Context) : Personal .user ctx
  | inPrivate {ctx : Context} : ctx.isPrivate = true → Personal .guild ctx

/-- Those who run a command in two contexts share its cooldown, whichever scopes it declares. -/
inductive Shared : CooldownScope → Context → CooldownScope → Context → Prop
  | author {s s' : CooldownScope} {a b : Context} : s.Personal a → s'.Personal b →
      a.author.id = b.author.id → Shared s a s' b
  | guild {a b : Context} (id : UInt64) : a.location.guild? = some id →
      b.location.guild? = some id → Shared .guild a .guild b
  | channel {a b : Context} : a.location.channel = b.location.channel →
      Shared .channel a .channel b
  | global (a b : Context) : Shared .global a .global b

theorem Personal.key_eq {s : CooldownScope} {ctx : Context} (h : s.Personal ctx) :
    s.key ctx = .user ctx.author.id := by
  cases h with
  | user => rfl
  | inPrivate h =>
    have hnone : ctx.location.guild? = none := by
      simpa [Context.isPrivate, Location.isPrivate] using h
    simp [key, hnone]

/-- A scope either is personal in a context or has a key of its own kind. -/
theorem key_cases (s : CooldownScope) (ctx : Context) :
    s.Personal ctx ∨ (∃ id, s = .guild ∧ ctx.location.guild? = some id ∧ s.key ctx = .guild id) ∨
      (s = .channel ∧ s.key ctx = .channel ctx.location.channel) ∨
      (s = .global ∧ s.key ctx = .global) := by
  cases s with
  | user => exact Or.inl (.user ctx)
  | guild =>
    cases hguild : ctx.location.guild? with
    | none => exact Or.inl (.inPrivate (by simp [Context.isPrivate, Location.isPrivate, hguild]))
    | some id => exact Or.inr (Or.inl ⟨id, rfl, rfl, by simp [key, hguild]⟩)
  | channel => exact Or.inr (Or.inr (Or.inl ⟨rfl, rfl⟩))
  | global => exact Or.inr (Or.inr (Or.inr ⟨rfl, rfl⟩))

theorem key_eq_key_iff {s s' : CooldownScope} {a b : Context} :
    s.key a = s'.key b ↔ s.Shared a s' b := by
  constructor
  · intro h
    rcases s.key_cases a with ha | ⟨i, rfl, hi, ha⟩ | ⟨rfl, ha⟩ | ⟨rfl, ha⟩ <;>
      rcases s'.key_cases b with hb | ⟨j, rfl, hj, hb⟩ | ⟨rfl, hb⟩ | ⟨rfl, hb⟩ <;>
      simp only [ha, hb, Personal.key_eq, ScopeKey.user.injEq, ScopeKey.guild.injEq,
        ScopeKey.channel.injEq, reduceCtorEq] at h
    · exact .author ha hb h
    · exact .guild i hi (h ▸ hj)
    · exact .channel h
    · exact .global a b
  · rintro (⟨ha, hb, h⟩ | ⟨id, ha, hb⟩ | h | _)
    · rw [ha.key_eq, hb.key_eq, h]
    · simp [key, ha, hb]
    · simp [key, h]
    · rfl

end CooldownScope

/-! ## Histories -/

/-- Somebody runs, or wants to run, a command with a cooldown. -/
structure CooldownUse where
  command : CommandId
  cooldown : Cooldown
  context : Context

def CooldownUse.key (use : CooldownUse) : CooldownKey :=
  use.cooldown.key use.command use.context

inductive CooldownAct
  | check (use : CooldownUse)
  | ask (use : CooldownUse)
  | reset (use : CooldownUse)
  | advance (nanos : Nat)

namespace CooldownAct

/-- The key that an act is about. -/
def key? : CooldownAct → Option CooldownKey
  | check use | ask use | reset use => some use.key
  | advance _ => none

def nanos : CooldownAct → Nat
  | advance nanos => nanos
  | _ => 0

/-- The time that has passed. -/
def elapsed : List CooldownAct → Nat
  | [] => 0
  | act :: acts => act.nanos + elapsed acts

theorem elapsed_concat (acts : List CooldownAct) (act : CooldownAct) :
    elapsed (acts ++ [act]) = elapsed acts + act.nanos := by
  induction acts with
  | nil => simp [elapsed]
  | cons first acts ih =>
    simp only [List.cons_append, elapsed, ih]
    omega

end CooldownAct

/-- A cooldown table with the time. -/
structure TimedCooldowns where
  clock : Nat := 0
  table : CooldownTable := []

namespace TimedCooldowns

open CooldownAct

/-- Does something with cooldowns. The answer to a check is the time that is left if it is refused,
and that to a question is the time that is left if there is any. -/
def perform (t : TimedCooldowns) :
    CooldownAct → Except TimerError (Option Duration) × TimedCooldowns
  | .check use =>
    let checked := t.table.check t.clock use.cooldown use.key
    (checked.1, { t with table := checked.2 })
  | .ask use =>
    let asked := t.table.remaining t.clock use.key
    (.ok asked.1, { t with table := asked.2 })
  | .reset use => (.ok none, { t with table := t.table.reset use.key })
  | .advance nanos => (.ok none, { t with clock := t.clock + nanos })

/-- The state after acts one after the other, from no cooldowns. -/
def after (acts : List CooldownAct) : TimedCooldowns :=
  acts.foldl (fun t act => (t.perform act).2) {}

/-- What an act answers that comes after the others. -/
def answer (acts : List CooldownAct) (act : CooldownAct) : Except TimerError (Option Duration) :=
  ((after acts).perform act).1

/-- A check opens a window for some time: it has a duration, and succeeds. -/
def Opens (acts : List CooldownAct) (act : CooldownAct) (key : CooldownKey) (nanos : Nat) : Prop :=
  ∃ use, act = .check use ∧ use.key = key ∧ use.cooldown.duration.nanos = nanos ∧ nanos ≠ 0 ∧
    answer acts act = .ok none

/-- The last window of a key that was opened, at a moment and for some time, and not reset since. -/
inductive Opened : List CooldownAct → CooldownKey → Nat → Nat → Prop
  | opens {acts : List CooldownAct} {act : CooldownAct} {key : CooldownKey} {nanos : Nat} :
      Opens acts act key nanos → Opened (acts ++ [act]) key (elapsed acts) nanos
  | stays {acts : List CooldownAct} {act : CooldownAct} {key : CooldownKey} {moment nanos : Nat} :
      Opened acts key moment nanos → (∀ other, ¬Opens acts act key other) →
      (∀ use, act = .reset use → use.key ≠ key) → Opened (acts ++ [act]) key moment nanos

/-- The window of a key is open, for so much more time. -/
def Live (acts : List CooldownAct) (key : CooldownKey) (left : Duration) : Prop :=
  ∃ moment nanos, Opened acts key moment nanos ∧ elapsed acts < moment + nanos ∧
    left.nanos = moment + nanos - elapsed acts

variable {t u : TimedCooldowns} {acts : List CooldownAct} {act : CooldownAct} {use : CooldownUse}
  {key : CooldownKey} {moment nanos : Nat}

theorem after_append (acts later : List CooldownAct) :
    after (acts ++ later) = later.foldl (fun t act => (t.perform act).2) (after acts) := by
  rw [after, List.foldl_append, after]

theorem after_concat (acts : List CooldownAct) (act : CooldownAct) :
    after (acts ++ [act]) = ((after acts).perform act).2 :=
  after_append acts [act]

theorem clock_perform (t : TimedCooldowns) (act : CooldownAct) :
    (t.perform act).2.clock = t.clock + act.nanos := by
  cases act <;> rfl

theorem clock_after (acts : List CooldownAct) : (after acts).clock = elapsed acts := by
  induction acts using List.reverseRecOn with
  | nil => rfl
  | append_singleton acts act ih => rw [after_concat, clock_perform, ih, elapsed_concat]

theorem answer_check (acts : List CooldownAct) (use : CooldownUse) :
    answer acts (.check use) =
      if use.cooldown.duration.nanos = 0 then .ok none
      else match (after acts).table.left? (elapsed acts) use.key with
        | some left => .ok (some left)
        | none =>
          if Timers.horizon < elapsed acts + use.cooldown.duration.nanos then .error .pastHorizon
          else .ok none := by
  rw [← clock_after]
  exact CooldownTable.fst_check _ _ _ _

theorem answer_ask (acts : List CooldownAct) (use : CooldownUse) :
    answer acts (.ask use) = .ok ((after acts).table.left? (elapsed acts) use.key) := by
  rw [← clock_after]
  exact congrArg Except.ok (CooldownTable.fst_remaining _ _ _)

/-! ## Windows -/

theorem not_opened_nil : ¬Opened [] key moment nanos := by
  intro h
  generalize hacts : [] = acts at h
  cases h <;> simp at hacts

theorem opened_concat : Opened (acts ++ [act]) key moment nanos ↔
    (Opens acts act key nanos ∧ moment = elapsed acts) ∨
      Opened acts key moment nanos ∧ (∀ other, ¬Opens acts act key other) ∧
        ∀ use, act = .reset use → use.key ≠ key := by
  constructor
  · intro h
    generalize hacts : acts ++ [act] = later at h
    cases h with
    | opens hopens =>
      obtain ⟨rfl, hact⟩ := List.append_inj' hacts rfl
      cases hact
      exact Or.inl ⟨hopens, rfl⟩
    | stays hopened hopens hreset =>
      obtain ⟨rfl, hact⟩ := List.append_inj' hacts rfl
      cases hact
      exact Or.inr ⟨hopened, hopens, hreset⟩
  · rintro (⟨hopens, rfl⟩ | ⟨hopened, hopens, hreset⟩)
    · exact .opens hopens
    · exact .stays hopened hopens hreset

theorem answer_check_eq_ok_none_iff : answer acts (.check use) = .ok none ↔
    use.cooldown.duration.nanos = 0 ∨ (after acts).table.left? (elapsed acts) use.key = none ∧
      elapsed acts + use.cooldown.duration.nanos ≤ Timers.horizon := by
  rw [answer_check]
  by_cases hzero : use.cooldown.duration.nanos = 0
  · simp [hzero]
  · rw [if_neg hzero, or_iff_right hzero]
    cases (after acts).table.left? (elapsed acts) use.key with
    | some left => simp
    | none =>
      by_cases hlt : Timers.horizon < elapsed acts + use.cooldown.duration.nanos
      · simp [hlt, Nat.not_le.mpr hlt]
      · simp [hlt, Nat.not_lt.mp hlt]

theorem opens_check_iff : Opens acts (.check use) key nanos ↔
    use.cooldown.duration.nanos ≠ 0 ∧
      (after acts).table.left? (elapsed acts) use.key = none ∧
        elapsed acts + use.cooldown.duration.nanos ≤ Timers.horizon ∧ key = use.key ∧
          use.cooldown.duration.nanos = nanos := by
  unfold Opens
  constructor
  · rintro ⟨other, hact, rfl, rfl, hpos, hanswer⟩
    cases hact
    obtain ⟨hleft, hle⟩ := (answer_check_eq_ok_none_iff.mp hanswer).resolve_left hpos
    exact ⟨hpos, hleft, hle, rfl, rfl⟩
  · rintro ⟨hpos, hleft, hle, rfl, rfl⟩
    exact ⟨use, rfl, rfl, rfl, hpos, answer_check_eq_ok_none_iff.mpr (Or.inr ⟨hleft, hle⟩)⟩

/-- An act opens a window of the key, resets the key or leaves its window as it is. -/
theorem left?_concat_cases (acts : List CooldownAct) (act : CooldownAct) (key : CooldownKey) :
    (∃ nanos, Opens acts act key nanos ∧ ∀ later, elapsed acts ≤ later →
      (after (acts ++ [act])).table.left? later key =
        if later < elapsed acts + nanos then some ⟨elapsed acts + nanos - later⟩ else none) ∨
    (∀ nanos, ¬Opens acts act key nanos) ∧
      ((∃ use, act = .reset use ∧ use.key = key ∧
        ∀ later, (after (acts ++ [act])).table.left? later key = none) ∨
      (∀ use, act = .reset use → use.key ≠ key) ∧ ∀ later, elapsed acts ≤ later →
        (after (acts ++ [act])).table.left? later key =
          (after acts).table.left? later key) := by
  have hclock := clock_after acts
  rw [after_concat]
  cases act with
  | check use =>
    simp only [perform, hclock, opens_check_iff]
    by_cases hopens : use.cooldown.duration.nanos ≠ 0 ∧
        (after acts).table.left? (elapsed acts) use.key = none ∧
          elapsed acts + use.cooldown.duration.nanos ≤ Timers.horizon ∧ key = use.key
    · obtain ⟨hpos, hleft, hle, rfl⟩ := hopens
      refine Or.inl ⟨_, ⟨hpos, hleft, hle, rfl, rfl⟩, fun later hlater => ?_⟩
      rw [CooldownTable.left?_check hlater, if_pos ⟨hpos, hleft, hle, rfl⟩]
    · refine Or.inr ⟨?_, Or.inr ⟨by simp, fun later hlater => ?_⟩⟩
      · rintro nanos ⟨hpos, hleft, hle, heq, -⟩
        exact hopens ⟨hpos, hleft, hle, heq⟩
      · rw [CooldownTable.left?_check hlater, if_neg hopens]
  | ask use =>
    refine Or.inr ⟨by simp [Opens], Or.inr ⟨by simp, fun later hlater => ?_⟩⟩
    exact CooldownTable.left?_remaining (hclock ▸ hlater) key
  | reset use =>
    refine Or.inr ⟨by simp [Opens], ?_⟩
    simp only [perform, CooldownTable.left?_reset]
    by_cases hkey : use.key = key
    · exact Or.inl ⟨use, rfl, hkey, fun later => if_pos hkey.symm⟩
    · refine Or.inr ⟨?_, fun later _ => if_neg (Ne.symm hkey)⟩
      rintro other hother
      cases hother
      exact hkey
  | advance nanos => exact Or.inr ⟨by simp [Opens], Or.inr ⟨by simp, fun later _ => rfl⟩⟩

/-- The table has the windows that are open, now and later. -/
theorem left?_after_iff (acts : List CooldownAct) (key : CooldownKey) {later : Nat}
    (hlater : elapsed acts ≤ later) (left : Duration) :
    (after acts).table.left? later key = some left ↔
      ∃ moment nanos, Opened acts key moment nanos ∧ later < moment + nanos ∧
        left.nanos = moment + nanos - later := by
  induction acts using List.reverseRecOn with
  | nil => simp [after, CooldownTable.left?, not_opened_nil]
  | append_singleton acts act ih =>
    have hbefore : elapsed acts ≤ later := by
      rw [elapsed_concat] at hlater
      omega
    simp only [opened_concat]
    rcases left?_concat_cases acts act key with
      ⟨nanos, hopens, hleft⟩ | ⟨hopens, ⟨use, rfl, hkey, hleft⟩ | ⟨hreset, hleft⟩⟩
    · rw [hleft later hbefore]
      constructor
      · intro hsome
        split at hsome
        · rename_i hlt
          cases hsome
          exact ⟨_, _, Or.inl ⟨hopens, rfl⟩, hlt, rfl⟩
        · cases hsome
      · rintro ⟨moment, other, ⟨hother, rfl⟩ | ⟨-, hno, -⟩, hlt, hnanos⟩
        · obtain ⟨first, rfl, -, rfl, -⟩ := hopens
          obtain ⟨second, hact, -, rfl, -⟩ := hother
          cases hact
          rw [if_pos hlt]
          congr
          exact hnanos.symm
        · exact absurd hopens (hno _)
    · rw [hleft]
      constructor
      · intro hnone
        cases hnone
      · rintro ⟨moment, nanos, ⟨hother, -⟩ | ⟨-, -, hreset⟩, -⟩
        · exact absurd hother (hopens _)
        · exact absurd hkey (hreset use rfl)
    · rw [hleft later hbefore, ih hbefore]
      refine exists_congr fun moment => exists_congr fun nanos => and_congr_left' ?_
      constructor
      · intro hopened
        exact Or.inr ⟨hopened, hopens, hreset⟩
      · rintro (⟨hother, -⟩ | ⟨hopened, -⟩)
        · exact absurd hother (hopens _)
        · exact hopened

theorem left?_eq_some_iff_live (acts : List CooldownAct) (key : CooldownKey) (left : Duration) :
    (after acts).table.left? (elapsed acts) key = some left ↔ Live acts key left :=
  left?_after_iff acts key (Nat.le_refl _) left

/-! ## What cannot be seen -/

/-- Two states that are told apart by nothing that is asked about one key, now or later. -/
structure AgreesOn (key : CooldownKey) (t u : TimedCooldowns) : Prop where
  clock : t.clock = u.clock
  left? : ∀ later, t.clock ≤ later → t.table.left? later key = u.table.left? later key

theorem AgreesOn.answer (h : AgreesOn key t u)
    (hact : ∀ other, act.key? = some other → other = key) :
    (t.perform act).1 = (u.perform act).1 := by
  have hleft := h.left? t.clock (Nat.le_refl _)
  cases act with
  | check use =>
    obtain rfl := hact _ rfl
    simp only [perform, CooldownTable.fst_check, ← h.clock, hleft]
  | ask use =>
    obtain rfl := hact _ rfl
    simp only [perform, CooldownTable.fst_remaining, ← h.clock, hleft]
  | reset use | advance nanos => rfl

theorem AgreesOn.perform (h : AgreesOn key t u) (act : CooldownAct) :
    AgreesOn key (t.perform act).2 (u.perform act).2 := by
  constructor
  · rw [clock_perform, clock_perform, h.clock]
  · intro later hlater
    have hbefore : t.clock ≤ later := by
      rw [clock_perform] at hlater
      omega
    have hleft := h.left? later hbefore
    cases act with
    | check use =>
      simp only [TimedCooldowns.perform, CooldownTable.left?_check hbefore, ← h.clock, hleft]
      by_cases hkey : key = use.key
      · subst hkey
        rw [h.left? t.clock (Nat.le_refl _)]
      · simp [hkey]
    | ask use =>
      simp only [TimedCooldowns.perform]
      rw [CooldownTable.left?_remaining hbefore, CooldownTable.left?_remaining (h.clock ▸ hbefore)]
      exact hleft
    | reset use => simp only [TimedCooldowns.perform, CooldownTable.left?_reset, hleft]
    | advance nanos => exact hleft

theorem AgreesOn.foldl (h : AgreesOn key t u) (acts : List CooldownAct) :
    AgreesOn key (acts.foldl (fun t act => (t.perform act).2) t)
      (acts.foldl (fun t act => (t.perform act).2) u) := by
  induction acts generalizing t u with
  | nil => exact h
  | cons act acts ih => exact ih (h.perform act)

/-- An act that leaves what is known of a key as it was changes no answer about that key. -/
theorem AgreesOn.answer_append (h : AgreesOn key (after (acts ++ [act])) (after acts))
    (later : List CooldownAct) {query : CooldownAct}
    (hquery : ∀ other, query.key? = some other → other = key) :
    TimedCooldowns.answer (acts ++ act :: later) query =
      TimedCooldowns.answer (acts ++ later) query := by
  have hlater := h.foldl later
  rw [← after_append, ← after_append, List.append_assoc] at hlater
  exact hlater.answer hquery

/-- An act about another key, and one that neither opens a window nor resets one, are not seen. -/
theorem agreesOn_of_unopened (hopens : ∀ nanos, ¬Opens acts act key nanos)
    (hreset : ∀ use, act = .reset use → use.key ≠ key) (hnanos : act.nanos = 0) :
    AgreesOn key (after (acts ++ [act])) (after acts) := by
  have hclock : (after (acts ++ [act])).clock = (after acts).clock := by
    rw [after_concat, clock_perform, hnanos, Nat.add_zero]
  refine ⟨hclock, fun later hlater => ?_⟩
  rw [hclock, clock_after] at hlater
  rcases left?_concat_cases acts act key with
    ⟨nanos, hother, -⟩ | ⟨-, ⟨use, rfl, hkey, -⟩ | ⟨-, hleft⟩⟩
  · exact absurd hother (hopens nanos)
  · exact absurd hkey (hreset use rfl)
  · exact hleft later hlater

/-- Only a check with a duration that succeeds opens a window. -/
theorem not_opens_of_refused
    (h : use.cooldown.duration.nanos = 0 ∨ answer acts (.check use) ≠ .ok none)
    (key : CooldownKey) (nanos : Nat) : ¬Opens acts (.check use) key nanos := by
  rintro ⟨other, hact, -, rfl, hpos, hanswer⟩
  cases hact
  rcases h with hzero | hrefused
  · exact hpos hzero
  · exact hrefused hanswer

/-- What is answered about the cooldown of a command, and what it has to do with other answers. -/
structure AsDeclared (acts : List CooldownAct) (use : CooldownUse) : Prop where
  /-- A check succeeds if the cooldown has no duration, or else while no window is open, unless the
  window that it has to open would close past the horizon. -/
  admitted : answer acts (.check use) = .ok none ↔
    use.cooldown.duration.nanos = 0 ∨ (∀ left, ¬Live acts use.key left) ∧
      elapsed acts + use.cooldown.duration.nanos ≤ Timers.horizon
  /-- A check fails then. -/
  failed : answer acts (.check use) = .error .pastHorizon ↔
    use.cooldown.duration.nanos ≠ 0 ∧ (∀ left, ¬Live acts use.key left) ∧
      Timers.horizon < elapsed acts + use.cooldown.duration.nanos
  /-- A check that is refused tells how much longer the window is open. -/
  refused : ∀ left, answer acts (.check use) = .ok (some left) ↔
    use.cooldown.duration.nanos ≠ 0 ∧ Live acts use.key left
  asked : ∀ left, answer acts (.ask use) = .ok (some left) ↔ Live acts use.key left
  positive : ∀ left, Live acts use.key left → 0 < left.nanos
  /-- A question changes no later answer, and neither does a check that is refused or fails or has
  no duration. -/
  unseen : ∀ act, act = .ask use ∨ act = .check use ∧
      (use.cooldown.duration.nanos = 0 ∨ answer acts (.check use) ≠ .ok none) →
    ∀ later query, answer (acts ++ act :: later) query = answer (acts ++ later) query
  /-- What is done about one key changes no answer about another one. -/
  separate : ∀ act, act.key? = some use.key → ∀ later query key, query.key? = some key →
    key ≠ use.key → answer (acts ++ act :: later) query = answer (acts ++ later) query
  /-- Whoever shares the cooldown of the command has the same key, and nobody else has. -/
  shared : ∀ other : CooldownUse, use.key = other.key ↔ use.command = other.command ∧
    use.cooldown.scope.Shared use.context other.cooldown.scope other.context

/-- No window is open if the table has none. -/
theorem left?_eq_none_iff_not_live (acts : List CooldownAct) (key : CooldownKey) :
    (after acts).table.left? (elapsed acts) key = none ↔ ∀ left, ¬Live acts key left := by
  simp only [Option.eq_none_iff_forall_ne_some, ne_eq, left?_eq_some_iff_live]

theorem cooldowns_last_as_declared (acts : List CooldownAct) (use : CooldownUse) :
    AsDeclared acts use := by
  constructor
  case admitted => rw [answer_check_eq_ok_none_iff, left?_eq_none_iff_not_live]
  case failed =>
    rw [answer_check, ← left?_eq_none_iff_not_live]
    split
    · simp [*]
    · split <;> simp_all
  case refused =>
    intro left
    rw [answer_check, ← left?_eq_some_iff_live]
    split
    · simp [*]
    · split
      · simp_all
      · split <;> simp_all
  case asked =>
    intro left
    rw [answer_ask, Except.ok.injEq, left?_eq_some_iff_live]
  case positive =>
    rintro left ⟨moment, nanos, -, hlt, hleft⟩
    omega
  case unseen =>
    intro act hact later query
    have hagrees : ∀ key, AgreesOn key (after (acts ++ [act])) (after acts) := by
      intro key
      rcases hact with rfl | ⟨rfl, hrefused⟩
      · exact agreesOn_of_unopened (by simp [Opens]) (by simp) rfl
      · exact agreesOn_of_unopened (not_opens_of_refused hrefused key) (by simp) rfl
    apply (hagrees (query.key?.getD use.key)).answer_append later
    intro other hother
    simp [hother]
  case separate =>
    intro act hact later query key hquery hne
    have hagrees : AgreesOn key (after (acts ++ [act])) (after acts) := by
      apply agreesOn_of_unopened
      · rintro nanos ⟨other, rfl, rfl, -⟩
        exact hne (Option.some.inj hact)
      · rintro other rfl rfl
        exact hne (Option.some.inj hact)
      · cases act with
        | advance nanos => cases hact
        | check _ | ask _ | reset _ => rfl
    apply hagrees.answer_append later
    intro other hother
    rw [hquery] at hother
    exact (Option.some.inj hother).symm
  case shared =>
    intro other
    rw [← CooldownScope.key_eq_key_iff]
    exact Prod.mk.injEq _ _ _ _ ▸ Iff.rfl

/-- A cooldown as long as any can be cannot start at all, although no window is open. -/
theorem longest_cooldown_fails :
    (∀ key left, ¬Live [] key left) ∧ Duration.longest.nanos ≠ 0 ∧
    answer [] (.check ⟨[0], ⟨.longest, .global⟩, {}⟩) = .error .pastHorizon := by
  refine ⟨fun key left => ?_, by decide, by rfl⟩
  rintro ⟨moment, nanos, hopened, -⟩
  exact not_opened_nil hopened

end TimedCooldowns

end ChatCommands
