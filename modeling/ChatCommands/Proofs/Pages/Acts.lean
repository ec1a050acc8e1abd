import Mathlib.Data.List.Induction
import ChatCommands.Pages
import ChatCommands.Proofs.Timer.Acts

/-! # What is done with a page session

Pages are turned and looked at, the session is closed, and time passes. Which page is open and when
the session expires can be said from what was done and what the turns answered: the position moves
as the turns say that led to a page or failed, and stays between the ends. The time that the session
has starts anew with each turn that led to a page, and a turn that failed leaves it with no end.
-/

namespace ChatCommands

namespace PageTurn

/-- Where a turn goes if there are pages everywhere. -/
def aim (turn : PageTurn) (position count : Int) : Int :=
  match turn with
  | next => position + 1
  | previous => position - 1
  | first => 0
  | last => count - 1
  | goto page => page

/-- The position nearest to a given one among those of `count` pages. -/
def clamp (count position : Int) : Int :=
  max 0 (min position (count - 1))

/-- A turn leads to the page that is nearest to where it goes. -/
theorem clamp_aim {turn : PageTurn} {index count target : Nat}
    (h : turn.target? index count = some target) (hindex : index < count) :
    (target : Int) = clamp count (turn.aim index count) := by
  unfold clamp
  cases turn with
  | next | previous | first | last =>
    cases h
    simp only [aim]
    omega
  | goto page =>
    rw [target?] at h
    split at h
    · cases h
      simp only [aim]
      omega
    · cases h

/-- Only pages that do not exist lead nowhere. -/
theorem target?_eq_none {turn : PageTurn} {index count : Nat} :
    turn.target? index count = none ↔ ∃ page, turn = goto page ∧ count ≤ page := by
  cases turn with
  | next | previous | first | last => simp [target?]
  | goto page => simp [target?]

end PageTurn

/-- What may be done with a page session. -/
inductive PageAct
  | turn (turn : PageTurn)
  | current
  | close
  | advance (nanos : Nat)
  deriving Repr

namespace PageAct

def nanos : PageAct → Nat
  | advance nanos => nanos
  | _ => 0

/-- The time that has passed. -/
def elapsed (acts : List PageAct) : Nat :=
  acts.foldl (fun time act => time + act.nanos) 0

theorem elapsed_concat (acts : List PageAct) (act : PageAct) :
    elapsed (acts ++ [act]) = elapsed acts + act.nanos :=
  List.foldl_append

end PageAct

/-- What a page session is made of. -/
structure PageSetup (T : Type) where
  pages : List T
  /-- Absent from a session that never expires. -/
  expiry? : Option Duration
  action : ExpiryAction
  /-- When it is made. -/
  moment : Nat
  deriving Repr

/-- A page session in use, with the calls of its action and their moments. -/
structure PageRun (T : Type) where
  session : PageSession T
  timers : TimedTimers Unit
  calls : List (Nat × ExpiryAction) := []

/-- The session as it was made, on timers of its own. -/
def PageSetup.start? {T : Type} (setup : PageSetup T) : Except TimerError (PageRun T) :=
  (PageSession.withExpiry? setup.pages setup.expiry? setup.action ⟨setup.moment, {}⟩ ()).map
    fun made => { session := made.1, timers := made.2 }

/-- When a session expires that has its whole time from a moment on. -/
def PageSetup.due? {T : Type} (setup : PageSetup T) (moment : Nat) : Option Nat :=
  setup.expiry?.map fun expiry => moment + expiry.nanos

/-- A timer can be set for the time that the session has from a moment on, if it needs one. -/
def PageSetup.InTime {T : Type} (setup : PageSetup T) (moment : Nat) : Prop :=
  ∀ expiry, setup.expiry? = some expiry → moment + expiry.nanos ≤ Timers.horizon

namespace PageRun

open PageAct (elapsed)

variable {T : Type}

/-- Runs the job of a timer of the session at the moment when the timer fires. -/
def expire (r : PageRun T) (fired : Nat × Unit) : PageRun T :=
  let expired := r.session.expire
  { r with
    session := expired.2
    calls := r.calls ++ expired.1.toList.map fun action => (fired.1, action) }

/-- Does something with a session, and returns the page that it answers. -/
def perform (r : PageRun T) : PageAct → Except TimerError (Option T) × PageRun T
  | .turn turn =>
    let turned := r.session.turn turn r.timers ()
    (turned.1, { r with session := turned.2.1, timers := turned.2.2 })
  | .current => (.ok r.session.current?, r)
  | .close =>
    let closed := r.session.close r.timers
    (.ok none, { r with session := closed.1, timers := closed.2 })
  | .advance nanos =>
    let passed := r.timers.advance (r.timers.clock + nanos)
    (.ok none, passed.1.foldl expire { r with timers := passed.2 })

/-- The state after acts one after the other. -/
def after (first : PageRun T) (acts : List PageAct) : PageRun T :=
  acts.foldl (fun r act => (r.perform act).2) first

/-- What an act answers that comes after the others. -/
def answer (first : PageRun T) (acts : List PageAct) (act : PageAct) :
    Except TimerError (Option T) :=
  ((after first acts).perform act).1

/-- A turn leads to a page, if only to the one that was open. -/
def Leads (first : PageRun T) (acts : List PageAct) (turn : PageTurn) : Prop :=
  ∃ page, answer first acts (.turn turn) = .ok (some page)

/-- A turn fails, because the session would get its whole time again and no timer can be set for
the end of that. -/
def Fails (first : PageRun T) (acts : List PageAct) (turn : PageTurn) : Prop :=
  answer first acts (.turn turn) = .error .pastHorizon

variable (setup : PageSetup T) (first : PageRun T)

/-- Where the turns have led, and since when the session has had its whole time: since the last turn
that led to a page, unless one has failed after it. -/
inductive Opened : List PageAct → Int → Option Nat → Prop
  | begun : Opened [] 0 (some setup.moment)
  | turned {acts : List PageAct} {turn : PageTurn} {position : Int} {since? : Option Nat} :
      Opened acts position since? → Leads first acts turn →
      Opened (acts ++ [.turn turn])
        (PageTurn.clamp setup.pages.length (turn.aim position setup.pages.length))
        (some (setup.moment + elapsed acts))
  | failed {acts : List PageAct} {turn : PageTurn} {position : Int} {since? : Option Nat} :
      Opened acts position since? → Fails first acts turn →
      Opened (acts ++ [.turn turn])
        (PageTurn.clamp setup.pages.length (turn.aim position setup.pages.length)) none
  | kept {acts : List PageAct} {act : PageAct} {position : Int} {since? : Option Nat} :
      Opened acts position since? →
      (∀ turn, act = .turn turn → ¬Leads first acts turn ∧ ¬Fails first acts turn) →
      Opened (acts ++ [act]) position since?

/-- Nobody has closed the session, and its time ends at a moment. -/
def Due (acts : List PageAct) (due : Nat) : Prop :=
  .close ∉ acts ∧ ∃ position since, Opened setup first acts position (some since) ∧
    setup.due? since = some due

/-- Time came to the moment at which the time of the session ended. -/
def Expires (acts : List PageAct) (due : Nat) : Prop :=
  ∃ before nanos after, acts = before ++ .advance nanos :: after ∧
    Due setup first before due ∧ due ≤ setup.moment + elapsed before + nanos

variable {setup first} {acts : List PageAct} {act : PageAct} {position : Int}
  {since? : Option Nat} {due : Nat}

theorem after_concat (acts : List PageAct) (act : PageAct) :
    after first (acts ++ [act]) = ((after first acts).perform act).2 :=
  List.foldl_append

theorem not_leads_of_fails {turn : PageTurn} (h : Fails first acts turn) :
    ¬Leads first acts turn := by
  rintro ⟨page, hpage⟩
  cases hpage.symm.trans h

theorem opened_nil : Opened setup first [] position since? ↔
    position = 0 ∧ since? = some setup.moment := by
  constructor
  · intro h
    generalize hacts : [] = acts at h
    cases h with
    | begun => exact ⟨rfl, rfl⟩
    | turned | failed | kept => simp at hacts
  · rintro ⟨rfl, rfl⟩
    exact .begun

/-- An act that is no turn, or a turn that led nowhere. -/
def Quiet (first : PageRun T) (acts : List PageAct) (act : PageAct) : Prop :=
  ∀ turn, act = .turn turn → ¬Leads first acts turn ∧ ¬Fails first acts turn

theorem opened_concat : Opened setup first (acts ++ [act]) position since? ↔
    (∃ turn before moment?, act = .turn turn ∧ Opened setup first acts before moment? ∧
      position = PageTurn.clamp setup.pages.length (turn.aim before setup.pages.length) ∧
      ((Leads first acts turn ∧ since? = some (setup.moment + elapsed acts)) ∨
        Fails first acts turn ∧ since? = none)) ∨
    Opened setup first acts position since? ∧ Quiet first acts act := by
  constructor
  · intro h
    generalize hacts : acts ++ [act] = later at h
    cases h with
    | begun => simp at hacts
    | turned hopened hleads =>
      obtain ⟨rfl, hact⟩ := List.append_inj' hacts rfl
      cases hact
      exact Or.inl ⟨_, _, _, rfl, hopened, rfl, Or.inl ⟨hleads, rfl⟩⟩
    | failed hopened hfails =>
      obtain ⟨rfl, hact⟩ := List.append_inj' hacts rfl
      cases hact
      exact Or.inl ⟨_, _, _, rfl, hopened, rfl, Or.inr ⟨hfails, rfl⟩⟩
    | kept hopened hquiet =>
      obtain ⟨rfl, hact⟩ := List.append_inj' hacts rfl
      cases hact
      exact Or.inr ⟨hopened, hquiet⟩
  · rintro (⟨turn, before, moment?, rfl, hopened, rfl, ⟨hleads, rfl⟩ | ⟨hfails, rfl⟩⟩ |
      ⟨hopened, hquiet⟩)
    · exact .turned hopened hleads
    · exact .failed hopened hfails
    · exact .kept hopened hquiet

theorem opened_of_quiet (hquiet : Quiet first acts act) :
    Opened setup first (acts ++ [act]) position since? ↔
      Opened setup first acts position since? := by
  rw [opened_concat]
  constructor
  · rintro (⟨turn, _, _, hact, -, -, hturns⟩ | ⟨hopened, -⟩)
    · obtain ⟨hleads, hfails⟩ := hquiet turn hact
      rcases hturns with ⟨h, -⟩ | ⟨h, -⟩
      · exact absurd h hleads
      · exact absurd h hfails
    · exact hopened
  · intro hopened
    exact Or.inr ⟨hopened, hquiet⟩

theorem Opened.unique {other : Int} {moment? : Option Nat}
    (h : Opened setup first acts position since?) (hother : Opened setup first acts other moment?) :
    position = other ∧ since? = moment? := by
  induction acts using List.reverseRecOn generalizing position since? other moment? with
  | nil =>
    obtain ⟨rfl, rfl⟩ := opened_nil.mp h
    obtain ⟨rfl, rfl⟩ := opened_nil.mp hother
    exact ⟨rfl, rfl⟩
  | append_singleton acts act ih =>
    by_cases hquiet : Quiet first acts act
    · rw [opened_of_quiet hquiet] at h hother
      exact ih h hother
    · obtain ⟨turn, before, _, rfl, hopened, rfl, hturn⟩ :=
        (opened_concat.mp h).resolve_right fun h => hquiet h.2
      obtain ⟨turn', before', _, hact, hopened', rfl, hturn'⟩ :=
        (opened_concat.mp hother).resolve_right fun h => hquiet h.2
      cases hact
      refine ⟨by rw [(ih hopened hopened').1], ?_⟩
      rcases hturn with ⟨hleads, rfl⟩ | ⟨hfails, rfl⟩ <;>
        rcases hturn' with ⟨hleads', rfl⟩ | ⟨hfails', rfl⟩
      · rfl
      · exact absurd hleads (not_leads_of_fails hfails')
      · exact absurd hleads' (not_leads_of_fails hfails)
      · rfl

theorem due_of_quiet (hquiet : Quiet first acts act) :
    Due setup first (acts ++ [act]) due ↔ act ≠ .close ∧ Due setup first acts due := by
  unfold Due
  simp only [opened_of_quiet hquiet, List.mem_append, List.mem_singleton, not_or]
  constructor
  · rintro ⟨⟨hclosed, hact⟩, hopened⟩
    exact ⟨Ne.symm hact, hclosed, hopened⟩
  · rintro ⟨hact, hclosed, hopened⟩
    exact ⟨⟨hclosed, Ne.symm hact⟩, hopened⟩

theorem not_expires_nil : ¬Expires setup first [] due := by
  rintro ⟨before, nanos, after, hacts, -⟩
  simp at hacts

theorem expires_concat : Expires setup first (acts ++ [act]) due ↔
    Expires setup first acts due ∨ ∃ nanos, act = .advance nanos ∧ Due setup first acts due ∧
      due ≤ setup.moment + elapsed acts + nanos :=
  TimerAct.exists_split_concat PageAct.advance _

/-- Only time makes a session expire. -/
theorem expires_of_ne_advance (h : ∀ nanos, act ≠ .advance nanos) :
    Expires setup first (acts ++ [act]) due ↔ Expires setup first acts due := by
  rw [expires_concat]
  apply or_iff_left
  rintro ⟨nanos, hact, -⟩
  exact h nanos hact

end PageRun

end ChatCommands
