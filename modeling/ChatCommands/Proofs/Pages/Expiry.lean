import ChatCommands.Proofs.Pages.Acts
import ChatCommands.Proofs.Pages.Turning

/-! # Page sessions over time

Every turn that leads to a page gives the session its whole time again. Once that is over, the
session closes and calls for its action, unless somebody has closed it before. Nothing else moves
the deadline, and the timers of earlier turns are of no account. A turn that fails stops the timer
and sets no other, so from then on the session does not expire before a turn leads to a page.
-/

namespace ChatCommands

namespace PageSetup

variable {T : Type} {setup : PageSetup T} {moment : Nat} {timeout : Timeout ExpiryAction}
  {timeout? : Option (Timeout ExpiryAction)} {timers : TimedTimers Unit} {due? : Option Nat}
  {since? : Option Nat}

theorem due?_of_never (h : setup.expiry? = none) (moment : Nat) : setup.due? moment = none := by
  rw [due?, h]
  rfl

theorem due?_eq {expiry : Duration} (h : setup.expiry? = some expiry) (moment : Nat) :
    setup.due? moment = some (moment + expiry.nanos) := by
  rw [due?, h]
  rfl

theorem inTime_iff {expiry : Duration} (h : setup.expiry? = some expiry) :
    setup.InTime moment ↔ moment + expiry.nanos ≤ Timers.horizon := by
  simp [InTime, h]

theorem inTime_of_never (h : setup.expiry? = none) (moment : Nat) : setup.InTime moment := by
  simp [InTime, h]

/-- The timeout of a session, and the moment for which its timer is set if it is pending. -/
inductive Waits (setup : PageSetup T) :
    Option (Timeout ExpiryAction) → TimedTimers Unit → Option Nat → Prop
  | never (clock : Nat) : setup.expiry? = none → Waits setup none ⟨clock, {}⟩ none
  | expires {timeout : Timeout ExpiryAction} {timers : TimedTimers Unit} {due? : Option Nat} :
      setup.expiry? = some timeout.duration → timeout.enabled = true →
      timeout.callback? = some setup.action →
      timeout.Tended timers (due?.map fun due => (due, ())) →
      Waits setup (some timeout) timers due?

/-- What arming the timeout of a session does at a moment: the session has its whole time since
then, unless no timer can be set for the end of it. -/
structure Armed (setup : PageSetup T) (moment : Nat) (since? : Option Nat)
    (done : Except TimerError Bool × Timeout ExpiryAction × TimedTimers Unit) : Prop where
  waits : setup.Waits (some done.2.1) done.2.2 (since?.bind setup.due?)
  clock : done.2.2.clock = moment
  answer : (setup.InTime moment ∧ since? = some moment ∧ done.1 = .ok true) ∨
    ¬setup.InTime moment ∧ since? = none ∧ done.1 = .error .pastHorizon

theorem exists_armed (hexpiry : setup.expiry? = some timeout.duration)
    (henabled : timeout.enabled = true) (hcallback : timeout.callback? = some setup.action)
    (h : timeout.Tended timers none) :
    ∃ since?, setup.Armed timers.clock since? (timeout.arm timers ()) := by
  rcases h.arm () with ⟨hpast, harm⟩ | ⟨hle, id, armed, harm, hclock, htended⟩
  · refine ⟨none, ?_⟩
    rw [harm]
    constructor
    · exact .expires hexpiry henabled hcallback h
    · rfl
    · right
      rw [inTime_iff hexpiry]
      exact ⟨Nat.not_le.mpr hpast, rfl, rfl⟩
  · refine ⟨some timers.clock, ?_⟩
    rw [harm]
    constructor
    · rw [Option.bind_some, due?_eq hexpiry]
      exact .expires hexpiry henabled hcallback htended
    · exact hclock
    · left
      rw [inTime_iff hexpiry]
      exact ⟨hle, rfl, rfl⟩

theorem Waits.restart (h : setup.Waits (some timeout) timers due?) :
    ∃ since?, setup.Armed timers.clock since? (timeout.restart timers ()) := by
  cases h with
  | expires hexpiry henabled hcallback htended =>
    rcases htended.restart () with ⟨hdisabled, -⟩ | ⟨-, left, hclock, hleft, hrestart⟩
    · cases henabled.symm.trans hdisabled
    · rw [hrestart, ← hclock]
      exact exists_armed hexpiry henabled hcallback hleft

theorem Waits.stop (h : setup.Waits (some timeout) timers due?) :
    setup.Waits (some (timeout.stop timers).2.1) (timeout.stop timers).2.2 none ∧
      (timeout.stop timers).2.2.clock = timers.clock := by
  cases h with
  | expires hexpiry henabled hcallback htended =>
    obtain ⟨left, hstop, hclock, hleft⟩ := htended.stop
    rw [hstop]
    exact ⟨.expires hexpiry henabled hcallback hleft, hclock⟩

theorem Waits.of_never (h : setup.Waits none timers due?) : setup.expiry? = none ∧ due? = none := by
  cases h with
  | never clock hnever => exact ⟨hnever, rfl⟩

/-- Time lets the timer fire for which the session waits, and no other. -/
theorem Waits.advance (h : setup.Waits timeout? timers due?) (nanos : Nat) :
    ∃ later, later.clock = timers.clock + nanos ∧
      ((∃ due, due? = some due ∧ due ≤ timers.clock + nanos ∧
        timers.advance (timers.clock + nanos) = ([(due, ())], later) ∧
        setup.Waits timeout? later none ∧ timeout?.bind (·.callback?) = some setup.action) ∨
      (∀ due, due? = some due → timers.clock + nanos < due) ∧
        timers.advance (timers.clock + nanos) = ([], later) ∧ setup.Waits timeout? later due?) := by
  cases h with
  | never clock hnever =>
    refine ⟨_, rfl, Or.inr ⟨by simp, TimedTimers.advance_of_none rfl _, .never _ hnever⟩⟩
  | expires hexpiry henabled hcallback htended =>
    obtain ⟨later, hclock, hpassed⟩ := htended.advance nanos
    refine ⟨later, hclock, hpassed.imp ?_ ?_⟩
    · rintro ⟨timer, htimer, hle, hadvance, hlater⟩
      obtain ⟨due, rfl, rfl⟩ := Option.map_eq_some_iff.mp htimer
      exact ⟨due, rfl, hle, hadvance, .expires hexpiry henabled hcallback hlater, hcallback⟩
    · rintro ⟨hahead, hadvance, hlater⟩
      refine ⟨?_, hadvance, .expires hexpiry henabled hcallback hlater⟩
      rintro due rfl
      exact hahead _ rfl

end PageSetup

namespace PageRun

open PageAct (elapsed)

variable {T : Type} {setup : PageSetup T} {first r : PageRun T} {acts : List PageAct}
  {act : PageAct} {turn : PageTurn} {since? : Option Nat}

/-! ## One act -/

/-- What is known of a session that has its whole time since some moment, or waits for nothing. -/
structure Holds (setup : PageSetup T) (r : PageRun T) (since? : Option Nat) : Prop where
  pages : r.session.pages = setup.pages
  index : setup.pages = [] ∨ r.session.index < setup.pages.length
  waits : setup.Waits r.session.timeout? r.timers
    (if r.session.closed then none else since?.bind setup.due?)

/-- A session is made, unless it would expire past the horizon. -/
theorem start?_cases (setup : PageSetup T) :
    (¬setup.InTime setup.moment ∧ setup.start? = .error .pastHorizon) ∨
    setup.InTime setup.moment ∧ ∃ first, setup.start? = .ok first ∧
      Holds setup first (some setup.moment) ∧ first.timers.clock = setup.moment ∧
      first.session.index = 0 ∧ first.session.closed = false ∧ first.calls = [] := by
  have hindex : setup.pages = [] ∨ 0 < setup.pages.length := by
    rw [List.length_pos_iff]
    exact Classical.em _
  unfold PageSetup.start? PageSession.withExpiry?
  cases hexpiry : setup.expiry? with
  | none =>
    right
    refine ⟨setup.inTime_of_never hexpiry _, _, rfl, ⟨rfl, hindex, ?_⟩, rfl, rfl, rfl, rfl⟩
    rw [Option.bind_some, setup.due?_of_never hexpiry]
    exact .never _ hexpiry
  | some expiry =>
    obtain ⟨since?, harmed⟩ : ∃ since?, setup.Armed setup.moment since?
        (Timeout.start ⟨expiry, true, some setup.action, none⟩ ⟨setup.moment, {}⟩ ()) := by
      rw [Timeout.start_eq_arm rfl rfl]
      exact PageSetup.exists_armed hexpiry rfl rfl (Timeout.tended_start _ _)
    simp only [PageSession.withExpiry]
    rcases harmed.answer with ⟨hin, rfl, hok⟩ | ⟨hpast, -, herror⟩
    · right
      rw [hok]
      exact ⟨hin, _, rfl, ⟨rfl, hindex, harmed.waits⟩, harmed.clock, rfl, rfl, rfl⟩
    · left
      rw [herror]
      exact ⟨hpast, rfl⟩

/-- An open session has the page to which a turn leads. -/
def Possible (setup : PageSetup T) (r : PageRun T) (turn : PageTurn) : Prop :=
  r.session.closed = false ∧ setup.pages ≠ [] ∧
    ∀ page, turn = .goto page → page < setup.pages.length

/-- What a turn does to an open session that has the page: it opens the page, and answers it unless
no timer can be set for the end of the whole time. -/
structure Turned (setup : PageSetup T) (r : PageRun T) (turn : PageTurn) (since? : Option Nat) :
    Prop where
  holds : Holds setup (r.perform (.turn turn)).2 since?
  clock : (r.perform (.turn turn)).2.timers.clock = r.timers.clock
  index : ((r.perform (.turn turn)).2.session.index : Int) =
    PageTurn.clamp setup.pages.length (turn.aim r.session.index setup.pages.length)
  closed : (r.perform (.turn turn)).2.session.closed = false
  calls : (r.perform (.turn turn)).2.calls = r.calls
  shown : ∃ page, setup.pages[(r.perform (.turn turn)).2.session.index]? = some page ∧
    ((setup.InTime r.timers.clock ∧ since? = some r.timers.clock ∧
        (r.perform (.turn turn)).1 = .ok (some page)) ∨
      ¬setup.InTime r.timers.clock ∧ since? = none ∧
        (r.perform (.turn turn)).1 = .error .pastHorizon)

theorem Holds.turned (h : Holds setup r since?) {target : Nat} {next? : Option Nat}
    {timeout? : Option (Timeout ExpiryAction)} {timers : TimedTimers Unit}
    {done : Except TimerError (Option T)} (hopen : r.session.closed = false)
    (hpages : setup.pages ≠ [])
    (htarget : turn.target? r.session.index setup.pages.length = some target)
    (hturn : r.session.turn turn r.timers () =
      (done, { r.session with index := target, timeout? := timeout? }, timers))
    (hwaits : setup.Waits timeout? timers (next?.bind setup.due?))
    (hclock : timers.clock = r.timers.clock)
    (hdone : (setup.InTime r.timers.clock ∧ next? = some r.timers.clock ∧
        done = .ok setup.pages[target]?) ∨
      ¬setup.InTime r.timers.clock ∧ next? = none ∧ done = .error .pastHorizon) :
    Turned setup r turn next? := by
  have hindex := h.index.resolve_left hpages
  have hlt := turn.target?_lt htarget hindex
  constructor <;> rw [perform, hturn]
  case holds =>
    refine ⟨h.pages, Or.inr hlt, ?_⟩
    simpa [hopen] using hwaits
  case clock => exact hclock
  case index => exact PageTurn.clamp_aim htarget hindex
  case closed => exact hopen
  case shown =>
    have hpage := List.getElem?_eq_getElem hlt
    rw [hpage] at hdone
    exact ⟨_, hpage, hdone⟩

/-- A turn is for nothing where it is not possible. -/
theorem Holds.turn_cases (h : Holds setup r since?) (turn : PageTurn) :
    (¬Possible setup r turn ∧ r.perform (.turn turn) = (.ok none, r)) ∨
    Possible setup r turn ∧ ∃ next?, Turned setup r turn next? := by
  have hpages := h.pages
  have hwaits := h.waits
  rcases r.session.turn_cases turn r.timers () with ⟨hrefused, hturn⟩ |
    ⟨hopen, hsome, target, htarget, hturn⟩
  · left
    rw [PageTurn.target?_eq_none, hpages] at hrefused
    rw [perform, hturn]
    refine ⟨?_, rfl⟩
    rintro ⟨hopen, hsome, hexists⟩
    rcases hrefused with hclosed | hempty | ⟨page, hpage, hle⟩
    · cases hclosed.symm.trans hopen
    · exact absurd hempty hsome
    · exact absurd (hexists page hpage) (Nat.not_lt.mpr hle)
  · right
    rw [hpages] at hsome htarget
    constructor
    · refine ⟨hopen, hsome, fun page hpage => ?_⟩
      by_contra hle
      have hnowhere : turn.target? r.session.index setup.pages.length = none :=
        PageTurn.target?_eq_none.mpr ⟨page, hpage, Nat.le_of_not_lt hle⟩
      cases hnowhere.symm.trans htarget
    · rcases hturn with ⟨hnone, hturn⟩ | ⟨timeout, htimeout, hturn⟩
      · rw [hnone] at hwaits
        obtain ⟨hnever, hdue⟩ := hwaits.of_never
        rw [hdue, ← setup.due?_of_never hnever r.timers.clock, ← hnone] at hwaits
        refine ⟨some r.timers.clock, h.turned hopen hsome htarget hturn hwaits rfl ?_⟩
        exact Or.inl ⟨setup.inTime_of_never hnever _, rfl, by rw [hpages]⟩
      · rw [htimeout] at hwaits
        obtain ⟨next?, harmed⟩ := hwaits.restart
        refine ⟨next?, h.turned hopen hsome htarget hturn harmed.waits harmed.clock ?_⟩
        refine harmed.answer.imp ?_ ?_
        · rintro ⟨hin, hnext, hok⟩
          rw [hok, hpages]
          exact ⟨hin, hnext, rfl⟩
        · rintro ⟨hpast, hnext, herror⟩
          rw [herror]
          exact ⟨hpast, hnext, rfl⟩

/-- A close ends the time of the session. -/
theorem Holds.close (h : Holds setup r since?) :
    Holds setup (r.perform .close).2 since? ∧
      (r.perform .close).2.timers.clock = r.timers.clock ∧
      (r.perform .close).2.session.index = r.session.index ∧
      (r.perform .close).2.session.closed = true ∧ (r.perform .close).2.calls = r.calls := by
  have hwaits := h.waits
  rcases r.session.close_cases r.timers with ⟨hnone, hclose⟩ | ⟨timeout, htimeout, hclose⟩
  · rw [perform, hclose]
    refine ⟨⟨h.pages, h.index, ?_⟩, rfl, rfl, rfl, rfl⟩
    rw [hnone] at hwaits
    obtain ⟨-, hdue⟩ := hwaits.of_never
    rw [hdue] at hwaits
    simpa [hnone] using hwaits
  · rw [htimeout] at hwaits
    obtain ⟨hstopped, hclock⟩ := hwaits.stop
    rw [perform, hclose]
    exact ⟨⟨h.pages, h.index, hstopped⟩, hclock, rfl, rfl, rfl⟩

/-- Time closes an open session and makes the call for its action at the end of its whole time, and
does nothing before. -/
theorem Holds.advance (h : Holds setup r since?) (nanos : Nat) :
    Holds setup (r.perform (.advance nanos)).2 since? ∧
      (r.perform (.advance nanos)).2.timers.clock = r.timers.clock + nanos ∧
      (r.perform (.advance nanos)).2.session.index = r.session.index ∧
    ((∃ due, r.session.closed = false ∧ since?.bind setup.due? = some due ∧
        due ≤ r.timers.clock + nanos ∧ (r.perform (.advance nanos)).2.session.closed = true ∧
        (r.perform (.advance nanos)).2.calls = r.calls ++ [(due, setup.action)]) ∨
      (r.session.closed = false → ∀ due, since?.bind setup.due? = some due →
        r.timers.clock + nanos < due) ∧
      (r.perform (.advance nanos)).2.session.closed = r.session.closed ∧
      (r.perform (.advance nanos)).2.calls = r.calls) := by
  obtain ⟨later, hclock, ⟨due, hdue, hle, hadvance, hwaits, haction⟩ |
    ⟨hahead, hadvance, hwaits⟩⟩ := h.waits.advance nanos
  · obtain ⟨hopen, hdue⟩ : r.session.closed = false ∧ since?.bind setup.due? = some due := by
      simpa using hdue
    have hmade : r.session.expire = (some setup.action, { r.session with closed := true }) := by
      rw [PageSession.expire, haction]
    have hexpired : r.perform (.advance nanos) = (.ok none, { r with
        session := { r.session with closed := true }
        timers := later
        calls := r.calls ++ [(due, setup.action)] }) := by
      rw [perform, hadvance, List.foldl_cons, List.foldl_nil, expire, hmade]
      rfl
    rw [hexpired]
    exact ⟨⟨h.pages, h.index, hwaits⟩, hclock, rfl, Or.inl ⟨due, hopen, hdue, hle, rfl, rfl⟩⟩
  · rw [perform, hadvance]
    refine ⟨⟨h.pages, h.index, hwaits⟩, hclock, rfl, Or.inr ⟨fun hopen due hdue => ?_, rfl, rfl⟩⟩
    apply hahead
    simpa [hopen] using hdue

/-! ## One act after the other -/

theorem turn_iff (h : Holds setup (after first acts) since?) (turn : PageTurn) :
    (Leads first acts turn ↔ Possible setup (after first acts) turn ∧
      setup.InTime (after first acts).timers.clock) ∧
    (Fails first acts turn ↔ Possible setup (after first acts) turn ∧
      ¬setup.InTime (after first acts).timers.clock) := by
  unfold Leads Fails answer
  rcases h.turn_cases turn with ⟨hnot, hturn⟩ | ⟨hpossible, _, hturned⟩
  · simp [hturn, hnot]
  · obtain ⟨page, -, ⟨hin, -, hshown⟩ | ⟨hpast, -, hfails⟩⟩ := hturned.shown
    · simp [hshown, hpossible, hin]
    · simp [hfails, hpossible, hpast]

/-- A turn that leads nowhere leaves everything as it is. -/
theorem perform_of_quiet (h : Holds setup (after first acts) since?)
    (hquiet : Quiet first acts (.turn turn)) :
    (after first acts).perform (.turn turn) = (.ok none, after first acts) := by
  obtain ⟨hleads, hfails⟩ := hquiet turn rfl
  rw [(turn_iff h turn).1, not_and] at hleads
  rw [(turn_iff h turn).2, not_and, not_not] at hfails
  rcases h.turn_cases turn with ⟨-, hturn⟩ | ⟨hpossible, -⟩
  · exact hturn
  · exact absurd (hfails hpossible) (hleads hpossible)

/-- The session is open where the turns have led it, and waits for the end of the whole time that it
has had since the last of them. It is closed once somebody has closed it or that time was over. -/
structure Matches (setup : PageSetup T) (first : PageRun T) (acts : List PageAct)
    (since? : Option Nat) : Prop where
  holds : Holds setup (after first acts) since?
  clock : (after first acts).timers.clock = setup.moment + elapsed acts
  opened : Opened setup first acts (after first acts).session.index since?
  closed_iff : (after first acts).session.closed = true ↔
    .close ∈ acts ∨ ∃ due, Expires setup first acts due
  /-- Nothing can be due any more but what has made the session expire. -/
  settled : (after first acts).session.closed = true →
    ∀ due, Due setup first acts due → Expires setup first acts due
  calls : ((after first acts).calls = [] ∧ ∀ due, ¬Expires setup first acts due) ∨
    ∃ due, (after first acts).calls = [(due, setup.action)] ∧
      ∀ other, Expires setup first acts other ↔ other = due

theorem matches_nil (h : Holds setup first (some setup.moment))
    (hclock : first.timers.clock = setup.moment) (hindex : first.session.index = 0)
    (hopen : first.session.closed = false) (hcalls : first.calls = []) :
    Matches setup first [] (some setup.moment) := by
  have hafter : after first [] = first := rfl
  constructor <;> rw [hafter]
  case holds => exact h
  case clock => exact hclock
  case opened =>
    rw [hindex]
    exact .begun
  case closed_iff => simp [hopen, not_expires_nil]
  case settled => simp [hopen]
  case calls => exact Or.inl ⟨hcalls, fun _ => not_expires_nil⟩

theorem Matches.due_iff (h : Matches setup first acts since?) (due : Nat) :
    Due setup first acts due ↔ .close ∉ acts ∧ since?.bind setup.due? = some due := by
  unfold Due
  constructor
  · rintro ⟨hclose, position, moment, hopened, hdue⟩
    obtain ⟨-, rfl⟩ := h.opened.unique hopened
    exact ⟨hclose, hdue⟩
  · rintro ⟨hclose, hdue⟩
    obtain ⟨since, rfl, hdue⟩ := Option.bind_eq_some_iff.mp hdue
    exact ⟨hclose, _, since, h.opened, hdue⟩

/-- An open session has neither been closed nor expired. -/
theorem Matches.of_open (h : Matches setup first acts since?)
    (hopen : (after first acts).session.closed = false) :
    .close ∉ acts ∧ (∀ due, ¬Expires setup first acts due) ∧ (after first acts).calls = [] := by
  have hnot : ¬(.close ∈ acts ∨ ∃ due, Expires setup first acts due) := by
    rw [← h.closed_iff, hopen]
    simp
  obtain ⟨hclose, hnone⟩ := not_or.mp hnot
  have hexpires : ∀ due, ¬Expires setup first acts due := fun due hdue => hnone ⟨due, hdue⟩
  refine ⟨hclose, hexpires, ?_⟩
  rcases h.calls with ⟨hcalls, -⟩ | ⟨due, -, hdue⟩
  · exact hcalls
  · exact absurd ((hdue due).mpr rfl) (hexpires due)

/-- Acts that neither open nor close anything leave all as it was said to be. -/
theorem Matches.of_quiet (h : Matches setup first acts since?)
    (hholds : Holds setup (after first (acts ++ [act])) since?)
    (hclock : (after first (acts ++ [act])).timers.clock =
      (after first acts).timers.clock + act.nanos)
    (hindex : (after first (acts ++ [act])).session.index = (after first acts).session.index)
    (hclosed : (after first (acts ++ [act])).session.closed = (after first acts).session.closed)
    (hcalls : (after first (acts ++ [act])).calls = (after first acts).calls)
    (hact : act ≠ .close) (hquiet : Quiet first acts act)
    (hexpires : ∀ due, Expires setup first (acts ++ [act]) due ↔ Expires setup first acts due) :
    Matches setup first (acts ++ [act]) since? := by
  constructor
  case holds => exact hholds
  case clock => rw [hclock, h.clock, PageAct.elapsed_concat, Nat.add_assoc]
  case opened =>
    rw [hindex]
    exact h.opened.kept hquiet
  case closed_iff =>
    simp only [hclosed, h.closed_iff, hexpires, List.mem_append, List.mem_singleton,
      or_iff_left (Ne.symm hact)]
  case settled =>
    rw [hclosed]
    intro hgone due hdue
    rw [hexpires]
    exact h.settled hgone due ((due_of_quiet hquiet).mp hdue).2
  case calls =>
    simp only [hcalls, hexpires]
    exact h.calls

/-- Looking at a page changes nothing, and neither does a turn that leads nowhere. -/
theorem Matches.of_still (h : Matches setup first acts since?)
    (hact : act = .current ∨ ∃ turn, act = .turn turn) (hquiet : Quiet first acts act) :
    after first (acts ++ [act]) = after first acts ∧
      Matches setup first (acts ++ [act]) since? := by
  have hsame : after first (acts ++ [act]) = after first acts := by
    rcases hact with rfl | ⟨turn, rfl⟩
    · exact after_concat acts .current
    · rw [after_concat, perform_of_quiet h.holds hquiet]
  have hnanos : act.nanos = 0 := by
    rcases hact with rfl | ⟨turn, rfl⟩ <;> rfl
  refine ⟨hsame, h.of_quiet ?_ ?_ ?_ ?_ ?_ ?_ hquiet fun due => expires_of_ne_advance ?_⟩
  · rw [hsame]
    exact h.holds
  · rw [hsame, hnanos, Nat.add_zero]
  · rw [hsame]
  · rw [hsame]
  · rw [hsame]
  · rintro rfl
    simp at hact
  · rintro nanos rfl
    simp at hact

/-- A turn that opens a page leaves the session open, whether it leads to the page or fails. -/
theorem Matches.of_turned (h : Matches setup first acts since?) {next? : Option Nat}
    (hopen : (after first acts).session.closed = false)
    (hturned : Turned setup (after first acts) turn next?)
    (hopened : Opened setup first (acts ++ [.turn turn])
      (PageTurn.clamp setup.pages.length
        (turn.aim (after first acts).session.index setup.pages.length)) next?) :
    Matches setup first (acts ++ [.turn turn]) next? := by
  have hexpires : ∀ due, Expires setup first (acts ++ [.turn turn]) due ↔
      Expires setup first acts due := fun due => expires_of_ne_advance (by simp)
  obtain ⟨hclose, hnone, hcalls⟩ := h.of_open hopen
  constructor <;> rw [after_concat]
  case holds => exact hturned.holds
  case clock =>
    rw [hturned.clock, h.clock, PageAct.elapsed_concat]
    rfl
  case opened =>
    rw [hturned.index]
    exact hopened
  case closed_iff => simp [hturned.closed, hexpires, hclose, hnone]
  case settled => simp [hturned.closed]
  case calls =>
    left
    simp only [hexpires]
    exact ⟨hturned.calls.trans hcalls, hnone⟩

theorem Matches.turned (h : Matches setup first acts since?)
    (hpossible : Possible setup (after first acts) turn) :
    ∃ next?, Matches setup first (acts ++ [.turn turn]) next? ∧
      (Leads first acts turn ∧ next? = some (setup.moment + elapsed acts) ∨
        Fails first acts turn ∧ next? = none) := by
  obtain ⟨hleads, hfails⟩ := turn_iff h.holds turn
  obtain ⟨hnot, -⟩ | ⟨-, next?, hturned⟩ := h.holds.turn_cases turn
  · exact absurd hpossible hnot
  · obtain ⟨-, -, ⟨hin, rfl, -⟩ | ⟨hpast, rfl, -⟩⟩ := hturned.shown
    · have hlead := hleads.mpr ⟨hpossible, hin⟩
      rw [h.clock] at hturned
      exact ⟨_, h.of_turned hpossible.1 hturned (h.opened.turned hlead), Or.inl ⟨hlead, rfl⟩⟩
    · have hfail := hfails.mpr ⟨hpossible, hpast⟩
      exact ⟨_, h.of_turned hpossible.1 hturned (h.opened.failed hfail), Or.inr ⟨hfail, rfl⟩⟩

theorem Matches.close (h : Matches setup first acts since?) :
    Matches setup first (acts ++ [.close]) since? := by
  have hexpires : ∀ due, Expires setup first (acts ++ [.close]) due ↔
      Expires setup first acts due := fun due => expires_of_ne_advance (by simp)
  obtain ⟨hholds, hclock, hindex, hclosed, hcalls⟩ := h.holds.close
  constructor <;> rw [after_concat]
  case holds => exact hholds
  case clock =>
    rw [hclock, h.clock, PageAct.elapsed_concat]
    rfl
  case opened =>
    rw [hindex]
    exact h.opened.kept (by simp)
  case closed_iff => simp [hclosed]
  case settled =>
    intro _ due hdue
    exact absurd (List.mem_append_right _ List.mem_cons_self) hdue.1
  case calls =>
    simp only [hexpires, hcalls]
    exact h.calls

/-- The session expires when its whole time is over, if it is still open then. -/
theorem Matches.expires (h : Matches setup first acts since?) {nanos due : Nat}
    (hopen : (after first acts).session.closed = false) (hdue : since?.bind setup.due? = some due)
    (hle : due ≤ setup.moment + elapsed acts + nanos) (other : Nat) :
    Expires setup first (acts ++ [.advance nanos]) other ↔ other = due := by
  obtain ⟨hclose, hnone, -⟩ := h.of_open hopen
  rw [expires_concat, or_iff_right (hnone other)]
  constructor
  · rintro ⟨_, -, hother, -⟩
    obtain ⟨-, hother⟩ := (h.due_iff other).mp hother
    exact Option.some.inj (hother.symm.trans hdue)
  · rintro rfl
    exact ⟨nanos, rfl, (h.due_iff other).mpr ⟨hclose, hdue⟩, hle⟩

theorem Matches.advance (h : Matches setup first acts since?) (nanos : Nat) :
    Matches setup first (acts ++ [.advance nanos]) since? := by
  have hquiet : Quiet first acts (.advance nanos) := fun _ => nofun
  obtain ⟨hholds, hclock, hindex, ⟨due, hopen, hdue, hle, hclosed, hcalls⟩ |
    ⟨hahead, hclosed, hcalls⟩⟩ := h.holds.advance nanos
  · rw [h.clock] at hle
    have hexpires := h.expires hopen hdue hle
    obtain ⟨hclose, -, hbefore⟩ := h.of_open hopen
    rw [hbefore, List.nil_append] at hcalls
    constructor <;> rw [after_concat]
    case holds => exact hholds
    case clock => rw [hclock, h.clock, PageAct.elapsed_concat, PageAct.nanos, Nat.add_assoc]
    case opened =>
      rw [hindex]
      exact h.opened.kept hquiet
    case closed_iff =>
      rw [hclosed]
      exact iff_of_true rfl (Or.inr ⟨due, (hexpires due).mpr rfl⟩)
    case settled =>
      intro _ other hother
      obtain ⟨-, hother⟩ := (due_of_quiet hquiet).mp hother
      rw [h.due_iff, hdue] at hother
      exact (hexpires other).mpr (Option.some.inj hother.2).symm
    case calls => exact Or.inr ⟨due, hcalls, hexpires⟩
  · rw [← after_concat] at hholds hclock hindex hclosed hcalls
    refine h.of_quiet hholds hclock hindex hclosed hcalls (by simp) hquiet fun due => ?_
    rw [expires_concat]
    constructor
    -- What is due in a closed session has made it expire, and an open one is not due yet.
    · rintro (hexpires | ⟨_, ⟨⟩, hdue, hle⟩)
      · exact hexpires
      · cases hopen : (after first acts).session.closed with
        | true => exact h.settled hopen due hdue
        | false =>
          have hlt := hahead hopen due ((h.due_iff due).mp hdue).2
          rw [h.clock] at hlt
          omega
    · exact Or.inl

theorem Matches.concat (h : Matches setup first acts since?) (act : PageAct) :
    ∃ next?, Matches setup first (acts ++ [act]) next? := by
  cases act with
  | turn turn =>
    by_cases hpossible : Possible setup (after first acts) turn
    · obtain ⟨next?, hnext, -⟩ := h.turned hpossible
      exact ⟨next?, hnext⟩
    · refine ⟨since?, (h.of_still (Or.inr ⟨turn, rfl⟩) ?_).2⟩
      rintro _ ⟨⟩
      simp [turn_iff h.holds turn, hpossible]
  | current => exact ⟨since?, (h.of_still (Or.inl rfl) fun _ => nofun).2⟩
  | close => exact ⟨since?, h.close⟩
  | advance nanos => exact ⟨since?, h.advance nanos⟩

theorem exists_matches (h : Matches setup first [] (some setup.moment)) (acts : List PageAct) :
    ∃ since?, Matches setup first acts since? := by
  induction acts using List.reverseRecOn with
  | nil => exact ⟨_, h⟩
  | append_singleton acts act ih =>
    obtain ⟨since?, hsince⟩ := ih
    exact hsince.concat act

/-! ## After a turn that failed -/

/-- Without another turn the session has no time that could end. -/
theorem Opened.append_of_none {position : Int} (h : Opened setup first acts position none)
    {later : List PageAct} (hlater : ∀ turn, .turn turn ∉ later) :
    Opened setup first (acts ++ later) position none := by
  induction later using List.reverseRecOn with
  | nil => rwa [List.append_nil]
  | append_singleton later act ih =>
    rw [← List.append_assoc]
    refine .kept (ih fun turn hturn => hlater turn (List.mem_append_left _ hturn)) ?_
    rintro turn rfl
    exact absurd (List.mem_append_right later List.mem_cons_self) (hlater turn)

theorem not_expires_append {position : Int} (h : Opened setup first acts position none)
    (hnone : ∀ due, ¬Expires setup first acts due) {later : List PageAct}
    (hlater : ∀ turn, .turn turn ∉ later) (due : Nat) :
    ¬Expires setup first (acts ++ later) due := by
  induction later using List.reverseRecOn with
  | nil =>
    rw [List.append_nil]
    exact hnone due
  | append_singleton later act ih =>
    have hearlier : ∀ turn, .turn turn ∉ later :=
      fun turn hturn => hlater turn (List.mem_append_left _ hturn)
    rw [← List.append_assoc, expires_concat]
    rintro (hexpires | ⟨_, -, ⟨-, _, _, hopened, -⟩, -⟩)
    · exact ih hearlier hexpires
    · cases ((h.append_of_none hearlier).unique hopened).2

/-- A session whose last turn failed is open until somebody closes it, and calls for nothing. -/
theorem Matches.stranded (h : Matches setup first acts since?) (hfails : Fails first acts turn)
    (hall : ∀ acts, ∃ since?, Matches setup first acts since?) {later : List PageAct}
    (hlater : ∀ other, .turn other ∉ later) :
    ((after first (acts ++ .turn turn :: later)).session.closed = true ↔ .close ∈ later) ∧
      (after first (acts ++ .turn turn :: later)).calls = [] := by
  obtain ⟨hpossible, -⟩ := (turn_iff h.holds turn).2.mp hfails
  obtain ⟨hclose, hnone, -⟩ := h.of_open hpossible.1
  obtain ⟨since?, hsince⟩ := hall (acts ++ .turn turn :: later)
  have hopened := h.opened.failed hfails
  have hnever : ∀ due, ¬Expires setup first (acts ++ .turn turn :: later) due := by
    rw [← List.singleton_append, ← List.append_assoc]
    refine not_expires_append hopened (fun due => ?_) hlater
    rw [expires_of_ne_advance (by simp)]
    exact hnone due
  constructor
  · rw [hsince.closed_iff]
    simp [hnever, hclose]
  · rcases hsince.calls with ⟨hcalls, -⟩ | ⟨due, -, hdue⟩
    · exact hcalls
    · exact absurd ((hdue due).mpr rfl) (hnever due)

/-! ## What may be relied upon -/

/-- What a session makes of acts: which page is open, what it answers, and when it closes. -/
structure AsTurned (setup : PageSetup T) (first : PageRun T) (acts : List PageAct) : Prop where
  /-- The page that is open exists, unless there are no pages. -/
  index : setup.pages = [] ∨ (after first acts).session.index < setup.pages.length
  /-- It is the one to which the turns have led. -/
  opened : ∃ since?, ∀ position moment?, Opened setup first acts position moment? ↔
    position = (after first acts).session.index ∧ moment? = since?
  /-- A turn leads to a page while the session is open, if it has the page and a timer can be set
  for the end of its whole time. -/
  leads : ∀ turn, Leads first acts turn ↔ (after first acts).session.closed = false ∧
    setup.pages ≠ [] ∧ (∀ page, turn = .goto page → page < setup.pages.length) ∧
      setup.InTime (setup.moment + elapsed acts)
  /-- It answers the page that is open then. -/
  shown : ∀ turn, Leads first acts turn → ∃ page,
    setup.pages[(after first (acts ++ [.turn turn])).session.index]? = some page ∧
      answer first acts (.turn turn) = .ok (some page)
  /-- A turn fails if all is the same, but no timer can be set. -/
  fails : ∀ turn, Fails first acts turn ↔ (after first acts).session.closed = false ∧
    setup.pages ≠ [] ∧ (∀ page, turn = .goto page → page < setup.pages.length) ∧
      ¬setup.InTime (setup.moment + elapsed acts)
  /-- The session does not expire then before another turn: it is open until somebody closes it, and
  calls for nothing. -/
  stranded : ∀ turn, Fails first acts turn → ∀ later, (∀ other, .turn other ∉ later) →
    ((after first (acts ++ .turn turn :: later)).session.closed = true ↔ .close ∈ later) ∧
      (after first (acts ++ .turn turn :: later)).calls = []
  /-- A turn that leads nowhere and does not fail changes nothing. -/
  refused : ∀ turn, ¬Leads first acts turn → ¬Fails first acts turn →
    answer first acts (.turn turn) = .ok none ∧
    after first (acts ++ [.turn turn]) = after first acts
  /-- Looking at the page that is open changes nothing. -/
  looked : answer first acts .current = .ok (if (after first acts).session.closed then none
      else setup.pages[(after first acts).session.index]?) ∧
    after first (acts ++ [.current]) = after first acts
  /-- It is closed once somebody has closed it, or it has expired. -/
  closed_iff : (after first acts).session.closed = true ↔
    .close ∈ acts ∨ ∃ due, Expires setup first acts due
  /-- It never opens again. -/
  stays_closed : (after first acts).session.closed = true → ∀ later,
    (after first (acts ++ later)).session.closed = true
  /-- It calls for its action at the moment at which it expires, and not at any other time. -/
  calls : ((after first acts).calls = [] ∧ ∀ due, ¬Expires setup first acts due) ∨
    ∃ due, (after first acts).calls = [(due, setup.action)] ∧
      ∀ other, Expires setup first acts other ↔ other = due

theorem Expires.append {due : Nat} (h : Expires setup first acts due) (later : List PageAct) :
    Expires setup first (acts ++ later) due := by
  obtain ⟨before, nanos, after, rfl, hdue⟩ := h
  exact ⟨before, nanos, after ++ later, by simp, hdue⟩

theorem Matches.asTurned (h : Matches setup first acts since?)
    (hall : ∀ acts, ∃ since?, Matches setup first acts since?) : AsTurned setup first acts := by
  have hturns := turn_iff h.holds
  rw [h.clock] at hturns
  constructor
  case index => exact h.holds.index
  case opened =>
    refine ⟨since?, fun position moment? => ⟨fun hother => hother.unique h.opened, ?_⟩⟩
    rintro ⟨rfl, rfl⟩
    exact h.opened
  case leads =>
    intro turn
    simp only [hturns, Possible, and_assoc]
  case shown =>
    intro turn hleads
    rw [after_concat]
    obtain ⟨-, hturn⟩ | ⟨-, _, hturned⟩ := h.holds.turn_cases turn
    · obtain ⟨page, hpage⟩ := hleads
      cases (congrArg Prod.fst hturn).symm.trans hpage
    · obtain ⟨page, hopen, ⟨-, -, hshown⟩ | ⟨-, -, hfails⟩⟩ := hturned.shown
      · exact ⟨page, hopen, hshown⟩
      · exact absurd hleads (not_leads_of_fails hfails)
  case fails =>
    intro turn
    simp only [hturns, Possible, and_assoc]
  case stranded =>
    intro turn hfails later hlater
    exact h.stranded hfails hall hlater
  case refused =>
    intro turn hleads hfails
    have hquiet : Quiet first acts (.turn turn) := by
      rintro _ ⟨⟩
      exact ⟨hleads, hfails⟩
    constructor
    · exact congrArg Prod.fst (perform_of_quiet h.holds hquiet)
    · exact (h.of_still (Or.inr ⟨turn, rfl⟩) hquiet).1
  case looked =>
    constructor
    · rw [← h.holds.pages]
      rfl
    · exact (h.of_still (Or.inl rfl) fun _ => nofun).1
  case closed_iff => exact h.closed_iff
  case stays_closed =>
    intro hclosed later
    obtain ⟨moment, hlater⟩ := hall (acts ++ later)
    rw [h.closed_iff] at hclosed
    rw [hlater.closed_iff]
    refine hclosed.imp (List.mem_append_left later) ?_
    rintro ⟨due, hdue⟩
    exact ⟨due, hdue.append later⟩
  case calls => exact h.calls

/-- A session can be made unless it would expire past the horizon, and does as it should then. It
expires on time where the task wakes at the exact moment of a deadline, as in
`TimedTimers.advance`. -/
theorem sessions_run_as_turned (setup : PageSetup T) :
    (¬setup.InTime setup.moment ∧ setup.start? = .error .pastHorizon) ∨
    setup.InTime setup.moment ∧ ∃ first, setup.start? = .ok first ∧
      ∀ acts, AsTurned setup first acts := by
  apply (start?_cases setup).imp_right
  rintro ⟨hin, first, hstart, hholds, hclock, hindex, hopen, hcalls⟩
  refine ⟨hin, first, hstart, fun acts => ?_⟩
  have hall := exists_matches (matches_nil hholds hclock hindex hopen hcalls)
  obtain ⟨since?, hsince⟩ := hall acts
  exact hsince.asTurned hall

/-- Two pages, and a time that ends 5 ns before the horizon. -/
def lateSetup : PageSetup String :=
  ⟨["one", "two"], some ⟨Timers.horizon - 5⟩, .dismiss, 0⟩

/-- A turn 10 ns after such a session was made fails. The page is turned all the same, and the
session expires neither when its time since it was made is over nor at any other moment. -/
theorem failed_turn_ends_expiry : ∃ first, lateSetup.start? = .ok first ∧
    answer first [.advance 10] (.turn .next) = .error .pastHorizon ∧
    (after first [.advance 10, .turn .next]).session.index = 1 ∧
    ∀ nanos, (after first [.advance 10, .turn .next, .advance nanos]).session.closed = false ∧
      (after first [.advance 10, .turn .next, .advance nanos]).calls = [] := by
  rcases start?_cases lateSetup with ⟨hpast, -⟩ |
    ⟨-, first, hstart, hholds, hclock, hindex, hopen, hcalls⟩
  · simp [PageSetup.InTime, lateSetup] at hpast
  have hall := exists_matches (matches_nil hholds hclock hindex hopen hcalls)
  obtain ⟨_, hmatches⟩ := hall [.advance 10]
  obtain ⟨-, -, hstays, ⟨due, -, hdue, hle, -⟩ | ⟨-, hstill, -⟩⟩ := hholds.advance 10
  · cases hdue
    rw [hclock] at hle
    exact absurd hle (by decide)
  have hpossible : Possible lateSetup (after first [.advance 10]) .next :=
    ⟨hstill.trans hopen, by simp [lateSetup], by simp⟩
  have hpast : ¬lateSetup.InTime (after first [.advance 10]).timers.clock := by
    rw [hmatches.clock, PageSetup.inTime_iff rfl]
    decide
  have hfails : Fails first [.advance 10] .next :=
    (turn_iff hmatches.holds .next).2.mpr ⟨hpossible, hpast⟩
  refine ⟨first, hstart, hfails, ?_, fun nanos => ?_⟩
  · obtain ⟨hnot, -⟩ | ⟨-, _, hturned⟩ := hmatches.holds.turn_cases .next
    · exact absurd hpossible hnot
    · have hnext := hturned.index
      rw [show (after first [.advance 10]).session.index = 0 from hstays.trans hindex] at hnext
      exact Int.ofNat.inj hnext
  · have hturns : ∀ other, PageAct.turn other ∉ [.advance nanos] := by simp
    simpa using hmatches.stranded hfails hall hturns

/-- A turn gives the session its whole time again, and a look does not. -/
example : (PageSetup.start? ⟨["one", "two"], some ⟨50⟩, .dismiss, 0⟩).toOption.map (fun first =>
    (after first [.advance 20, .turn .next, .advance 40, .current, .advance 15]).calls) =
      some [(70, .dismiss)] := by
  decide +kernel

end PageRun

end ChatCommands
