import Mathlib.Logic.Relation
import ChatCommands.Proofs.Pages.Turning

/-! # Page sessions under all interleavings

A reader turns pages and closes the session while the task fires its timers, and a job that was
handed over runs at any later time. A turn and a close do not see a job that is on its way. Such a
job still makes its call, and a turn that overtakes it gives the session one more.
-/

namespace ChatCommands

open Relation

/-- What is seen of a page session. -/
inductive PageEvent
  /-- A page was turned to, or not, with so many jobs on their way. -/
  | turned (shown : Bool) (onTheWay : Nat)
  | closed (onTheWay : Nat)
  /-- The session expired, and its action was called for. -/
  | called (action : ExpiryAction)

namespace PageEvent

/-- The calls that were made. -/
def calls (log : List PageEvent) : List ExpiryAction :=
  log.filterMap fun
    | called action => some action
    | _ => none

/-- A page was turned to while a job was on its way. -/
def overtakes : PageEvent → Bool
  | turned shown onTheWay => shown && onTheWay != 0
  | _ => false

theorem calls_append (log later : List PageEvent) :
    calls (log ++ later) = calls log ++ calls later :=
  List.filterMap_append

end PageEvent

/-- A page session and its timers, whose jobs all do the same. -/
structure PageHistory (T : Type) where
  clock : Nat := 0
  timers : Timers Unit := {}
  session : PageSession T
  log : List PageEvent := []

namespace PageHistory

open PageEvent

variable {T : Type}

def timed (h : PageHistory T) : TimedTimers Unit :=
  ⟨h.clock, h.timers⟩

def turn (h : PageHistory T) (turn : PageTurn) : PageHistory T :=
  let turned := h.session.turn turn h.timed ()
  { h with
    timers := turned.2.2.timers
    session := turned.2.1
    log := h.log ++
      [.turned (turned.1.toOption.any Option.isSome) h.timers.handed.length] }

def close (h : PageHistory T) : PageHistory T :=
  let closed := h.session.close h.timed
  { h with
    timers := closed.2.timers
    session := closed.1
    log := h.log ++ [.closed h.timers.handed.length] }

/-- The job of one of the session's timers runs. -/
def expire (h : PageHistory T) : PageHistory T :=
  let expired := h.session.expire
  { h with session := expired.2, log := h.log ++ expired.1.toList.map .called }

/-- The steps of a session. Looking at the open page is none, as it changes nothing. -/
inductive Step : PageHistory T → PageHistory T → Prop
  | tick (h : PageHistory T) (nanos : Nat) : Step h { h with clock := h.clock + nanos }
  | turn (h : PageHistory T) (turn : PageTurn) : Step h (h.turn turn)
  | close (h : PageHistory T) : Step h h.close
  | task {h : PageHistory T} {t : Timers Unit} : Timers.TaskStep h.clock h.timers t →
      Step h { h with timers := t }
  | run {h : PageHistory T} (position : Nat) {t : Timers Unit} :
      h.timers.takeHanded? position = some ((), t) → Step h { h with timers := t }.expire

/-- The history begins with a session that was just made, with an action if it may expire. -/
def Begins (action : ExpiryAction) (h : PageHistory T) : Prop :=
  ∃ pages expiry? clock timers, PageSession.withExpiry? pages expiry? action ⟨clock, {}⟩ () =
    .ok (h.session, timers) ∧ h.clock = timers.clock ∧ h.timers = timers.timers ∧ h.log = []

def Reachable (action : ExpiryAction) (h : PageHistory T) : Prop :=
  ∃ first, Begins action first ∧ ReflTransGen Step first h

/-- What is known of a session: at most the timer set last is pending, and there are not more jobs
than the first one and one for each time that a turn has overtaken one. -/
structure Kept (action : ExpiryAction) (h : PageHistory T) : Prop where
  index : h.session.pages = [] ∨ h.session.index < h.session.pages.length
  callback : ∀ timeout, h.session.timeout? = some timeout → timeout.callback? = some action
  sole : ∀ id, h.timers.isPending id = true →
    ∃ timeout, h.session.timeout? = some timeout ∧ timeout.current? = some id
  budget : (calls h.log).length + h.timers.handed.length ≤ 1 + h.log.countP overtakes
  budget_armed : ∀ id, h.timers.isPending id = true →
    (calls h.log).length + h.timers.handed.length ≤ h.log.countP overtakes
  uncalled : h.session.closed = false → calls h.log = []
  closed : ∀ before onTheWay after, h.log = before ++ .closed onTheWay :: after →
    h.session.closed = true ∧ (∀ id, h.timers.isPending id = false) ∧
      (calls after).length + h.timers.handed.length ≤ onTheWay
  action : ∀ made ∈ calls h.log, made = action

variable {action : ExpiryAction} {h h' : PageHistory T}

theorem Kept.holds (hk : h.Kept action) {timeout : Timeout ExpiryAction}
    (htimeout : h.session.timeout? = some timeout) : timeout.Sole h.timed := by
  intro id hid
  obtain ⟨held, hheld, hcurrent⟩ := hk.sole id hid
  cases htimeout.symm.trans hheld
  exact hcurrent

/-- A step of the task that fires nothing is not seen. -/
theorem Kept.still (hk : h.Kept action) {t : Timers Unit} (harms : t.arms = h.timers.arms)
    (hhanded : t.handed = h.timers.handed) : Kept action { h with timers := t } := by
  have hpending := Timers.isPending_congr harms
  constructor
  case index => exact hk.index
  case callback => exact hk.callback
  case sole =>
    intro id hid
    rw [hpending] at hid
    exact hk.sole id hid
  case budget =>
    rw [hhanded]
    exact hk.budget
  case budget_armed =>
    intro id hid
    rw [hpending] at hid
    rw [hhanded]
    exact hk.budget_armed id hid
  case uncalled => exact hk.uncalled
  case closed =>
    simp only [hpending, hhanded]
    exact hk.closed
  case action => exact hk.action

/-- The task takes a job from the only timer that is pending. -/
theorem Kept.fired (hk : h.Kept action) {t : Timers Unit} {id : Nat}
    (hid : h.timers.isPending id = true) (harms : t.arms = h.timers.arms.set id .fired)
    (hhanded : t.handed = h.timers.handed ++ [()]) : Kept action { h with timers := t } := by
  have hpending : ∀ other, t.isPending other = false := by
    intro other
    rw [← Bool.not_eq_true]
    intro hother
    obtain ⟨hne, hother⟩ := (Timers.isPending_set hid (by decide) harms).mp hother
    obtain ⟨timeout, htimeout, hcurrent⟩ := hk.sole id hid
    exact hne (Option.some.inj ((hk.holds htimeout other hother).symm.trans hcurrent))
  have hlength : t.handed.length = h.timers.handed.length + 1 := by
    rw [hhanded, List.length_append, List.length_singleton]
  have hbudget := hk.budget_armed id hid
  constructor
  case index => exact hk.index
  case callback => exact hk.callback
  case sole =>
    intro other hother
    cases (hpending other).symm.trans hother
  case budget =>
    simp only
    omega
  case budget_armed =>
    intro other hother
    cases (hpending other).symm.trans hother
  case uncalled => exact hk.uncalled
  case closed =>
    intro before onTheWay after hlog
    obtain ⟨-, hnone, -⟩ := hk.closed before onTheWay after hlog
    cases (hnone id).symm.trans hid
  case action => exact hk.action

theorem Kept.task (hk : h.Kept action) {t : Timers Unit}
    (hs : Timers.TaskStep h.clock h.timers t) : Kept action { h with timers := t } := by
  rcases hs.ends with ⟨harms, hhanded⟩ | ⟨id, job, hid, harms, hhanded⟩
  · exact hk.still harms hhanded
  · exact hk.fired hid harms hhanded

/-- A turn leaves the jobs alone that are on their way. It may set another timer in an open session,
and shows a page then. -/
theorem Kept.turned (hk : h.Kept action) {index : Nat}
    {timeout? : Option (Timeout ExpiryAction)} {timers : Timers Unit} {shown : Bool}
    (hindex : h.session.pages = [] ∨ index < h.session.pages.length)
    (hcallback : ∀ timeout, timeout? = some timeout → timeout.callback? = some action)
    (hhanded : timers.handed = h.timers.handed)
    (hsole : ∀ id, timers.isPending id = true →
      ∃ timeout, timeout? = some timeout ∧ timeout.current? = some id)
    (hset : ∀ id, timers.isPending id = true →
      h.timers.isPending id = true ∨ h.session.closed = false ∧ shown = true) :
    Kept action { h with
      session := { h.session with index := index, timeout? := timeout? }
      timers := timers
      log := h.log ++ [.turned shown h.timers.handed.length] } := by
  have hcalls : calls (h.log ++ [PageEvent.turned shown h.timers.handed.length]) =
      calls h.log := by
    rw [calls_append]
    exact List.append_nil _
  have hlate : (h.log ++ [PageEvent.turned shown h.timers.handed.length]).countP overtakes =
      h.log.countP overtakes + if shown && h.timers.handed.length != 0 then 1 else 0 := by
    rw [List.countP_append, List.countP_singleton]
    rfl
  constructor
  case index => exact hindex
  case callback => exact hcallback
  case sole => exact hsole
  case budget =>
    have hbudget := hk.budget
    simp only [hcalls, hlate, hhanded]
    omega
  case budget_armed =>
    intro id hid
    simp only [hcalls, hlate, hhanded]
    rcases hset id hid with hid | ⟨hopen, rfl⟩
    · have hbudget := hk.budget_armed id hid
      omega
    · have hbudget := hk.budget
      rw [hk.uncalled hopen] at hbudget ⊢
      simp only [List.length_nil, Nat.zero_add, Bool.true_and, bne_iff_ne, ne_eq] at hbudget ⊢
      split <;> omega
  case uncalled =>
    intro hopen
    rw [hcalls]
    exact hk.uncalled hopen
  case closed =>
    intro before onTheWay after hlog
    rcases TimerAct.concat_eq_append_cons hlog with ⟨-, hentry, -⟩ | ⟨rest, hbefore, rfl⟩
    · cases hentry
    obtain ⟨hgone, hnone, hleft⟩ := hk.closed before onTheWay rest hbefore
    refine ⟨hgone, fun id => ?_, ?_⟩
    · rw [← Bool.not_eq_true]
      intro hid
      rcases hset id hid with hid | ⟨hopen, -⟩
      · cases (hnone id).symm.trans hid
      · cases hopen.symm.trans hgone
    · rw [calls_append, hhanded]
      simpa [calls] using hleft
  case action =>
    intro made hmade
    rw [hcalls] at hmade
    exact hk.action made hmade

theorem Kept.turn (hk : h.Kept action) (turn : PageTurn) : Kept action (h.turn turn) := by
  unfold PageHistory.turn
  rcases h.session.turn_cases turn h.timed () with
    ⟨-, hturn⟩ | ⟨hopen, hpages, index, htarget, ⟨-, hturn⟩ | ⟨timeout, htimeout, hturn⟩⟩
  · rw [hturn]
    exact hk.turned hk.index hk.callback rfl hk.sole fun id hid => Or.inl hid
  · have hlt := turn.target?_lt htarget (hk.index.resolve_left hpages)
    rw [hturn]
    exact hk.turned (Or.inr hlt) hk.callback rfl hk.sole fun id hid => Or.inl hid
  · have hlt := turn.target?_lt htarget (hk.index.resolve_left hpages)
    have hsole := hk.holds htimeout
    rw [hturn]
    refine hk.turned (Or.inr hlt) ?_ (timeout.handed_restart h.timed ()) ?_ ?_
    · rintro _ ⟨⟩
      exact (timeout.keeps_restart h.timed ()).callback?.trans (hk.callback timeout htimeout)
    · intro id hid
      exact ⟨_, rfl, hsole.restart () id hid⟩
    · intro id hid
      right
      constructor
      · exact hopen
      · cases hrestart : (timeout.restart h.timed ()).1 with
        | error e => cases (hsole.restart_error hrestart id).symm.trans hid
        | ok armed => simp [Except.map, Except.toOption, List.getElem?_eq_getElem hlt]

/-- Once a session was closed nothing is pending, and only the jobs on their way are left. -/
theorem Kept.closes (hk : h.Kept action) {timeout? : Option (Timeout ExpiryAction)}
    {timers : Timers Unit}
    (hcallback : ∀ timeout, timeout? = some timeout → timeout.callback? = some action)
    (hhanded : timers.handed = h.timers.handed) (hnone : ∀ id, timers.isPending id = false) :
    Kept action { h with
      session := { h.session with closed := true, timeout? := timeout? }
      timers := timers
      log := h.log ++ [.closed h.timers.handed.length] } := by
  have hcalls : calls (h.log ++ [PageEvent.closed h.timers.handed.length]) = calls h.log := by
    rw [calls_append]
    exact List.append_nil _
  constructor
  case index => exact hk.index
  case callback => exact hcallback
  case sole =>
    intro id hid
    cases (hnone id).symm.trans hid
  case budget =>
    have hbudget := hk.budget
    simp only [hcalls, hhanded, List.countP_append]
    omega
  case budget_armed =>
    intro id hid
    cases (hnone id).symm.trans hid
  case uncalled =>
    rintro ⟨⟩
  case closed =>
    intro before onTheWay after hlog
    refine ⟨rfl, hnone, ?_⟩
    rcases TimerAct.concat_eq_append_cons hlog with ⟨rfl, hentry, rfl⟩ | ⟨rest, hbefore, rfl⟩
    · cases hentry
      rw [hhanded]
      exact Nat.le_of_eq (Nat.zero_add _)
    · obtain ⟨-, -, hleft⟩ := hk.closed before onTheWay rest hbefore
      rw [calls_append, hhanded]
      simpa [calls] using hleft
  case action =>
    intro made hmade
    rw [hcalls] at hmade
    exact hk.action made hmade

theorem Kept.close (hk : h.Kept action) : Kept action h.close := by
  unfold PageHistory.close
  rcases h.session.close_cases h.timed with ⟨hnever, hclose⟩ | ⟨timeout, htimeout, hclose⟩
  · rw [hclose]
    apply hk.closes hk.callback rfl
    intro id
    rw [← Bool.not_eq_true]
    intro hid
    obtain ⟨timeout, htimeout, -⟩ := hk.sole id hid
    cases hnever.symm.trans htimeout
  · rw [hclose]
    refine hk.closes ?_ (timeout.handed_stop h.timed) (hk.holds htimeout).stop
    rintro _ ⟨⟩
    exact (timeout.keeps_stop h.timed).callback?.trans (hk.callback timeout htimeout)

/-- A job that has run is no longer on its way. The call it may have made is the last one. -/
theorem Kept.ran (hk : h.Kept action) {t : Timers Unit} {made? : Option ExpiryAction}
    (hmade : ∀ made ∈ made?, made = action) (harms : t.arms = h.timers.arms)
    (hhanded : t.handed.length + 1 = h.timers.handed.length) :
    Kept action { h with
      timers := t
      session := { h.session with closed := true }
      log := h.log ++ made?.toList.map .called } := by
  have hpending := Timers.isPending_congr harms
  have hcalls : ∀ log,
      calls (log ++ made?.toList.map PageEvent.called) = calls log ++ made?.toList := by
    intro log
    rw [calls_append]
    cases made? <;> rfl
  have hlate : (h.log ++ made?.toList.map PageEvent.called).countP overtakes =
      h.log.countP overtakes := by
    rw [List.countP_append]
    cases made? <;> rfl
  have hone : made?.toList.length ≤ 1 := by
    cases made? <;> simp
  constructor
  case index => exact hk.index
  case callback => exact hk.callback
  case sole =>
    intro id hid
    rw [hpending] at hid
    exact hk.sole id hid
  case budget =>
    have hbudget := hk.budget
    simp only [hcalls, hlate, List.length_append]
    omega
  case budget_armed =>
    intro id hid
    rw [hpending] at hid
    have hbudget := hk.budget_armed id hid
    simp only [hcalls, hlate, List.length_append]
    omega
  case uncalled =>
    rintro ⟨⟩
  case closed =>
    intro before onTheWay after hlog
    have hsplit : ∃ rest, h.log = before ++ .closed onTheWay :: rest ∧
        after = rest ++ made?.toList.map .called := by
      cases made? with
      | none => exact ⟨after, (List.append_nil _).symm.trans hlog, (List.append_nil _).symm⟩
      | some made =>
        rcases TimerAct.concat_eq_append_cons hlog with ⟨-, hentry, -⟩ | hrest
        · cases hentry
        · exact hrest
    obtain ⟨rest, hbefore, rfl⟩ := hsplit
    obtain ⟨-, hnone, hleft⟩ := hk.closed before onTheWay rest hbefore
    refine ⟨rfl, fun id => (hpending id).trans (hnone id), ?_⟩
    simp only [hcalls, List.length_append]
    omega
  case action =>
    intro made hmem
    rw [hcalls, List.mem_append, Option.mem_toList] at hmem
    rcases hmem with hmem | hmem
    · exact hk.action made hmem
    · exact hmade made hmem

theorem Kept.run (hk : h.Kept action) {position : Nat} {t : Timers Unit}
    (htake : h.timers.takeHanded? position = some ((), t)) :
    Kept action { h with timers := t }.expire := by
  obtain ⟨_, hjob, heq⟩ := Option.map_eq_some_iff.mp htake
  obtain ⟨hlt, -⟩ := List.getElem?_eq_some_iff.mp hjob
  obtain rfl := (Prod.mk.inj heq).2
  have hmade : ∀ made ∈ h.session.expire.1, made = action := by
    intro made hmade
    obtain ⟨timeout, htimeout, hcallback⟩ := Option.bind_eq_some_iff.mp hmade
    rw [hk.callback timeout htimeout] at hcallback
    exact (Option.some.inj hcallback).symm
  have hfewer : (h.timers.handed.eraseIdx position).length + 1 = h.timers.handed.length := by
    rw [List.length_eraseIdx_of_lt hlt]
    omega
  exact hk.ran hmade rfl hfewer

theorem Kept.step (hk : h.Kept action) (hs : h.Step h') : Kept action h' := by
  cases hs with
  | tick nanos => exact ⟨hk.index, hk.callback, hk.sole, hk.budget, hk.budget_armed, hk.uncalled,
      hk.closed, hk.action⟩
  | turn turn => exact hk.turn turn
  | close => exact hk.close
  | task hs => exact hk.task hs
  | run position htake => exact hk.run htake

/-- Nothing has happened to a session yet, and no job is on its way. -/
theorem kept_of_log (hlog : h.log = []) (hhanded : h.timers.handed = [])
    (hindex : h.session.pages = [] ∨ h.session.index < h.session.pages.length)
    (hcallback : ∀ timeout, h.session.timeout? = some timeout → timeout.callback? = some action)
    (hsole : ∀ id, h.timers.isPending id = true →
      ∃ timeout, h.session.timeout? = some timeout ∧ timeout.current? = some id) :
    Kept action h := by
  constructor
  case index => exact hindex
  case callback => exact hcallback
  case sole => exact hsole
  case budget => simp [hlog, hhanded, calls]
  case budget_armed => simp [hlog, hhanded, calls]
  case uncalled => simp [hlog, calls]
  case closed => simp [hlog]
  case action => simp [hlog, calls]

theorem kept_begins (hb : Begins action h) : Kept action h := by
  obtain ⟨pages, expiry?, clock, timers, hnew, -, htimers, hlog⟩ := hb
  obtain ⟨hindex, hsession⟩ := PageSession.withExpiry?_cases hnew
  have hnone : ∀ id, Timers.isPending ({} : Timers Unit) id = false := fun _ => rfl
  rcases hsession with ⟨hnever, rfl⟩ | ⟨timeout, hcallback, htimeout, rfl⟩
  · apply kept_of_log hlog _ hindex
    · intro timeout htimeout
      cases hnever.symm.trans htimeout
    · intro id hid
      rw [htimers] at hid
      cases (hnone id).symm.trans hid
    · rw [htimers]
  · have hsole : (timeout.arm ⟨clock, {}⟩ ()).2.1.Sole (timeout.arm ⟨clock, {}⟩ ()).2.2 :=
      Timeout.sole_arm hnone ()
    apply kept_of_log hlog _ hindex
    · rw [htimeout]
      rintro _ ⟨⟩
      exact (timeout.keeps_arm ⟨clock, {}⟩ ()).callback?.trans hcallback
    · intro id hid
      rw [htimers] at hid
      exact ⟨_, htimeout, hsole id hid⟩
    · rw [htimers]
      exact timeout.handed_arm ⟨clock, {}⟩ ()

theorem Reachable.kept (hr : Reachable action h) : Kept action h := by
  obtain ⟨first, hb, hr⟩ := hr
  induction hr with
  | refl => exact kept_begins hb
  | tail _ hs ih => exact ih.step hs

/-- How often a session expires. Jobs that are on their way count as calls to come. -/
structure ExpiryBounded (action : ExpiryAction) (h : PageHistory T) : Prop where
  /-- It expires once, and once more for each turn that overtook a job. -/
  calls_le : (calls h.log).length + h.timers.handed.length ≤ 1 + h.log.countP overtakes
  /-- It is closed after a close, and what was not on its way then does not come any more. -/
  after_close : ∀ before onTheWay after, h.log = before ++ .closed onTheWay :: after →
    h.session.closed = true ∧ (calls after).length + h.timers.handed.length ≤ onTheWay
  open_uncalled : h.session.closed = false → calls h.log = []
  action : ∀ made ∈ calls h.log, made = action

/-- A turn that overtakes a job lets the session run out again. A close that both jobs miss does not
keep them from their calls. -/
theorem race_reachable : ∃ h : PageHistory Unit, Reachable .dismiss h ∧
    h.log = [.turned true 1, .closed 2, .called .dismiss, .called .dismiss] := by
  let first : PageHistory Unit :=
    { timers := { arms := [.armed], inbox := [.schedule 0 1 ()] }
      session := { pages := [()], timeout? := some ⟨⟨1⟩, true, some .dismiss, some 0⟩ } }
  have hbegins : Begins .dismiss first := ⟨[()], some ⟨1⟩, 0, _, rfl, rfl, rfl, rfl⟩
  have hfired := (((ReflTransGen.refl.tail (Step.task (h := first) (.receive rfl rfl))).tail
    (.tick _ 1)).tail (.task (.wake rfl rfl))).tail
      (.task (.rest (fun _ => true) rfl rfl fun _ _ => rfl))
  have hagain := (((hfired.tail (.turn _ .next)).tail (.task (.receive rfl rfl))).tail
    (.tick _ 1)).tail (.task (.wake rfl rfl))
  have hran := ((hagain.tail (.close _)).tail (.run 0 rfl)).tail (.run 0 rfl)
  exact ⟨_, ⟨first, hbegins, hran⟩, rfl⟩

theorem expiries_bounded (hr : Reachable action h) : h.ExpiryBounded action := by
  have hk := hr.kept
  constructor
  case calls_le => exact hk.budget
  case after_close =>
    intro before onTheWay after hlog
    obtain ⟨hclosed, -, hleft⟩ := hk.closed before onTheWay after hlog
    exact ⟨hclosed, hleft⟩
  case open_uncalled => exact hk.uncalled
  case action => exact hk.action

/-- The bounds are met by a session that expires twice. -/
theorem expiries_bounded_race : ∃ h : PageHistory Unit, Reachable .dismiss h ∧
    (calls h.log).length = 1 + h.log.countP overtakes ∧ h.ExpiryBounded .dismiss := by
  obtain ⟨h, hr, hlog⟩ := race_reachable
  refine ⟨h, hr, ?_, expiries_bounded hr⟩
  rw [hlog]
  rfl

/-- A session may expire twice, and after it was closed. -/
theorem expires_twice_after_close : ∃ h : PageHistory Unit, Reachable .dismiss h ∧
    calls h.log = [.dismiss, .dismiss] ∧ ∃ before onTheWay after,
      h.log = before ++ .closed onTheWay :: after ∧ calls after = [.dismiss, .dismiss] := by
  obtain ⟨h, hr, hlog⟩ := race_reachable
  refine ⟨h, hr, ?_, [.turned true 1], 2, [.called .dismiss, .called .dismiss], hlog, rfl⟩
  rw [hlog]
  rfl

end PageHistory

end ChatCommands
