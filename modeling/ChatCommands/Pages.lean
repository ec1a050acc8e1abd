import ChatCommands.Timer.Timeout

/-! # Page sessions

A reader turns the pages of a listing. Showing it is up to the host; the session knows which page
is open. A session may expire when nobody turns a page for long enough.
-/

namespace ChatCommands

/-- What becomes of a listing once its session has expired. -/
inductive ExpiryAction
  | dismiss
  /-- The last page stays, but cannot be turned any more. -/
  | leaveVisible
  deriving DecidableEq, Repr, Inhabited

/-- A session over pages of type `T`. -/
structure PageSession (T : Type) where
  pages : List T
  index : Nat := 0
  closed : Bool := false
  /-- Absent from a session that never expires. -/
  timeout? : Option (Timeout ExpiryAction) := none
  deriving Repr, Inhabited

inductive PageTurn
  | next
  | previous
  | first
  | last
  /-- Counted from zero. -/
  | goto (page : Nat)
  deriving DecidableEq, Repr

namespace PageTurn

/-- The page that a turn leads to, of `count` pages. Turns stop at both ends, and pages that do not
exist lead nowhere. -/
def target? (turn : PageTurn) (index count : Nat) : Option Nat :=
  match turn with
  | next => some (min (index + 1) (count - 1))
  | previous => some (index - 1)
  | first => some 0
  | last => some (count - 1)
  | goto page => if page < count then some page else none

end PageTurn

namespace PageSession

variable {T J : Type}

def new (pages : List T) : PageSession T :=
  { pages := pages }

/-- A session that expires after a time without a turn. `job` is what its timers run. -/
def withExpiry (pages : List T) (expiry : Duration) (action : ExpiryAction)
    (timers : TimedTimers J) (job : J) : Except TimerError (PageSession T × TimedTimers J) :=
  let started := Timeout.start ⟨expiry, true, some action, none⟩ timers job
  started.1.map fun _ => ({ pages := pages, timeout? := some started.2.1 }, started.2.2)

/-- A session that expires if an expiry is given. -/
def withExpiry? (pages : List T) (expiry? : Option Duration) (action : ExpiryAction)
    (timers : TimedTimers J) (job : J) : Except TimerError (PageSession T × TimedTimers J) :=
  match expiry? with
  | some expiry => withExpiry pages expiry action timers job
  | none => .ok (new pages, timers)

/-- The open page. Looking at it does not count as a turn. -/
def current? (s : PageSession T) : Option T :=
  if s.closed then none else s.pages[s.index]?

/-- Turns a page, which gives the session its whole time again. -/
def turn (s : PageSession T) (turn : PageTurn) (timers : TimedTimers J) (job : J) :
    Except TimerError (Option T) × PageSession T × TimedTimers J :=
  if s.closed || s.pages.isEmpty then (.ok none, s, timers)
  else
    match turn.target? s.index s.pages.length with
    | none => (.ok none, s, timers)
    | some index =>
      match s.timeout? with
      | none => (.ok s.pages[index]?, { s with index := index }, timers)
      | some timeout =>
        let restarted := timeout.restart timers job
        (restarted.1.map fun _ => s.pages[index]?,
          { s with index := index, timeout? := some restarted.2.1 }, restarted.2.2)

/-- Closes the session early, without its action. -/
def close (s : PageSession T) (timers : TimedTimers J) : PageSession T × TimedTimers J :=
  match s.timeout? with
  | none => ({ s with closed := true }, timers)
  | some timeout =>
    let stopped := timeout.stop timers
    ({ s with closed := true, timeout? := some stopped.2.1 }, stopped.2.2)

/-- Runs the job of a timer of the session: the session closes, and its action is due. -/
def expire (s : PageSession T) : Option ExpiryAction × PageSession T :=
  (s.timeout?.bind (·.callback?), { s with closed := true })

end PageSession

end ChatCommands
