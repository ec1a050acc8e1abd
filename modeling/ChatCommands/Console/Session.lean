import ChatCommands.Console.Commands
import ChatCommands.Console.Line
import ChatCommands.Dispatcher.Basic
import ChatCommands.Pages
import ChatCommands.Text.LetterCase
import ChatCommands.Waiter

/-! # Console sessions

A session takes one line after the other and prints what comes of it. Handlers run to their end at
once, except that a confirmation waits for the next line of its user. A handler panics when it
cannot set a timer, or when a sum does not fit in 64 bits.
-/

namespace ChatCommands.Console

open Text

/-- A line, as those see it who wait for one. -/
structure Reply where
  author : UInt64
  text : String
  deriving DecidableEq, Repr

/-- What a timer of the session is for. -/
inductive Alarm
  | reminder (user : UInt64) (text : String)
  | listener (id : Nat)
  | pages
  deriving DecidableEq, Repr

/-- A confirmation that waits for an answer. -/
structure Question where
  listener : Nat
  command : Command Action
  invocation : Invocation

structure Session where
  settings : Settings
  dispatcher : Dispatcher Action
  cooldowns : CooldownTable := []
  timers : TimedTimers Alarm := {}
  waiter : EventWaiter Reply
  pages? : Option (PageSession String) := none
  /-- A handler panicked while it had the listing to itself, so that no other gets at it. -/
  pagesPoisoned : Bool := false
  questions : List Question := []

/-- How far a handler got. -/
inductive Progress
  | ended (ending : Ending)
  /-- It waits for the listener of this id. -/
  | asked (listener : Nat)

namespace Session

/-- A session with the commands of the console. -/
def start (settings : Settings) : Except BuildError Session :=
  catalog.map fun catalog =>
    { settings := settings
      dispatcher := .ofSettings settings catalog .standard
      waiter := { defaultTimeout := settings.waiterTimeout } }

def banner (settings : Settings) : String :=
  s!"prefix is {quoted settings.mark}, try `{settings.mark}help`"

def textAt (invocation : Invocation) (position : Nat) : Option String :=
  invocation.values[position]?.bind Value.text?

/-! ## Handlers -/

/-- The sum of two integers, if it fits in 64 bits. -/
def add? (a b : Int64) : Option Int64 :=
  let sum := a.toInt + b.toInt
  if Int64.minValue.toInt ≤ sum && sum ≤ Int64.maxValue.toInt then some (.ofInt sum) else none

/-- The sum of integers from the left, if all sums on the way fit. -/
def total? (numbers : List Int64) : Option Int64 :=
  numbers.foldlM add? 0

def addIntegers (a b : Int64) : Except Fault String :=
  match add? a b with
  | some sum => .ok (toString sum.toInt)
  | none => .error ⟨s!"{a.toInt} + {b.toInt} overflows", []⟩

/-- Opens a listing of five pages in place of the one that was open. -/
def openPages (s : Session) : Except TimerError (Option String) × Session :=
  let listing := (List.range 5).map fun i => s!"page {i + 1} of 5"
  match PageSession.withExpiry? listing s.settings.pagesExpiry? .leaveVisible s.timers .pages with
  | .error e => (.error e, s)
  | .ok (session, timers) =>
    let timers := match s.pages? with
      | some old => (old.close timers).2
      | none => timers
    (.ok session.current?, { s with pages? := some session, timers := timers })

/-- The turn that a direction or a page number from 1 on asks for. -/
def turnOf? (direction : String) : Option PageTurn :=
  match direction with
  | "next" => some .next
  | "prev" => some .previous
  | "first" => some .first
  | "last" => some .last
  | number =>
    match Number.readWord number.toList with
    | .ok (n + 1) => some (.goto n)
    | _ => none

/-- How a handler of the listing ends: with the text to show, or by a panic. -/
def showPage (s : Session) : Except TimerError (Option String) → Except Ending String × Session
  | .ok page? => (.ok (page?.getD "(no page)"), s)
  | .error e => (.error (.panicked (some e.message)), { s with pagesPoisoned := true })

def turnPages (s : Session) (direction : String) : Except Ending String × Session :=
  let refuse := fun reason => (.error (.failed ⟨reason, []⟩), s)
  if s.pagesPoisoned then refuse "page session lock poisoned"
  else if direction == "open" then
    let (page?, s) := s.openPages
    s.showPage page?
  else
    match s.pages?, turnOf? direction with
    | none, _ => refuse "no page session is open, use `pages open`"
    | some _, none => refuse s!"unknown page {direction}"
    | some session, some turn =>
      let (page?, session, timers) := session.turn turn s.timers .pages
      { s with pages? := some session, timers := timers }.showPage page?

def remind (s : Session) (delay : Duration) (text : String) (user : UInt64) :
    Except TimerError Session :=
  (s.timers.schedule delay.nanos (.reminder user text)).map fun (_, timers) =>
    { s with timers := timers }

/-- Asks the user of an invocation for a confirmation. -/
def ask (s : Session) (command : Command Action) (invocation : Invocation) :
    Except TimerError Nat × Session :=
  let user := invocation.context.author.id
  let (listener, waiter, timers) :=
    s.waiter.wait (fun reply => reply.author == user) none s.timers .listener
  let asked := listener.toOption.toList.map fun id => Question.mk id command invocation
  (listener, { s with
    waiter := waiter
    timers := timers
    questions := s.questions ++ asked })

def lines (texts : List String) (s : Session) : List String × Progress × Session :=
  (texts, .ended .done, s)

/-- A handler that printed some lines and came to another end than it should. -/
def broken (texts : List String) (ending : Ending) (s : Session) :
    List String × Progress × Session :=
  (texts, .ended ending, s)

def fault (fault : Fault) (s : Session) : List String × Progress × Session :=
  s.broken [] (.failed fault)

/-- Runs a handler: what it prints, and how far it gets. -/
def perform (s : Session) (command : Command Action) (invocation : Invocation) :
    Action → List String × Progress × Session
  | .ping => s.lines ["pong!"]
  | .addIntegers =>
    match invocation.values with
    | [.integer a, .integer b] =>
      match addIntegers a b with
      | .ok sum => s.lines [sum]
      | .error f => s.fault f
    | _ => s.fault ⟨"expected two integers", []⟩
  | .addFloats =>
    let numbers := invocation.values.map fun v => v.float?.getD .zero
    s.lines [((numbers.getD 0 .zero).add (numbers.getD 1 .zero)).display]
  | .sum =>
    let numbers := ((invocation.values[0]?.bind Value.array?).getD []).filterMap Value.integer?
    match total? numbers with
    | some total => s.lines [toString total.toInt]
    | none => s.broken [] (.panicked (some "attempt to add with overflow"))
  | .say =>
    let text := (textAt invocation 0).getD ""
    s.lines [if (invocation.switches.lookup "upper").isSome then uppercase text else text]
  | .createChannel =>
    let name := (textAt invocation 0).getD ""
    let topic := ((invocation.switches.lookup "topic").getD none).getD "no topic"
    s.lines [s!"created #{name} ({topic})"]
  | .deleteChannel => s.lines ["deleted #" ++ (textAt invocation 0).getD ""]
  | .remind =>
    match invocation.values[0]?.bind Value.time? with
    | none => s.fault ⟨"expected a time", []⟩
    | some delay =>
      match s.remind delay ((textAt invocation 1).getD "") invocation.context.author.id with
      | .ok s => s.lines ["reminding you in " ++ delay.brief]
      | .error e => s.broken [] (.panicked (some e.message))
  | .confirm =>
    let prompt := ["are you sure? (yes/no)"]
    match s.ask command invocation with
    | (.ok listener, s) => (prompt, .asked listener, s)
    | (.error e, s) => s.broken prompt (.panicked (some e.message))
  | .pages =>
    match s.turnPages ((textAt invocation 0).getD "first") with
    | (.ok shown, s) => s.lines [shown]
    | (.error ending, s) => s.broken [] ending
  | .panic => s.broken [] (.panicked (some "the panic command panicked"))

/-! ## Outcomes -/

/-- What is printed about an outcome. Success and messages to nobody pass in silence. -/
def describe : Outcome Action → List String
  | .noMatch | .success _ => []
  | outcome => [outcome.message]

/-- Dispatches a message. Nothing is printed about a dispatch that breaks off. -/
def dispatch (s : Session) (m : Message) : List String × Session :=
  let decided := s.dispatcher.decide s.timers.clock s.cooldowns m
  let s := { s with cooldowns := decided.2 }
  match decided.1 with
  | .settled outcome => (describe outcome, s)
  | .broken _ => ([], s)
  | .run command invocation =>
    match command.handler? with
    | none => (describe (.invalidArguments command), s)
    | some action =>
      let (printed, progress, s) := s.perform command invocation action
      match progress with
      | .ended ending => (printed ++ describe (.ofEnding command invocation ending), s)
      | .asked _ => (printed, s)

/-- Ends the confirmation of a listener with the reply, or without one when its time is up. -/
def answer (s : Session) (listener : Nat) (reply? : Option String) : List String × Session :=
  match s.questions.find? (·.listener == listener) with
  | none => ([], s)
  | some question =>
    let s := { s with questions := s.questions.filter (·.listener != listener) }
    let (printed, ending) : List String × Ending := match reply? with
      | some text =>
        if asciiLowercase text.toList == "yes".toList then (["confirmed"], .done)
        else ([], .cancelled)
      | none => (["timed out waiting for an answer"], .cancelled)
    (printed ++ describe (.ofEnding question.command question.invocation ending), s)

def answerAll (s : Session) (listeners : List Nat) (reply : String) : List String × Session :=
  match listeners with
  | [] => ([], s)
  | listener :: rest =>
    let (printed, s) := s.answer listener (some reply)
    let (more, s) := s.answerAll rest reply
    (printed ++ more, s)

/-! ## Time and lines -/

/-- Runs the job of a timer. -/
def ring (s : Session) : Alarm → List String × Session
  | .reminder user text => ([s!"reminder for {user}: {text}"], s)
  | .listener id =>
    let (waiting, waiter) := s.waiter.expire id
    let s := { s with waiter := waiter }
    if waiting then s.answer id none else ([], s)
  | .pages =>
    match s.pages? with
    | none => ([], s)
    | some session =>
      let (action?, session) := session.expire
      let printed := action?.toList.map fun
        | .dismiss => "page session expired (Dismiss)"
        | .leaveVisible => "page session expired (LeaveVisible)"
      (printed, { s with pages? := some session })

def ringAll (s : Session) (alarms : List Alarm) : List String × Session :=
  match alarms with
  | [] => ([], s)
  | alarm :: rest =>
    let (printed, s) := s.ring alarm
    let (more, s) := s.ringAll rest
    (printed ++ more, s)

/-- Lets time pass up to a moment, and prints what the timers bring. -/
def advance (s : Session) (now : Nat) : List String × Session :=
  let (alarms, timers) := s.timers.advance now
  { s with timers := timers }.ringAll (alarms.map Prod.snd)

/-- The listing of commands for the author of a message. -/
def help (s : Session) (ctx : Context) : List String :=
  (s.dispatcher.visibleCommands ctx).map fun c =>
    let group := (c.category?.map Category.name).getD "none"
    s!"[{group}] {c.usage}: {c.description}"

/-- Handles a message: whoever waits for it gets it first, then come the listing of commands and
the commands themselves. -/
def receive (s : Session) (m : Message) : List String × Session :=
  let (listeners, waiter, timers) := s.waiter.offer ⟨m.context.author.id, m.text⟩ s.timers
  let s := { s with waiter := waiter, timers := timers }
  if !listeners.isEmpty then s.answerAll listeners m.text
  else if String.ofList (trimStart m.text.toList) == s.settings.mark ++ "help" then
    (s.help m.context, s)
  else s.dispatch m

/-- Takes a line that was typed at a moment. Blank lines count for nothing. -/
def feed (s : Session) (now : Nat) (line : String) : List String × Option LineError × Session :=
  let (rung, s) := s.advance now
  if isBlank line.toList then (rung, none, s)
  else
    match parseLine line with
    | .error e => (rung, some e, s)
    | .ok m =>
      let (printed, s) := s.receive m
      (rung ++ printed, none, s)

end Session

end ChatCommands.Console
