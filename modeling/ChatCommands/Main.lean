import ChatCommands.Console.Session
import ChatCommands.Settings.Decode

/-! # The console program

Reads messages line by line and prints what comes of them. While it waits for a line, the timers
of the session go on. A line that is no message is reported on the error stream.
-/

namespace ChatCommands.Console

def configPath : String := "./config.toml"

/-- The settings in the configuration file, or the default ones if there is no usable file. -/
def loadSettings : IO Settings := do
  let content? ← try some <$> IO.FS.readFile configPath catch _ => pure none
  match Settings.ofFile configPath content? with
  | .ok settings => return settings
  | .error e =>
    IO.eprintln s!"{e.message}, using the default configuration"
    return {}

def printAll (texts : List String) : IO Unit := do
  let out ← IO.getStdout
  texts.forM out.putStrLn
  out.flush

/-- Starts to read a line on a thread of its own. -/
def readLine : IO (Task (Except IO.Error String)) := do
  let input ← IO.getStdin
  IO.asTask input.getLine .dedicated

/-- Runs a session until the input ends. `start` is the moment at which its clock shows zero. -/
partial def serve (start : Nat) (session : Session) (pending : Task (Except IO.Error String)) :
    IO Unit := do
  let now := (← IO.monoNanosNow) - start
  if ← IO.hasFinished pending then
    match pending.get with
    | .error _ => return
    | .ok line =>
      if line.isEmpty then return
      let (printed, error?, session) := session.feed now line
      printAll printed
      if let some e := error? then IO.eprintln e.message
      serve start session (← readLine)
  else
    let (printed, session) := session.advance now
    printAll printed
    IO.sleep 5
    serve start session pending

end ChatCommands.Console

open ChatCommands in
def main : IO Unit := do
  let settings ← Console.loadSettings
  match Console.Session.start settings with
  | .error e => IO.eprintln e.message
  | .ok session =>
    Console.printAll [Console.Session.banner settings]
    Console.serve (← IO.monoNanosNow) session (← Console.readLine)
