import Deskhand.CommandLine.Console
import Deskhand.Text.Lines

/-!
# Commands on the daemon

The daemon is run, here or in the background, stopped and asked how it is doing, and the end of its log is
shown.
-/

namespace Deskhand.Errand

/-- Detach: the status with which the program ends, unless it goes on in the background. -/
def goBackground (logFile : Option String) : Errand (Option Exit) := do
  print "Starting automation daemon in background...\n"
  let c ← get
  let (outcome, t) := detach c.machine c.forks logFile
  let around := { c.engine.around with desk := c.engine.around.desk.didAll t.calls }
  set { c with machine := t.machine, forks := t.forks, output := c.output ++ t.output
               engine := { c.engine with around := around } }
  ofExcept outcome
  return t.exit

/-- Run the daemon until it is told to end. -/
def serve : Errand Exit := do
  let d ← daemon
  let d := (d.appoint (← get).signalAfter .signal).start
  let d := Daemon.serveOut Scheduler.alarmLimit d
  leave { d with engine := { d.engine with agenda := {} } }
  return if d.outcomes.contains (some true) then 0 else 1

/-- Run the daemon, in the background if it is to be detached. -/
def runDaemon (isDetached : Bool) : Errand Exit := do
  let d ← daemon
  if isDetached then
    match ← goBackground d.config.runner.logFile with
    | some exit => return exit
    | none => serve
  else serve

/-- Ask the daemon to end. -/
def stop : Errand Exit := do
  let (reply, d) := (← daemon).stop
  leave d
  emit reply

/-- Show the status of the daemon. -/
def status : Errand Exit := do
  succeed [("status", .record (← ofExcept (← daemon).status))]

/-- Show the health of the daemon. -/
def health : Errand Exit := do
  let health ← ofExcept (← daemon).health
  emit [("success", health.get "healthy"), ("health", .record health), ("error", .text "Daemon unhealthy")]

/-- The last lines of a text, for a number of them that can be asked for. -/
def lastLines (text : String) (count : Int) : Except Fault (List String) :=
  if count < 0 then .error (.outOfRange "maxlen must be non-negative")
  else if Integer.wordLimit ≤ count then .error (.overflow "too many lines")
  else
    let lines := Text.lines text
    .ok (lines.drop (lines.length - count.toNat))

/-- Show the last lines of the log, or those of them that hold a level in whatever case. -/
def showLog (count : Int) (level : String) : Errand Exit := do
  let d ← daemon
  match d.config.runner.logFile.filter (· != "") with
  | none => fail "No log file configured"
  | some name =>
    let path ← ofExcept (d.machine.resolve name)
    if !d.machine.isThere path then fail ("Log file not found: " ++ path)
    else
      let text ← ofExcept ((d.machine.readFile path).mapError fun refusal => .unreadable refusal path)
      let lines ← ofExcept (lastLines text count)
      for line in lines.filter fun line => Text.contains (Text.lower level) (Text.lower line) do
        print (Text.trimEnd (· == '\n') line ++ "\n")
      return 0

end Deskhand.Errand
