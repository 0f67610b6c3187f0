import Deskhand.Daemon.Machine
import Deskhand.Json.Writer
import Deskhand.Log.Buffer
import Deskhand.Schedule.Clockwork

/-!
# The daemon

A `Daemon` runs a scheduler in the background. It leaves two files on its machine: the number of its process,
which keeps a second one from starting, and its status, for whoever wants to know how it is doing.
-/

namespace Deskhand

/-- What a daemon is doing. -/
inductive Phase where
  | idle
  /-- The scheduler starts; the call that starts it. -/
  | starting (call : Nat)
  | serving
  /-- The scheduler stops; the call that stops it, if it has to be waited for. -/
  | ending (call : Option Nat)
  deriving DecidableEq, Repr, Inhabited

/-- What the watcher of the store is doing. -/
inductive Watcher where
  | absent
  /-- It waits for its next look; the digest that it saw last. -/
  | waiting (last : String)
  /-- It waits for a call that loads anew. -/
  | reloading (call : Nat) (last : String)
  deriving DecidableEq, Repr, Inhabited

/-- A daemon. -/
structure Daemon where
  config : Config
  machine : Machine
  /-- The scheduler, with the store and everything else that it works with. -/
  engine : Scheduler
  pidFile : String
  statusFile : String
  /-- Whether the scheduler was built. -/
  isBuilt : Bool := false
  isRunning : Bool := false
  startTime : Option Instant := none
  reloads : Nat := 0
  errors : Nat := 0
  phase : Phase := .idle
  watcher : Watcher := .absent
  /-- Whether the daemon was told to end. -/
  isTold : Bool := false
  /-- The outcomes of the starts, in order; none while the daemon runs. -/
  outcomes : List (Option Bool) := []
  deriving Inhabited

namespace Daemon

/-- The name under which a daemon hears of runs. -/
def ownName : String := "daemon"

/-- A daemon with a configuration that is not started. -/
def create (config : Config) (machine : Machine) (engine : Scheduler) : Except Fault Daemon := do
  let pidFile ← machine.resolve config.runner.pidFile
  let statusFile ← machine.resolve config.runner.statusFile
  return { config, machine, engine, pidFile, statusFile }

/-! ## The scheduler -/

/-- The bot that a configuration asks for. -/
def chat (c : Config) (dice : CodeDice) : Option ChatService :=
  if c.chat.enabled then
    some (.bot
      { pairingSeconds := c.chat.pairingSeconds, windowSeconds := c.chat.windowSeconds, dice := dice })
  else none

/-- The scheduler that a configuration asks for, over what an earlier one worked with. -/
def build (c : Config) (e : Scheduler) (subscriber : Option String) : Scheduler :=
  { times := c.scheduler
    store := e.store
    outage := e.outage
    around :=
      { clock := e.around.clock, desk := e.around.desk, network := e.around.network, ids := e.around.ids
        log := e.around.log, chat := chat c ((e.around.bot?.map ChatBot.dice).getD {})
        videos := some (.live {} []), films := some (.live c.web.language {} []) }
    hook := if c.hotkeys.enabled then some {} else none
    hookFails := e.hookFails
    board := (subscriber.map fun name => NoticeBoard.subscribe {} name).getD {}
    inbound := e.inbound
    jitter := e.jitter
    numbered := e.numbered
    agenda := e.agenda.keep (· == .signal) }

/-! ## The file of the process -/

/-- Write the number of the own process. -/
def writePid (d : Daemon) : Daemon :=
  { d with machine := d.machine.write d.pidFile (Integer.text d.machine.ownProcess) }

/-- Remove the file of the process. -/
def removePid (d : Daemon) : Daemon :=
  { d with machine := d.machine.remove d.pidFile }

/-- The number in the file of the process, if there is one. -/
def readPid? (d : Daemon) : Option Int :=
  (d.machine.read? d.pidFile).bind fun text => Integer.read? (Text.trim text)

/-- Whether a daemon runs, by the file of its process. A file that is out of date is removed. -/
def check (d : Daemon) : Bool × Daemon :=
  match d.readPid? with
  | none => (false, d)
  | some process =>
    match d.machine.reach process with
    | .ok _ => (true, d)
    | .error _ => (false, d.removePid)

/-! ## The file of the status -/

/-- The number of errors that a status shows. -/
def shownErrors : Nat := 5

/-- The latest errors in the log. -/
def recentErrors (d : Daemon) : List Value :=
  let errors := d.engine.around.log.filter fun r => r.level == .error
  (errors.drop (errors.length - shownErrors)).map LogRecord.entry

/-- The seconds since the start. -/
def uptime (d : Daemon) : Value :=
  match d.startTime with
  | none => .int 0
  | some t =>
    let span : Int := (d.engine.now.micros : Int) - t.micros
    .float (Binary.nearest (span < 0) span.natAbs 1000000)

/-- The status of a daemon whose scheduler has this state. -/
def statusWith (d : Daemon) (scheduler : Fields) : Value :=
  .record
    [("running", .bool d.isRunning), ("pid", if d.isRunning then .int d.machine.ownProcess else .null),
     ("start_time", .ofText? (d.startTime.map Instant.text)), ("uptime_seconds", d.uptime),
     ("scheduler", .record scheduler), ("reloads", .int d.reloads), ("errors", .int d.errors),
     ("recent_errors", .list d.recentErrors), ("updated_at", .text d.engine.now.text)]

/-- Write the status for a state of the scheduler. -/
def writeStatusWith (d : Daemon) (scheduler : Fields) : Daemon :=
  { d with machine := d.machine.write d.statusFile (Json.indentedAscii (d.statusWith scheduler)) }

/-- Write the status. -/
def writeStatus (d : Daemon) : Daemon :=
  d.writeStatusWith (if d.isBuilt then d.engine.status.record else [])

end Daemon

end Deskhand
