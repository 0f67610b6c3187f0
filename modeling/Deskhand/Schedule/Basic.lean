import Deskhand.Config.Basic
import Deskhand.Keyboard.Hook
import Deskhand.Run.Execution
import Deskhand.Schedule.Agenda
import Deskhand.Schedule.Notice
import Deskhand.Schedule.Roster
import Deskhand.Store.Fingerprint

/-!
# The scheduler

The `Scheduler` keeps the active scenarios running: it holds what was loaded from the store, the roster, the
polling loops, the runs under way and the calls that are not over. It goes on when an alarm of its agenda
rings.

A scenario that was loaded is known by its load: runs of an earlier load no longer count for it. A polling
loop belongs to a generation and looks at its trigger only while that is the one that may run; no generation may
while the scenarios are loaded anew.
-/

namespace Deskhand

/-- The operations of the store that can be out of order. -/
inductive StoreCall where
  | settings
  | save
  | list
  | get
  | setLastExecuted
  | fingerprint
  | create
  | update
  | delete
  deriving DecidableEq, Repr, Inhabited

namespace StoreCall

/-- Every operation. -/
def all : List StoreCall := [settings, save, list, get, setLastExecuted, fingerprint, create, update, delete]

/-- The name of an operation. -/
def name : StoreCall → String
  | settings => "get_settings"
  | save => "save_settings"
  | list => "list_scenarios"
  | get => "get_scenario"
  | setLastExecuted => "set_last_executed"
  | fingerprint => "fingerprint"
  | create => "create_scenario"
  | update => "update_scenario"
  | delete => "delete_scenario"

/-- The operation of a name. -/
def ofName? (name : String) : Option StoreCall :=
  all.find? fun call => call.name == name

end StoreCall

/-- A loop that asks a trigger again and again. -/
structure PollingLoop where
  number : Nat
  generation : Nat
  /-- The id of the scenario. -/
  scenario : String
  trigger : Trigger
  deriving DecidableEq, Repr, Inhabited

/-- A run of a scenario that is not over. -/
structure Run where
  number : Nat
  scenario : Scenario
  /-- The load that the scenario came from, if it was loaded. -/
  load : Option Nat
  /-- The values that its context starts with. -/
  bindings : List (String × Value) := []
  /-- What is left of it, once it was started. -/
  rest : Option Execution := none
  deriving Inhabited

/-- What a caller asked of the scheduler. -/
inductive CallKind where
  | load
  | stop
  deriving DecidableEq, Repr, Inhabited

/-- How far a call has come. -/
inductive Stage where
  /-- It waits for its turn. -/
  | queued
  /-- It waits for the bot to stop before it goes on with the settings. -/
  | disconnecting (settings : Settings)
  /-- It waits for polling loops that were told to end. -/
  | clearing (loops : List Nat)
  /-- It waits before it loads. -/
  | settling
  /-- It waits for the bot to stop; whether it will do so in time. -/
  | closing (inTime : Bool)
  /-- It waits for runs to end. -/
  | draining (runs : List Nat)
  deriving DecidableEq, Repr, Inhabited

/-- A call that is not over. -/
structure Call where
  number : Nat
  kind : CallKind
  stage : Stage := .queued
  deriving DecidableEq, Repr, Inhabited

/-- A message that comes in some seconds after the bot starts to fetch messages. -/
structure InboundMessage where
  after : Float
  text : String
  chat : Int
  deriving DecidableEq, Repr, Inhabited

namespace InboundMessage

/-- The messages that a list describes. -/
def ofValues (vs : List Value) : List InboundMessage :=
  vs.map fun v => ⟨v.fields.float "after", v.fields.text "text", v.fields.int "chat_id"⟩

end InboundMessage

/-- The state of a scheduler in numbers. -/
structure SchedulerStatus where
  isRunning : Bool
  scenarios : Nat
  loops : Nat
  hotkeys : Nat
  commands : Nat
  fileWatches : Nat
  inFlight : Nat
  executed : Nat
  lastReload : Option Instant
  deriving DecidableEq, Repr, Inhabited

namespace SchedulerStatus

/-- A state as a record. -/
def record (s : SchedulerStatus) : Entries String Value :=
  [("running", .bool s.isRunning), ("scenarios", .int s.scenarios), ("loops", .int s.loops),
   ("hotkeys", .int s.hotkeys), ("commands", .int s.commands), ("file_watches", .int s.fileWatches),
   ("in_flight", .int s.inFlight), ("executed", .int s.executed),
   ("last_reload", .ofText? (s.lastReload.map Instant.text))]

end SchedulerStatus

/-- What a subscriber was told: that a scenario was performed, when, and the state of the scheduler then. -/
structure Announcement where
  subscriber : String
  scenario : String
  time : Instant
  status : SchedulerStatus
  deriving DecidableEq, Repr, Inhabited

/-- The scheduler and what it works with. -/
structure Scheduler where
  times : SchedulerTimes
  store : Store := {}
  /-- The operations of the store that are out of order. -/
  outage : List StoreCall := []
  around : Surroundings
  hook : Option KeyboardHook := none
  /-- Whether the keyboard hook cannot be started. -/
  hookFails : Bool := false
  board : NoticeBoard := {}
  /-- The messages that come in after each start of fetching. -/
  inbound : List InboundMessage := []
  /-- Where loops start between the least and the greatest wait, from zero to one. -/
  jitter : Float := 0.0
  isRunning : Bool := false
  /-- The generation of the loops that may run. -/
  generation : Option Nat := none
  generations : Nat := 0
  /-- The loaded scenarios by id. -/
  loaded : Entries String Scenario := []
  loads : Nat := 0
  roster : Roster := {}
  /-- The polling loops that have not ended. -/
  loops : List PollingLoop := []
  runs : List Run := []
  /-- The runs that are over, with their outcomes. -/
  results : List (Nat × Bool) := []
  /-- The token that the bot was last connected for. -/
  token : String := ""
  /-- The code that pairing was last started for. -/
  pairingCode : String := ""
  /-- How often the bot was connected. -/
  connections : Nat := 0
  executed : Nat := 0
  lastReload : Option Instant := none
  /-- The calls that are not over. -/
  calls : List Call := []
  /-- The calls that have the lock or wait for it; the first one has it. -/
  lock : List Nat := []
  /-- The calls that ended with a fault. -/
  failed : List (Nat × Fault) := []
  /-- How many loops, runs and calls there were. -/
  numbered : Nat := 0
  agenda : Agenda := {}
  /-- What subscribers were told and have not dealt with. -/
  announced : List Announcement := []
  deriving Inhabited

namespace Scheduler

/-- The name under which the scheduler subscribes to the bot. -/
def ownName : String := "scheduler"

/-- The part of the program that speaks for the scheduler. -/
def source : String := "flexauto.automation.scheduler"

/-- The wall time. -/
def now (s : Scheduler) : Instant :=
  s.around.now

/-- The seconds on the meter of the clock. -/
def elapsed (s : Scheduler) : Float :=
  s.around.clock.elapsed

/-- Note a message in the log. -/
def report (s : Scheduler) (level : LogLevel) (message : String) : Scheduler :=
  { s with around := s.around.report level source message }

/-- Set an alarm some seconds from now. -/
def appoint (s : Scheduler) (seconds : Float) (rank : Rank) (alarm : Alarm) : Scheduler :=
  { s with agenda := s.agenda.set (s.elapsed + seconds) rank alarm }

/-- A fresh number. -/
def draw (s : Scheduler) : Nat × Scheduler :=
  (s.numbered, { s with numbered := s.numbered + 1 })

/-- The fault of an operation that is out of order. -/
def outageFault : Fault := .refused "the store is out of order"

/-- What the store answers, unless the operation is out of order. -/
def ask {α : Type} (s : Scheduler) (call : StoreCall) (answer : Except Fault α) : Except Fault α :=
  if s.outage.contains call then .error outageFault else answer

/-- The digest of what counts in the store; it takes a list of scenarios and the settings. -/
def fingerprint (s : Scheduler) : Except Fault String :=
  if s.outage.any fun call => [StoreCall.fingerprint, .list, .settings].contains call then .error outageFault
  else s.store.fingerprint

/-- The loops of the generation that may run. -/
def current (s : Scheduler) : List PollingLoop :=
  s.loops.filter fun l => s.generation == some l.generation

/-- The watches of files. -/
def watches (s : Scheduler) : List Watch :=
  s.current.filterMap fun l => l.trigger.watch?

/-- The state in numbers. -/
def status (s : Scheduler) : SchedulerStatus :=
  { isRunning := s.isRunning, scenarios := s.loaded.length, loops := s.current.length
    hotkeys := Roster.count s.roster.hotkeys, commands := Roster.count s.roster.commands
    fileWatches := s.watches.length, inFlight := s.runs.length, executed := s.executed
    lastReload := s.lastReload }

end Scheduler

end Deskhand
