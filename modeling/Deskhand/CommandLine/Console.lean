import Deskhand.Daemon.Control
import Deskhand.Daemon.Detach
import Deskhand.Daemon.Service
import Deskhand.Store.Reply

/-!
# The console

A `Console` is what commands are performed on: the machine, and whatever a scheduler works with, the store
first of all. An `Errand` is a part of a command. It may change the console and print, and it may end with a
fault; what it did until then stays done.
-/

namespace Deskhand

/-- What commands are performed on. -/
structure Console where
  machine : Machine
  /-- The store, the clock, the desk, the network and the log. -/
  engine : Scheduler
  dice : CodeDice := {}
  /-- What forks will answer. -/
  forks : List Fork := []
  /-- The seconds after which a daemon that runs here is told to end. -/
  signalAfter : Float := 0.0
  /-- What was printed. -/
  output : String := ""
  deriving Inhabited

/-- A part of a command. -/
abbrev Errand := EStateM Fault Console

namespace Errand

/-- What may end with a fault and changes nothing. -/
def ofExcept {α : Type} : Except Fault α → Errand α
  | .ok a => pure a
  | .error fault => throw fault

/-- Print a text. -/
def print (text : String) : Errand Unit :=
  modify fun c => { c with output := c.output ++ text }

/-- The status with which a command ends. -/
abbrev Exit := Nat

/-- Print how a command went, in a line and as a record. -/
def emit (fs : Fields) : Errand Exit := do
  let succeeded := fs.flag "success"
  print (if succeeded then "OK " ++ (fs.getOr "message" (.text "Success")).toText ++ "\n"
    else "ERROR " ++ (fs.get "error").toText ++ "\n")
  print (Json.indented (.record fs) ++ "\n")
  return if succeeded then 0 else 1

/-- Print that a command succeeded. -/
def succeed (fs : Fields) : Errand Exit :=
  emit (Store.success fs)

/-- Print why a command failed. -/
def fail (reason : String) : Errand Exit :=
  emit (Store.declined reason)

/-- Print how a command is used that was not given in full. -/
def explain (name words : String) : Errand Exit := do
  print ("Usage: flexauto " ++ name ++ " \x7b" ++ words ++ "\x7d\n")
  return 1

/-! ## The console -/

/-- The configuration of the machine. -/
def config : Errand Config := do
  ofExcept (← get).machine.config

/-- The configuration, once it is clear where the store lies. -/
def openStore : Errand Config := do
  let config ← config
  let machine := (← get).machine
  let _ ← ofExcept (config.databasePath machine.root machine.home none)
  return config

/-- The store. -/
def store : Errand Store :=
  return (← get).engine.store

/-- Replace the store. -/
def setStore (store : Store) : Errand Unit :=
  modify fun c => { c with engine := { c.engine with store := store } }

/-- Replace the supply of ids. -/
def setIds (ids : IdSupply) : Errand Unit :=
  modify fun c => { c with engine := { c.engine with around := { c.engine.around with ids := ids } } }

/-- Keep settings in the store. -/
def saveSettings (settings : Settings) : Errand Unit := do
  let (outcome, store) := (← store).save settings
  ofExcept outcome
  setStore store

/-- The daemon of the machine, which is not started. -/
def daemon : Errand Daemon := do
  let config ← openStore
  let c ← get
  ofExcept (Daemon.create config c.machine c.engine)

/-- Go on with what a daemon left. -/
def leave (d : Daemon) : Errand Unit :=
  modify fun c => { c with machine := d.machine, engine := d.engine }

end Errand

end Deskhand
