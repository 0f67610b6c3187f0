import Deskhand.CommandLine.Perform
import Deskhand.Store.Document

/-!
# The program

`main` performs the command of its command line on what lies below the working directory: it reads the files
that a command may need, and afterwards writes those that have changed and removes those that are gone. The
store lies in one of them as a document.
-/

namespace Deskhand.Main

/-- The text of a file, if there is one. -/
def readText? (path : String) : IO (Option String) := do
  try
    return some (← IO.FS.readFile path)
  catch _ =>
    return none

/-- A machine with the text of a file, if there is one. -/
def load (m : Machine) (path : String) : IO Machine := do
  match ← readText? path with
  | some text => return m.write path text
  | none => return m

/-- Write a file, with the directory that holds it. -/
def writeText (path text : String) : IO Unit := do
  IO.FS.createDirAll (Path.ofText path).parent.text
  IO.FS.writeFile path text

/-- Write the files that have changed, and remove those that are gone. -/
def save (before after : Machine) : IO Unit := do
  for (path, text) in after.files do
    if before.read? path != some text then writeText path text
  for (path, _) in before.files do
    if !after.files.has path then IO.FS.removeFile path

/-- The files that a command may need. -/
def filesOf (m : Machine) (config : Config) : Command → List String
  | .createScenario _ file _ => [m.inRoot file]
  | _ =>
    ([config.runner.pidFile, config.runner.statusFile, config.runner.logFile.getD ""].map m.resolve).filterMap
      Except.toOption

/-- The present instant, as the time at which a file is written. -/
def presentInstant (path : String) : IO Instant := do
  writeText path ""
  let written := (← ((← IO.currentDir) / path).metadata).modified
  let unixStart : Instant := .ofDate ⟨1970, 1, 1⟩ 0
  return unixStart.shift (written.sec * Span.second + (written.nsec.toNat / 1000 : Nat))

/-- The machine of the working directory. -/
def machineHere : IO Machine := do
  let root := Path.ofText (← IO.currentDir).toString
  let home := (← IO.getEnv "HOME").getD "/"
  let m : Machine := { root := root, home := home }
  load m (m.inRoot Machine.configFile)

/-- The store of a file, and the ids that can be drawn for it. -/
def loadStore (path : String) : IO (Store × IdSupply) := do
  let document := ((← readText? path).bind fun text => (Json.read text).toOption).getD .null
  return Store.ofDocument document

/-- Perform a command in the working directory: the status with which the program ends. -/
def perform (command : Command) : IO UInt32 := do
  let machine ← machineHere
  let config := (machine.config.toOption).getD {}
  let machine ← (filesOf machine config command).foldlM load machine
  let chosen ← IO.getEnv "FLEXAUTO_DB_PATH"
  let storePath := ((config.databasePath machine.root machine.home chosen).toOption.map Path.text).getD ""
  let (store, ids) ← loadStore storePath
  let clock : Clock := { origin := ← presentInstant (machine.inRoot ".tmp/clock") }
  let engine : Scheduler := { times := {}, store := store, around := { clock := clock, ids := ids } }
  let console : Console := { machine := machine, engine := engine }
  let (exit, fault, after) := match command.perform.run console with
    | .ok exit after => (exit, "", after)
    | .error fault after => (1, fault.message ++ "\n", after)
  IO.print after.output
  IO.eprint fault
  save machine after.machine
  writeText storePath (Json.indented (after.engine.store.document after.engine.around.ids))
  return exit.toUInt32

end Deskhand.Main

/-- Perform the command of a command line. -/
def main (args : List String) : IO UInt32 := do
  match Deskhand.Command.read args with
  | .ok command => Deskhand.Main.perform command
  | .error .help =>
    IO.print Deskhand.Command.help
    return 0
  | .error .misuse =>
    IO.eprint Deskhand.Command.help
    return 2
