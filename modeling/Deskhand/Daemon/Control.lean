import Deskhand.Daemon.Basic

/-!
# Control of a daemon

Another process can stop a daemon, ask for its status and check its health. It knows the daemon by the two
files that it keeps: the number of its process and its status. A status that is missing or no JSON says that
nothing runs.
-/

namespace Deskhand.Daemon

/-- The signal that asks a process to end. -/
def terminate : Nat := 15

/-- The refusal of a daemon that does not run. -/
def refusal (reason : String) : Fields :=
  [("success", .bool false), ("error", .text reason)]

/-- Ask the daemon to end. -/
def stop (d : Daemon) : Fields × Daemon :=
  match d.readPid? with
  | none => (refusal "Daemon not running", d)
  | some process =>
    match d.machine.reach process with
    | .error r => (refusal r.message, d)
    | .ok _ =>
      let desk := d.engine.around.desk.did (.signal process terminate)
      ([("success", .bool true), ("pid", .int process),
        ("message", .text ("Sent SIGTERM to PID " ++ Integer.text process))],
       { d with engine := { d.engine with around := { d.engine.around with desk := desk } } })

/-- The status of which nothing is known. -/
def unknownStatus : Value :=
  .record [("running", .bool false)]

/-- What the file of the status says. -/
def readStatus (d : Daemon) : Except Fault Value :=
  match d.machine.read? d.statusFile with
  | none => .ok unknownStatus
  | some text =>
    match Json.read text with
    | .ok v => .ok v
    | .error .malformed => .ok unknownStatus
    | .error (.tooLong n) => .error (.notInteger (.tooLong n))

/-- Whether the process of the file is there; the number zero names none. -/
def isAlive (d : Daemon) : Bool :=
  d.readPid?.any fun process => process != 0 && (d.machine.reach process).toOption.isSome

/-- The status of the daemon as its files show it. -/
def status (d : Daemon) : Except Fault Fields := do
  match ← d.readStatus with
  | .record fs =>
    let fs := Entries.put fs "actually_running" (.bool d.isAlive)
    return (fs.put "pid_file" (.text d.pidFile)).put "status_file" (.text d.statusFile)
  | _ => throw (.unsuited "a status that is no record")

/-- The number of errors from which on a daemon is not healthy. -/
def errorLimit : Value := .int 50

/-- Whether a number of errors is small. -/
def isSmall (errors : Value) : Except Fault Bool :=
  match errors with
  | .bool _ | .int _ => .ok (Cell.numberBefore errors errorLimit)
  | .float x => .ok (x < 50.0)
  | _ => .error (.unsuited "errors that are no number")

/-- The numbers of the scheduler in a status. -/
def schedulerPart (fs : Fields) : Except Fault Fields :=
  match fs.get "scheduler" with
  | .record inner => .ok inner
  | v => if v.isTruthy then .error (.missingMember v "get") else .ok []

/-- The health of the daemon. -/
def health (d : Daemon) : Except Fault Fields := do
  let fs ← d.status
  let errors := fs.getOr "errors" (.int 0)
  let healthy ← if d.isAlive then isSmall errors else pure false
  let scheduler ← schedulerPart fs
  return [("healthy", .bool healthy), ("errors", errors), ("scenarios", scheduler.getOr "scenarios" (.int 0)),
    ("loops", scheduler.getOr "loops" (.int 0)), ("executed", scheduler.getOr "executed" (.int 0)),
    ("recent_errors", fs.getOr "recent_errors" (.list []))]

end Deskhand.Daemon
