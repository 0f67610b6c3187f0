import Deskhand.Daemon.Basic

/-!
# A daemon at work

A daemon that starts brings up its scheduler and then serves until it is told to end. While it serves, a
watcher looks at the store from time to time: when the digest of what counts in it has changed, the scheduler
loads anew. When it is told to end, the watcher goes, the scheduler is stopped, which may take only so long,
and the files are brought up to date.

`Daemon.ring` does what an alarm is for, and then whatever that makes possible (`Daemon.follow`).
-/

namespace Deskhand.Daemon

/-- Set an alarm some seconds from now. -/
def appoint (d : Daemon) (seconds : Float) (alarm : Alarm) : Daemon :=
  { d with engine := d.engine.appoint seconds .looks alarm }

/-! ## The watcher -/

/-- Wait for the next look at the store. -/
def waitForLook (d : Daemon) (last : String) : Daemon :=
  { d with watcher := .waiting last }.appoint d.config.runner.reloadCheck .inspection

/-- Begin to watch the store. When it cannot be looked at there is no watcher. -/
def beginWatching (d : Daemon) : Daemon :=
  match d.engine.fingerprint with
  | .ok digest => d.waitForLook digest
  | .error _ => d

/-- Count an error and wait for the next look. -/
def failLook (d : Daemon) (last : String) : Daemon :=
  { d with errors := d.errors + 1 }.waitForLook last

/-- Look at the store. -/
def inspect (d : Daemon) : Daemon :=
  match d.watcher with
  | .waiting last =>
    match d.engine.fingerprint with
    | .error _ => d.failLook last
    | .ok digest =>
      if digest == last then d.writeStatus.waitForLook last
      else
        let (call, engine) := d.engine.reload
        { d with engine := engine, watcher := .reloading call digest }
  | _ => d

/-- Whether a call of the scheduler is over. -/
def isOver (d : Daemon) (call : Nat) : Bool :=
  d.engine.calls.all (·.number != call)

/-- Count a reload that is over, and wait for the next look. -/
def followReload (d : Daemon) : Daemon :=
  match d.watcher with
  | .reloading call last =>
    if !d.isOver call then d
    else if (d.engine.failed.lookup call).isSome then d.failLook last
    else { d with reloads := d.reloads + 1 }.writeStatus.waitForLook last
  | _ => d

/-- End the watcher; a reload that it waits for is given up. -/
def endWatching (d : Daemon) : Daemon :=
  match d.watcher with
  | .reloading call _ => { d with watcher := .absent, engine := d.engine.cancel call }
  | _ => { d with watcher := .absent }

/-! ## Ending -/

/-- Bring the files up to date: the daemon has ended. -/
def finish (d : Daemon) : Daemon :=
  let d := { d with isRunning := false, phase := .idle }.writeStatus.removePid
  { d with outcomes := d.outcomes.map fun o => some (o.getD true) }

/-- Begin to end: the watcher goes and the scheduler is stopped. -/
def beginEnding (d : Daemon) : Daemon :=
  let d := d.endWatching
  if d.config.runner.shutdown ≤ 0.0 then d.finish
  else
    let d := d.appoint d.config.runner.shutdown .shutdown
    let (call, engine) := d.engine.stop
    { d with engine := engine, phase := .ending call }

/-- Go on once the scheduler has stopped. -/
def followEnd (d : Daemon) : Daemon :=
  match d.phase with
  | .ending call => if call.all d.isOver then d.finish else d
  | _ => d

/-- The time for stopping is over. -/
def cutOff (d : Daemon) : Daemon :=
  match d.phase with
  | .ending (some call) => { d with engine := d.engine.cancel call }.finish
  | _ => d

/-! ## Starting -/

/-- Serve, unless the daemon was told to end meanwhile. -/
def serve (d : Daemon) : Daemon :=
  let d := { d with phase := .serving }.writeStatus
  if d.isTold then d.beginEnding else d.beginWatching

/-- Go on once the scheduler has started. -/
def followStart (d : Daemon) : Daemon :=
  match d.phase with
  | .starting call => if d.isOver call then d.serve else d
  | _ => d

/-- Tell the daemon to end. Before it is started that means nothing. -/
def requestStop (d : Daemon) : Daemon :=
  match d.phase with
  | .idle => d
  | .serving => { d with isTold := true }.beginEnding
  | _ => { d with isTold := true }

/-- Write the status that an announcement shows. -/
def hear (d : Daemon) (a : Announcement) : Daemon :=
  if a.subscriber == ownName then d.writeStatusWith a.status.record else d

/-- Do what has become possible: hear of runs, and go on with what waited for the scheduler. -/
def follow (d : Daemon) : Daemon :=
  let d := d.engine.announced.foldl hear { d with engine := { d.engine with announced := [] } }
  d.followReload.followStart.followEnd

/-- Do what an alarm is for. -/
def handle (d : Daemon) : Alarm → Daemon
  | .inspection => d.inspect
  | .shutdown => d.cutOff
  | .signal => d.requestStop
  | a => { d with engine := d.engine.ring a }

/-- Do what an alarm is for and what it makes possible. -/
def ring (d : Daemon) (a : Alarm) : Daemon :=
  (d.handle a).follow

/-- Start the daemon, unless one runs already. -/
def start (d : Daemon) : Daemon :=
  match d.check with
  | (true, d) => { d with outcomes := d.outcomes ++ [some false] }
  | (false, d) =>
    let d := { d with isRunning := true, isTold := false, startTime := some d.engine.now
                      outcomes := d.outcomes ++ [none] }.writePid
    let (call, engine) := (build d.config d.engine (some ownName)).start
    { d with engine := engine, isBuilt := true, phase := .starting (call.getD 0) }.follow

/-! ## Time -/

/-- Let time pass up to a reading of the meter, for at most a number of alarms. -/
def advanceTo : Nat → Daemon → Float → Daemon
  | 0, d, target => { d with engine := d.engine.setElapsed target }
  | fuel + 1, d, target =>
    match d.engine.nextAlarm? target with
    | none => { d with engine := d.engine.setElapsed target }
    | some (a, engine) => advanceTo fuel ({ d with engine := engine }.ring a) target

/-- Let some seconds pass, with everything that is due at their end. -/
def advance (d : Daemon) (seconds : Float) : Daemon :=
  advanceTo Scheduler.alarmLimit d (d.engine.elapsed + seconds)

/-- Let everything happen that is due now. -/
def catchUp (d : Daemon) : Daemon :=
  advanceTo Scheduler.alarmLimit d.follow d.engine.elapsed

/-- Let time pass until the daemon has ended, for at most a number of alarms. -/
def serveOut : Nat → Daemon → Daemon
  | 0, d => d
  | fuel + 1, d =>
    if d.phase == .idle then d
    else
      match d.engine.nextAlarm? (1.0 / 0.0) with
      | none => d
      | some (a, engine) => serveOut fuel ({ d with engine := engine }.ring a)

end Deskhand.Daemon
