import Deskhand.Schedule.Reload

/-!
# Starting, loading anew and stopping

A caller asks the scheduler to start, to load anew or to stop. Loading and the main part of stopping take
place under a lock, in the order in which they were asked for. Such a call may have to wait, for the bot to
stop, for a moment to pass, or for runs to end; it then goes on when its alarm rings (`Scheduler.wakeCall`).

Both end what was loaded (`Scheduler.beginClearing`): the loops are told to end, and those that have not done
so when their time is up are dropped. Stopping gives the bot `botLimit` seconds. Runs that are not over when
their time is up are given up.
-/

namespace Deskhand.Scheduler

/-- The seconds for which stopping waits for the bot. -/
def botLimit : Float := 5.0

/-- Put a call at a stage. -/
def setStage (s : Scheduler) (n : Nat) (stage : Stage) : Scheduler :=
  { s with calls := s.calls.map fun c => if c.number == n then { c with stage := stage } else c }

/-- A call is over. -/
def endCall (s : Scheduler) (n : Nat) : Scheduler :=
  { s with calls := s.calls.filter (·.number != n) }

/-- Give the lock to the next call. -/
def release (s : Scheduler) : Scheduler :=
  let lock := s.lock.drop 1
  let s := { s with lock := lock }
  match lock.head? with
  | some next => s.appoint 0.0 .looks (.call next)
  | none => s

/-! ## Clearing -/

/-- Wait for the runs that are not over, if there are any. -/
def beginDraining (s : Scheduler) (n : Nat) : Scheduler :=
  if s.runs.isEmpty then s.endCall n
  else (s.setStage n (.draining (s.runs.map (·.number)))).appoint s.times.drain .givesUp (.call n)

/-- Go on with a call once the loops have ended: a load waits for a moment, and a stop hands on the lock and
waits for the runs. -/
def leaveClearing (s : Scheduler) (n : Nat) (kind : CallKind) : Scheduler :=
  let s := { s with agenda := s.agenda.keep (· != Alarm.call n) }
  match kind with
  | .load => (s.setStage n .settling).appoint s.times.settle .settles (.call n)
  | .stop => s.release.beginDraining n

/-- End what was loaded, and wait for the loops to end. -/
def beginClearing (s : Scheduler) (n : Nat) (kind : CallKind) : Scheduler :=
  let told := s.current.map (·.number)
  let s := s.clear
  if told.isEmpty then s.leaveClearing n kind
  else (s.setStage n (.clearing told)).appoint s.times.drain .givesUp (.call n)

/-- Whether a call waits for loops that have all ended. -/
def isCleared (s : Scheduler) (c : Call) : Bool :=
  match c.stage with
  | .clearing told => s.loops.all fun l => !told.contains l.number
  | _ => false

/-- Go on with the call that waits for loops, once they have all ended. -/
def followClearing (s : Scheduler) : Scheduler :=
  match s.calls.find? s.isCleared with
  | some c => s.leaveClearing c.number c.kind
  | none => s

/-! ## Loading -/

/-- Let pairing follow the settings and go on. -/
def finishSettings (s : Scheduler) (n : Nat) (settings : Settings) : Scheduler :=
  match s.followCode settings with
  | (.ok _, s) => s.beginClearing n .load
  | (.error fault, s) => ({ s with failed := s.failed ++ [(n, fault)] }.endCall n).release

/-- Drop the connection of the bot and connect it for the new token. -/
def reconnect (s : Scheduler) (n : Nat) (settings : Settings) (b : ChatBot) : Scheduler :=
  ({ s with around := s.around.setBot b.disconnect }.connect settings).finishSettings n settings

/-- Let the bot follow the token of the settings. -/
def followToken (s : Scheduler) (n : Nat) (settings : Settings) (b : ChatBot) : Scheduler :=
  if settings.wantedToken == s.token then (s.bindChat settings).finishSettings n settings
  else
    let s := { s with token := settings.wantedToken, pairingCode := "" }
    if !b.isConfigured then (s.connect settings).finishSettings n settings
    else
      match b.stopWait s.around.network with
      | some seconds =>
        ({ s with around := s.around.setBot b.beginStop }.setStage n (.disconnecting settings)).appoint
          seconds .looks (.call n)
      | none => s.reconnect n settings (b.stopWithin s.around.network none).2

/-- Read the settings and let the bot follow them. -/
def followSettings (s : Scheduler) (n : Nat) : Scheduler :=
  match s.ask .settings (.ok s.store.settings) with
  | .error fault => (s.report .error ("Failed to load settings: " ++ fault.message)).beginClearing n .load
  | .ok settings =>
    let s := { s with around := { s.around with settings := some settings } }
    match s.around.bot?, s.isRunning with
    | some b, true => s.followToken n settings b
    | _, _ => s.beginClearing n .load

/-- Load and end the call. -/
def finishLoading (s : Scheduler) (n : Nat) : Scheduler :=
  (s.load.endCall n).release

/-! ## Stopping -/

/-- Give up runs. -/
def giveUp (s : Scheduler) (numbers : List Nat) : Scheduler :=
  { s with runs := s.runs.filter fun r => !numbers.contains r.number }

/-- Whether every run of a list is over. -/
def areOver (s : Scheduler) (numbers : List Nat) : Bool :=
  s.runs.all fun r => !numbers.contains r.number

/-- Whether a call waits for runs that are all over. -/
def isDrained (s : Scheduler) (c : Call) : Bool :=
  match c.stage with
  | .draining numbers => s.areOver numbers
  | _ => false

/-- End the calls that wait for runs that are all over. -/
def endDrained (s : Scheduler) : Scheduler :=
  { s with calls := s.calls.filter fun c => !s.isDrained c }

/-! ## Calls -/

/-- Begin what a call asks for, once it has the lock. -/
def begin (s : Scheduler) (c : Call) : Scheduler :=
  match c.kind with
  | .load => s.followSettings c.number
  | .stop => s.beginClearing c.number .stop

/-- Take the lock for a call, or wait for it. -/
def enqueue (s : Scheduler) (c : Call) : Scheduler :=
  let isFree := s.lock.isEmpty
  let s := { s with lock := s.lock ++ [c.number] }.setStage c.number .queued
  if isFree then s.begin c else s

/-- Stop the keyboard hook and take the lock. -/
def leaveBot (s : Scheduler) (c : Call) : Scheduler :=
  { s with hook := s.hook.map KeyboardHook.stop }.enqueue c

/-- Go on with a call. -/
def wakeCall (s : Scheduler) (n : Nat) : Scheduler :=
  match s.calls.find? (·.number == n) with
  | none => s
  | some c =>
    match c.stage with
    | .queued => if s.lock.head? == some n then s.begin c else s
    | .disconnecting settings =>
      match s.around.bot? with
      | some b => s.reconnect n settings b.finishStop
      | none => s.finishSettings n settings
    | .clearing told => (s.dropLoops told).leaveClearing n c.kind
    | .settling => s.finishLoading n
    | .closing inTime =>
      match s.around.bot?, inTime with
      | some b, true => { s with around := s.around.setBot b.finishStop }.leaveBot c
      | _, _ => s.leaveBot c
    | .draining numbers => (s.giveUp numbers).endCall n

/-- Register a call. -/
def addCall (s : Scheduler) (kind : CallKind) : Call × Scheduler :=
  let (n, s) := s.draw
  let c : Call := { number := n, kind := kind }
  (c, { s with calls := s.calls ++ [c] })

/-- Ask for loading anew: the number of the call. -/
def reload (s : Scheduler) : Nat × Scheduler :=
  let (c, s) := s.addCall .load
  (c.number, s.enqueue c)

/-- Subscribe to the bot. -/
def subscribe (s : Scheduler) : Scheduler :=
  match s.around.bot? with
  | some b => { s with around := s.around.setBot ((b.subscribe ownName).onPaired ownName) }
  | none => s

/-- The part of the program that speaks for the keyboard hook. -/
def hookSource : String := "flexauto.system.hotkeys"

/-- Start the keyboard hook. -/
def startHook (s : Scheduler) : Scheduler :=
  match s.hook with
  | none => s
  | some h =>
    let (started, h) := { h with listener := .present }.start s.hookFails
    let s := { s with hook := some h }
    match started with
    | .ok true => s
    | _ =>
      { s with
        around := s.around.report .error hookSource "Failed to install global keyboard hook: no display" }

/-- Ask for a start: the number of the call, unless the scheduler runs already. -/
def start (s : Scheduler) : Option Nat × Scheduler :=
  if s.isRunning then (none, s)
  else
    let (n, s) := ({ s with isRunning := true }.subscribe.startHook).reload
    (some n, s)

/-- Let the bot stop and take the lock for a call. -/
def closeBot (s : Scheduler) (c : Call) : Scheduler :=
  match s.around.bot? with
  | none => s.leaveBot c
  | some b =>
    let b := b.unsubscribe ownName
    match b.stopWait s.around.network with
    | some seconds =>
      let inTime := !(seconds > botLimit)
      ({ s with around := s.around.setBot b.beginStop }.setStage c.number (.closing inTime)).appoint
        (if inTime then seconds else botLimit) .looks (.call c.number)
    | none => { s with around := s.around.setBot (b.stopWithin s.around.network none).2 }.leaveBot c

/-- Ask for a stop: the number of the call, unless the scheduler does not run. -/
def stop (s : Scheduler) : Option Nat × Scheduler :=
  if !s.isRunning then (none, s)
  else
    let (c, s) := { s with isRunning := false }.addCall .stop
    (some c.number, s.closeBot c)

/-- Give up a call where it stands. One that has the lock hands it on; a bot that is about to stop no longer
counts as polling and goes on fetching. -/
def cancel (s : Scheduler) (n : Nat) : Scheduler :=
  let s := s.endCall n
  if s.lock.head? == some n then s.release else { s with lock := s.lock.filter (· != n) }

end Deskhand.Scheduler
