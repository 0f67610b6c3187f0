import Deskhand.Schedule.Dispatch

/-!
# The passing of time

`Scheduler.ring` does what an alarm is for. `Scheduler.advanceTo` lets time pass up to a reading of the meter,
with everything that is due by then, and `Scheduler.untilOver` lets it pass until something is over.
-/

namespace Deskhand.Scheduler

/-- Do what an alarm is for. The alarms of whoever runs the scheduler are not for the scheduler. -/
def handle (s : Scheduler) : Alarm → Scheduler
  | .loop n => s.wakeLoop n
  | .run n => s.wakeRun n
  | .call n => s.wakeCall n
  | .message connection text chat => s.onFetched connection text chat
  | .inspection | .shutdown | .signal => s

/-- Do what an alarm is for, and go on with the calls that waited for it. -/
def ring (s : Scheduler) (a : Alarm) : Scheduler :=
  (s.handle a).followClearing.endDrained

/-- Put the meter of the clock at a reading. -/
def setElapsed (s : Scheduler) (t : Float) : Scheduler :=
  { s with around := { s.around with clock := { s.around.clock with elapsed := t } } }

/-- Take the next alarm that rings by a reading of the meter, with the meter put to it. -/
def nextAlarm? (s : Scheduler) (limit : Float) : Option (Alarm × Scheduler) :=
  (s.agenda.next? s.elapsed limit).map fun (a, t, agenda) => (a, { s with agenda := agenda }.setElapsed t)

/-- Let time pass up to a reading of the meter, for at most a number of alarms. -/
def advanceTo : Nat → Scheduler → Float → Scheduler
  | 0, s, target => s.setElapsed target
  | fuel + 1, s, target =>
    match s.nextAlarm? target with
    | none => s.setElapsed target
    | some (a, s) => advanceTo fuel (s.ring a) target

/-- Let time pass until something is over, for at most a number of alarms. -/
def untilOver (isOver : Scheduler → Bool) : Nat → Scheduler → Scheduler
  | 0, s => s
  | fuel + 1, s =>
    if isOver s then s
    else
      match s.nextAlarm? (1.0 / 0.0) with
      | none => s
      | some (a, s) => untilOver isOver fuel (s.ring a)

/-- More alarms than ring in any stretch of time that is let pass at once. -/
def alarmLimit : Nat := 100000000

/-- Let some seconds pass, with everything that is due at their end. -/
def advance (s : Scheduler) (seconds : Float) : Scheduler :=
  advanceTo alarmLimit s (s.elapsed + seconds)

/-- Let everything happen that is due now. -/
def catchUp (s : Scheduler) : Scheduler :=
  advanceTo alarmLimit s s.elapsed

/-- Wait until a call is over. -/
def awaitCall (s : Scheduler) (n : Nat) : Scheduler :=
  untilOver (fun s => s.calls.all (·.number != n)) alarmLimit s

/-- Wait until a run is over: its outcome, unless it was given up. -/
def awaitRun (s : Scheduler) (n : Nat) : Option Bool × Scheduler :=
  let s := untilOver (fun s => s.runs.all (·.number != n)) alarmLimit s
  (s.results.lookup n, s)

end Deskhand.Scheduler
