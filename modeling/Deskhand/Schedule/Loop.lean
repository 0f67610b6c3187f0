import Deskhand.Schedule.Run

/-!
# Polling loops

A polling loop asks its trigger, waits, and asks again, until its generation may no longer run; then it ends
at its next turn. `PollingLoop.look` is one turn:
whether the trigger fires, with the values that the run starts with. A trigger that cannot be asked is
reported, and the wait after it is the longer one. A path that a file trigger has noted is handed to the run
under the id of the trigger and is forgotten.
-/

namespace Deskhand

/-- The outcome of a turn of a loop. -/
inductive Turn where
  /-- The trigger fires, and a run starts with these values. -/
  | fires (bindings : List (String × Value))
  | declines
  | raises (fault : Fault)
  deriving Inhabited

namespace PollingLoop

/-- The path that a file trigger has noted. -/
def detected? (t : Trigger) : Option String :=
  (t.watch?.bind Watch.detected).filter (· != "")

/-- The values that a run starts with, and the trigger once they are taken from it. -/
def takeBindings (t : Trigger) : List (String × Value) × Trigger :=
  match t.state, detected? t with
  | .fileChange w, some path => ([(t.block.id, .text path)], { t with state := .fileChange w.takeDetected })
  | _, _ => ([], t)

/-- Ask the trigger of a loop, whose scenario ran last at an instant. -/
def look (l : PollingLoop) (bot : Option ChatBot) (last : Option Instant) (now : Instant) :
    Turn × PollingLoop :=
  match l.trigger.check bot last now with
  | (.error fault, t) => (.raises fault, { l with trigger := t })
  | (.ok false, t) => (.declines, { l with trigger := t })
  | (.ok true, t) =>
    let (bindings, t) := takeBindings t
    (.fires bindings, { l with trigger := t })

/-- The wait after a turn. -/
def pause (times : SchedulerTimes) : Turn → Float
  | .raises _ => times.backOff
  | _ => times.poll

end PollingLoop

namespace Scheduler

/-- When the scenario of a loop ran last. -/
def lastRun (s : Scheduler) (id : String) : Option Instant :=
  ((s.loaded.find? id).bind Scenario.lastExecuted).map Stamp.wall

/-- The name of a loaded scenario. -/
def nameOf (s : Scheduler) (id : String) : String :=
  ((s.loaded.find? id).map Scenario.name).getD ""

/-- Replace a loop. -/
def setLoop (s : Scheduler) (l : PollingLoop) : Scheduler :=
  { s with loops := s.loops.map fun old => if old.number == l.number then l else old }

/-- Do what a turn of a loop asks for. -/
def follow (s : Scheduler) (l : PollingLoop) : Turn → Scheduler
  | .fires bindings => s.spawnLoaded l.scenario bindings
  | .declines => s
  | .raises fault =>
    s.report .error ("Loop error in scenario '" ++ s.nameOf l.scenario ++ "': " ++ fault.message)

/-- Let a loop take a turn. -/
def takeTurn (s : Scheduler) (l : PollingLoop) : Scheduler :=
  let (turn, l) := l.look s.around.bot? (s.lastRun l.scenario) s.now
  ((s.setLoop l).follow l turn).appoint (PollingLoop.pause s.times turn) .looks (.loop l.number)

/-- Drop loops that are over. -/
def dropLoops (s : Scheduler) (numbers : List Nat) : Scheduler :=
  { s with loops := s.loops.filter fun l => !numbers.contains l.number }

/-- Go on with a loop. It ends when its generation may no longer run. -/
def wakeLoop (s : Scheduler) (n : Nat) : Scheduler :=
  match s.loops.find? (·.number == n) with
  | none => s
  | some l => if s.generation == some l.generation then s.takeTurn l else s.dropLoops [n]

/-- The wait before the first look of a loop. -/
def firstWait (s : Scheduler) : Float :=
  s.times.jitterMin + (s.times.jitterMax - s.times.jitterMin) * s.jitter

/-- Stop the watch of a loop, if it has one. -/
def unwatch (l : PollingLoop) : PollingLoop :=
  match l.trigger.state with
  | .fileChange w => { l with trigger := { l.trigger with state := .fileChange (w.stop {}) } }
  | _ => l

/-- Start a loop. A watch of files starts right away, whether or not there is anything to watch. -/
def addLoop (s : Scheduler) (generation : Nat) (id : String) (t : Trigger) : Scheduler :=
  let t :=
    match t.state with
    | .fileChange w => { t with state := .fileChange (w.start t.block s.around.desk.tree {}).2 }
    | _ => t
  let (n, s) := s.draw
  let l : PollingLoop := ⟨n, generation, id, t⟩
  { s with loops := s.loops ++ [l] }.appoint s.firstWait .looks (.loop n)

end Scheduler

end Deskhand
