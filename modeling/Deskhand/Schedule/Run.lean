import Deskhand.Schedule.Basic

/-!
# Runs under way

`Scheduler.spawn` registers a run and sets its first alarm; `Scheduler.wakeRun` starts it or goes on with it.
A run that performs every action is concluded: its scenario ran last at that instant, which is noted for the
loaded scenario and in the store, it is counted, and every subscriber is told. Whether the store takes the
note or a subscriber copes with the news makes no difference to that.
-/

namespace Deskhand.Scheduler

/-- Register a forced run of a scenario. -/
def spawn (s : Scheduler) (scenario : Scenario) (load : Option Nat) (bindings : List (String × Value)) :
    Nat × Scheduler :=
  let (n, s) := s.draw
  let run : Run := { number := n, scenario := scenario, load := load, bindings := bindings }
  (n, { s with runs := s.runs ++ [run] }.appoint 0.0 .starts (.run n))

/-- Register a run of a loaded scenario; nothing happens if there is none with the id. -/
def spawnLoaded (s : Scheduler) (id : String) (bindings : List (String × Value)) : Scheduler :=
  match s.loaded.find? id with
  | some scenario => (s.spawn scenario (some s.loads) bindings).2
  | none => s

/-- Drop a run that is over, with its outcome. -/
def endRun (s : Scheduler) (n : Nat) (success : Bool) : Scheduler :=
  { s with runs := s.runs.filter (·.number != n), results := s.results ++ [(n, success)] }

/-- The message that a last run was not noted. -/
def unsaved (scenario : Scenario) (reason : String) : String :=
  "Could not persist last run of '" ++ scenario.name ++ "': " ++ reason

/-- Note in the store when a scenario ran last. -/
def noteInStore (s : Scheduler) (scenario : Scenario) (time : Instant) : Scheduler :=
  match s.ask .setLastExecuted (.ok (s.store.setLastExecuted scenario.id ⟨time, none⟩)) with
  | .error fault => s.report .error (unsaved scenario fault.message)
  | .ok (.error refusal, _) => s.report .warning (unsaved scenario refusal.message)
  | .ok (.ok _, store) => { s with store := store }

/-- Note for the loaded scenario when it ran last. -/
def noteLoaded (s : Scheduler) (run : Run) (time : Instant) : Scheduler :=
  if run.load == some s.loads then
    { s with loaded := s.loaded.map fun e =>
        if e.1 == run.scenario.id then (e.1, { e.2 with lastExecuted := some ⟨time, none⟩ }) else e }
  else s

/-- Tell every subscriber that a scenario was performed, and note which of them fail. -/
def announce (s : Scheduler) (scenario : String) (time : Instant) : Scheduler :=
  let (told, board) := s.board.publish
  { s with board := board
           announced := s.announced ++ told.map fun subscriber => ⟨subscriber, scenario, time, s.status⟩
           around := s.board.complaints.foldl (fun w message => w.report .error NoticeBoard.source message)
             s.around }

/-- Conclude a run that performed every action. -/
def conclude (s : Scheduler) (run : Run) : Scheduler :=
  let time := s.now
  let s := (s.noteLoaded run time).noteInStore run.scenario time
  ({ s with executed := s.executed + 1 }.announce run.scenario.id time).endRun run.number true

/-- Keep what is left of a run. -/
def setRest (s : Scheduler) (n : Nat) (rest : Execution) : Scheduler :=
  let keep := fun (r : Run) => if r.number == n then { r with rest := some rest } else r
  { s with runs := s.runs.map keep }

/-- Go on with a run after some of its actions. -/
def proceed (s : Scheduler) (run : Run) : RunState → Scheduler
  | .ended true => s.conclude run
  | .ended false => s.endRun run.number false
  | .waiting seconds rest => (s.setRest run.number rest).appoint seconds .goesOn (.run run.number)

/-- Start a run or go on with it. -/
def wakeRun (s : Scheduler) (n : Nat) : Scheduler :=
  match s.runs.find? (·.number == n) with
  | none => s
  | some run =>
    match run.rest with
    | some rest =>
      let (state, around) := rest.resume s.around
      { s with around := around }.proceed run state
    | none =>
      match Execution.start run.scenario true run.bindings s.around with
      | (.ok state, around) => { s with around := around }.proceed run state
      | (.error fault, around) =>
        ({ s with around := around }.report .error
          ("Scenario '" ++ run.scenario.name ++ "' crashed: " ++ fault.message)).endRun n false

/-- Run a scenario by its id: the one that is loaded, or else the one in the store. The number of the run,
unless there is no such scenario. -/
def runById (s : Scheduler) (id : String) : Except Fault (Option Nat) × Scheduler :=
  match s.loaded.find? id with
  | some scenario =>
    let (n, s) := s.spawn scenario (some s.loads) []
    (.ok (some n), s)
  | none =>
    match s.ask .get (s.store.get id) with
    | .error fault => (.error fault, s)
    | .ok none => (.ok none, s.report .warning ("Scenario not found: " ++ id))
    | .ok (some scenario) =>
      let (n, s) := s.spawn scenario none []
      (.ok (some n), s)

end Deskhand.Scheduler
