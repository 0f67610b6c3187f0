import Deskhand.Action.Perform
import Deskhand.Block.Chain
import Deskhand.Store.Scenario
import Deskhand.Trigger.Basic

/-!
# Runs of a scenario

A run takes the chain of a scenario, looks at its shape, asks the leading trigger unless it is forced, and
then performs the actions in order until one fails. Because actions may wait, a run is a state:
`Execution.start` prepares it, and `Execution.resume` performs actions up to the end or to the next wait.
-/

namespace Deskhand

/-- A run that is under way: the actions still to perform and what was recorded. -/
structure Execution where
  /-- The name of the scenario. -/
  name : String
  remaining : List Block
  context : Context
  deriving Inhabited

/-- Where a run stands. -/
inductive RunState where
  /-- The run is over; whether every action was performed. -/
  | ended (success : Bool)
  /-- The run goes on after some seconds. -/
  | waiting (seconds : Float) (rest : Execution)
  deriving Inhabited

namespace Execution

/-- The part of the program that speaks for runs. -/
def source : String := "flexauto.automation.executor"

/-- A message about a scenario. -/
def about (name message : String) : String :=
  "Scenario '" ++ name ++ "'" ++ message

/-- Note why an action ended a run. -/
def reportFailure (name : String) (b : Block) (reason : Option String) (w : Surroundings) : Surroundings :=
  match reason.filter (· != "") with
  | some reason => w.report .error source (about name (": " ++ b.kind.tag ++ " failed: " ++ reason))
  | none => w.report .info source (about name " stopped, no data")

/-- Note the fault that ended a run. -/
def reportFault (name : String) (b : Block) (fault : Fault) (w : Surroundings) : Surroundings :=
  w.report .error source (about name (": block " ++ b.kind.tag ++ " raised: " ++ fault.message))

/-- Perform actions in order until one fails, one has to wait, or all are performed. -/
def perform (name : String) : List Block → Context → Surroundings → RunState × Surroundings
  | [], _, w => (.ended true, w.report .info source (about name " executed"))
  | b :: rest, c, w =>
    let p := Action.perform b c w
    match p.progress with
    | .finished (.ok _) => perform name rest p.context p.surroundings
    | .finished (.failed reason) => (.ended false, reportFailure name b reason p.surroundings)
    | .waiting seconds => (.waiting seconds ⟨name, rest, p.context⟩, p.surroundings)
    | .raised fault => (.ended false, reportFault name b fault p.surroundings)

/-- Go on with a run whose wait is over. -/
def resume (run : Execution) (w : Surroundings) : RunState × Surroundings :=
  perform run.name run.remaining run.context w

/-- The part of the program that speaks for stored chains. -/
def chainSource : String := "flexauto.blocks.registry"

/-- Note why a stored text has no blocks at all. -/
def reportText (text : String) (w : Surroundings) : Surroundings :=
  match Chain.textFault? text with
  | some fault => w.report .error chainSource fault.message
  | none => w

/-- Read the blocks of a scenario. -/
def blocksOf (s : Scenario) (w : Surroundings) : Except Fault (List Block) × Surroundings :=
  let w := reportText s.blocks w
  match Chain.read w.ids s.blocks with
  | .ok (blocks, ids) => (.ok blocks, { w with ids := ids })
  | .error refusal => (.error (.notInteger refusal), w)

/-- Whether the leading trigger lets a run start. -/
def mayStart (forced : Bool) (s : Scenario) (leading : Block) (w : Surroundings) : Except Fault Bool :=
  if forced then .ok true
  else
    match Trigger.ofBlock? leading with
    | some t => (t.check w.bot? (s.lastExecuted.map Stamp.wall) w.now).1
    | none => .ok false

/-- Start a run of a scenario with initial values in its context. -/
def start (s : Scenario) (forced : Bool) (bindings : List (String × Value)) (w : Surroundings) :
    Except Fault RunState × Surroundings :=
  match blocksOf s w with
  | (.error fault, w) => (.error fault, w)
  | (.ok blocks, w) =>
    match blocks with
    | [] => (.ok (.ended false), w.report .warning source (about s.name " has no blocks"))
    | leading :: actions =>
      match Chain.shapeFault? blocks with
      | some fault =>
        (.ok (.ended false), w.report .error source (about s.name (" rejected: " ++ fault.message)))
      | none =>
        match mayStart forced s leading w with
        | .error fault => (.error fault, w)
        | .ok false => (.ok (.ended false), w)
        | .ok true =>
          let (state, w) := perform s.name actions (.ofBindings bindings) w
          (.ok state, w)

/-- Go on with a run to its end, letting the clock move through its waits. -/
def finish : Nat → RunState → Surroundings → Bool × Surroundings
  | _, .ended success, w => (success, w)
  | 0, .waiting _ _, w => (false, w)
  | fuel + 1, .waiting seconds run, w =>
    let (state, w) := run.resume { w with clock := w.clock.wait seconds }
    finish fuel state w

/-- Run a scenario to its end. A run waits at most once for each of its actions. -/
def runToEnd (s : Scenario) (forced : Bool) (bindings : List (String × Value)) (w : Surroundings) :
    Except Fault Bool × Surroundings :=
  match start s forced bindings w with
  | (.error fault, w) => (.error fault, w)
  | (.ok state, w) =>
    let actions :=
      match state with
      | .waiting _ run => run.remaining.length + 1
      | .ended _ => 0
    let (success, w) := finish actions state w
    (.ok success, w)

end Execution

end Deskhand
