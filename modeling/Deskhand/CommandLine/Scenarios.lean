import Deskhand.CommandLine.Console

/-!
# Commands on scenarios

Scenarios are listed, shown, made from a file of blocks, switched on and off, dropped, and run at once. A run
takes place outside the daemon: its bot sends messages and fetches none.
-/

namespace Deskhand.Errand

/-- Read the blocks of a stored text; those without an id draw one. -/
def readBlocks (text : String) : Errand (List Block) := do
  let (blocks, ids) ← ofExcept ((Chain.read (← get).engine.around.ids text).mapError Fault.notInteger)
  setIds ids
  return blocks

/-- A scenario as it is listed. -/
def listedScenario (s : Scenario) : Errand Value := do
  let blocks ← readBlocks s.blocks
  return .record [("id", .text s.id), ("name", .text s.name), ("is_active", .bool s.isActive),
    ("trigger", .ofText? (blocks.head?.map (·.kind.tag))),
    ("last_executed", .ofText? (s.lastExecuted.map Stamp.spacedText))]

/-- List the scenarios, or the active ones. -/
def listScenarios (activeOnly : Bool) : Errand Exit := do
  let scenarios ← ofExcept ((← store).list activeOnly)
  let listed ← scenarios.mapM listedScenario
  succeed [("message", .text (toString listed.length ++ " scenarios")), ("data", .list listed)]

/-- Show a scenario with its blocks. -/
def showScenario (id : String) : Errand Exit := do
  match ← ofExcept ((← store).get id) with
  | none => fail (StoreRefusal.unknownScenario id).message
  | some s =>
    let blocks ← readBlocks s.blocks
    let shown := (Entries.erase s.record "blocks_json").put "blocks" (.list (blocks.map Chain.record))
    succeed [("data", .record shown)]

/-- Make a scenario from a file of blocks. -/
def createScenario (name file : String) (isActive : Bool) : Errand Exit := do
  let machine := (← get).machine
  match machine.readFile (machine.inRoot file) with
  | .error refusal =>
    fail ("Cannot read " ++ file ++ ": " ++ (Fault.unreadable refusal (Path.ofText file).text).message)
  | .ok text =>
    let blocks ← readBlocks text
    match Chain.shapeFault? blocks with
    | some fault => fail ("Invalid block chain: " ++ fault.message)
    | none =>
      let e := (← get).engine
      let draft : Draft := { name := .text name, active := .bool isActive, blocks := .text (Chain.write blocks) }
      let (answer, store, ids) := e.store.create e.now e.around.ids draft
      setStore store
      setIds ids
      emit (← ofExcept (Store.reply Store.created answer))

/-- Switch a scenario on or off. -/
def activateScenario (id : String) (isActive : Bool) : Errand Exit := do
  let (answer, store) := (← store).update id [("is_active", .bool isActive)]
  setStore store
  emit (← ofExcept (Store.reply Store.changed answer))

/-- Drop a scenario. -/
def deleteScenario (id : String) : Errand Exit := do
  let (answer, store) := (← store).delete id
  setStore store
  emit (← ofExcept (Store.reply (Store.deleted id) (.ok answer)))

/-- A scheduler whose bot is connected as settings say and fetches no messages. -/
def connected (s : Scheduler) (settings : Settings) : Scheduler :=
  match s.around.bot? with
  | some b =>
    if settings.chatEnabled && !Text.isBlankText settings.botToken then
      let (built, b) := b.build s.around.network settings.botToken settings.chatId
      { s with around := s.around.setBot b }.reportBuild built
    else s
  | none => s

/-- Run a scenario at once, whether it is active or not: whether it was performed in full. -/
def performScenario (config : Config) (e : Scheduler) (id : String) : Except Fault Bool × Scheduler :=
  let settings := e.store.settings
  let s := Daemon.build config e none
  let s := connected { s with around := { s.around with settings := some settings } } settings
  match s.runById id with
  | (.error fault, s) => (.error fault, s)
  | (.ok none, s) => (.ok false, s)
  | (.ok (some run), s) =>
    let (outcome, s) := s.awaitRun run
    (.ok (outcome.getD false), s)

/-- Run a scenario at once. -/
def runScenario (id : String) : Errand Exit := do
  let d ← daemon
  let (outcome, engine) := performScenario d.config d.engine id
  leave { d with engine := engine }
  if ← ofExcept outcome then succeed [("message", .text ("Scenario " ++ id ++ " executed"))]
  else fail ("Scenario " ++ id ++ " did not complete")

end Deskhand.Errand
