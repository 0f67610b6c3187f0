import Deskhand.Schedule.Loop

/-!
# Loading

The scheduler loads in four steps: it reads the settings and lets the bot follow them (`followSettings`), ends
what was loaded before (`clear`), waits until the loops have ended and then for a moment, and takes in the
active scenarios of the store (`takeIn`) and publishes the command menu. The bot is connected anew when its
token changes, bound to another chat when only that changes, and starts pairing once for each new code.
-/

namespace Deskhand

namespace Settings

/-- The token that the bot is to be connected for; empty while the chat is not used. -/
def wantedToken (s : Settings) : String :=
  if s.chatEnabled then Text.trim s.botToken else ""

/-- The pairing code that waits to be used. -/
def wantedCode (s : Settings) : String :=
  Text.trim s.pairingCode

end Settings

namespace Scheduler

/-! ## The settings -/

/-- Note that the connection could not be built. -/
def reportBuild (s : Scheduler) (built : Bool) : Scheduler :=
  if built then s
  else { s with around := s.around.report .error Surroundings.botSource
                  ("Failed to initialize Telegram bot: " ++ ChatNetwork.fault.message) }

/-- Set the alarms of the messages that come in. -/
def expectMessages (s : Scheduler) : Scheduler :=
  s.inbound.foldl (fun s m => s.appoint m.after .looks (.message s.connections m.text m.chat)) s

/-- Start to fetch messages. -/
def startPolling (s : Scheduler) (b : ChatBot) : Scheduler :=
  match b.startPolling s.around.network with
  | (.ok started, b) =>
    let s := { s with around := s.around.setBot b }
    if started then s.expectMessages else s
  | (.error fault, b) =>
    { s with around := s.around.setBot b }.report .error
      ("Failed to start Telegram polling: " ++ fault.message)

/-- Connect the bot for the token and start to fetch messages, unless the token is empty. -/
def connect (s : Scheduler) (settings : Settings) : Scheduler :=
  match s.around.bot? with
  | none => s
  | some b =>
    if s.token == "" then s
    else
      let (built, b) := b.build s.around.network s.token settings.chatId
      let s := ({ s with around := s.around.setBot b, connections := s.connections + 1 }).reportBuild built
      if built then s.startPolling b else s

/-- Bind the bot to the chat of the settings. -/
def bindChat (s : Scheduler) (settings : Settings) : Scheduler :=
  match s.around.bot? with
  | none => s
  | some b =>
    if b.isConfigured && b.chatId != settings.chatId then
      { s with around := s.around.setBot { b with chatId := settings.chatId } }
    else s

/-- Start pairing for a code that is new. -/
def followCode (s : Scheduler) (settings : Settings) : Except Fault Unit × Scheduler :=
  let code := settings.wantedCode
  match s.around.bot? with
  | none => (.ok (), s)
  | some b =>
    if code == "" then (.ok (), { s with pairingCode := "" })
    else if code != s.pairingCode && b.isConfigured then
      let (started, b) := b.startPairing s.now (some code)
      (started.map fun _ => (), { s with pairingCode := code, around := s.around.setBot b })
    else (.ok (), s)

/-! ## The scenarios -/

/-- End what was loaded: the watches, the roster, and the generation of the loops, which are told so. -/
def clear (s : Scheduler) : Scheduler :=
  let told := s.current
  let s := { s with generation := none, roster := {}, loops := s.loops.map unwatch }
  told.foldl (fun s l => s.appoint 0.0 .looks (.loop l.number)) s

/-- Note why a scenario waits for nothing. -/
def reportIdle (s : Scheduler) (name : String) : Idleness → Scheduler
  | .noBlocks => s.report .warning ("Scenario '" ++ name ++ "' has no blocks")
  | .noKey => s.report .warning ("Scenario '" ++ name ++ "': hotkey has no key")
  | .noCommand => s.report .warning ("Scenario '" ++ name ++ "': Telegram trigger has no command")
  | .noTrigger => s.report .error ("Scenario '" ++ name ++ "': first block is not a trigger")

/-- Put a scenario into its place. -/
def settle (s : Scheduler) (generation : Nat) (scenario : Scenario) (p : Place) : Scheduler :=
  let s := { s with roster := s.roster.add scenario.id p }
  match p with
  | .loop t => s.addLoop generation scenario.id t
  | .idle why => s.reportIdle scenario.name why
  | _ => s

/-- Take in one scenario. -/
def setUp (generation : Nat) (s : Scheduler) (scenario : Scenario) : Scheduler :=
  match Execution.blocksOf scenario s.around with
  | (.ok blocks, around) =>
    { s with around := around }.settle generation scenario (.ofBlocks scenario.name blocks)
  | (.error fault, around) =>
    { s with around := around }.report .error
      ("Failed to set up scenario '" ++ scenario.name ++ "': " ++ fault.message)

/-- Publish the command menu, if there is a bot to do so. -/
def publishMenu (s : Scheduler) : Scheduler :=
  match s.around.bot? with
  | none => s
  | some b =>
    if b.isConfigured then
      let (_, b, network) := b.publish s.around.network s.roster.menu
      { s with around := { s.around with network := network }.setBot b }
    else s

/-- Take in scenarios for a generation. -/
def takeIn (s : Scheduler) (generation : Nat) (scenarios : List Scenario) : Scheduler :=
  let loaded := Entries.ofPairs (scenarios.map fun scenario => (scenario.id, scenario))
  let s := { s with loaded := loaded, loads := s.loads + 1 }
  let s := (scenarios.foldl (setUp generation) s).publishMenu
  { s with lastReload := some s.now }

/-- Load the active scenarios of the store for a new generation. -/
def load (s : Scheduler) : Scheduler :=
  let generation := s.generations + 1
  let s := { s with generation := some generation, generations := generation }
  match s.ask .list (s.store.list true) with
  | .ok scenarios => s.takeIn generation scenarios
  | .error fault => s.report .error ("Failed to load scenarios: " ++ fault.message)

end Scheduler

end Deskhand
