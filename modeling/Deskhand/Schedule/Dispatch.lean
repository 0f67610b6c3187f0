import Deskhand.Schedule.Lifecycle

/-!
# Hotkeys and messages

A hotkey or a command starts a run of every scenario that waits for it, in the order of the roster. Messages
of the chat go through the bot, which hands commands on and reports when a chat is bound; the binding is then
kept in the settings.
-/

namespace Deskhand

namespace Scheduler

/-- Start a run of each loaded scenario of a list of ids. -/
def startAll (s : Scheduler) (ids : List String) : Scheduler :=
  ids.foldl (fun s id => s.spawnLoaded id []) s

/-- A hotkey was pressed: the number of scenarios that wait for it. -/
def onHotkey (s : Scheduler) (key modifiers : String) : Nat × Scheduler :=
  let ids := s.roster.onHotkey (.ofTexts key modifiers)
  (ids.length, s.startAll ids)

/-- A command came: the number of scenarios that wait for it. -/
def onCommand (s : Scheduler) (text : String) : Nat × Scheduler :=
  let ids := s.roster.onCommand (Chat.normalCommand text)
  (ids.length, s.startAll ids)

/-- Keep the settings in the store. -/
def keep (s : Scheduler) (settings : Settings) : Except Fault Scheduler :=
  match s.store.save settings with
  | (.ok _, store) => s.ask .save (.ok { s with store := store })
  | (.error fault, _) => s.ask .save (.error fault)

/-- A chat was bound: keep it in the settings of the store. -/
def onPaired (s : Scheduler) (chat : Int) : Scheduler :=
  match (s.ask .settings (.ok s.store.settings)).bind fun settings => s.keep (settings.bound chat) with
  | .ok s => s
  | .error fault => s.report .error ("Failed to store paired chat id: " ++ fault.message)

/-- Hand on what the bot delivers to the scheduler. -/
def take (s : Scheduler) : Delivery → Scheduler
  | .command name text _ => if name == ownName then (s.onCommand text).2 else s
  | .paired name chat => if name == ownName then s.onPaired chat else s

/-- A message came in: whether it was taken as a command. -/
def onMessage (s : Scheduler) (text : String) (chat : Int) : Bool × Scheduler :=
  match s.around.bot? with
  | none => (false, s)
  | some b =>
    let r := b.receive s.around.network s.now s.now text chat
    let around := { s.around with network := r.network }.setBot r.bot
    let around :=
      if r.isUnanswered then
        around.report .error Surroundings.botSource
          ("Failed to send Telegram message: " ++ ChatNetwork.fault.message)
      else around
    (r.accepted, r.deliveries.foldl take { s with around := around })

/-- A message came in over a connection, which matters only while that is the bot's and fetches messages. -/
def onFetched (s : Scheduler) (connection : Nat) (text : String) (chat : Int) : Scheduler :=
  let isFetching := ((s.around.bot?.bind ChatBot.application).map BotApplication.isFetching).getD false
  if connection == s.connections && isFetching && text != "" then (s.onMessage text chat).2 else s

/-- A key went down while the hook runs. -/
def onPress (s : Scheduler) (k : KeyPress) (injected : Bool) : Scheduler :=
  match s.hook.filter (·.isRunning) with
  | none => s
  | some h =>
    let (posted, h) := h.press k injected
    let s := { s with hook := some h }
    match posted with
    | some c => (s.onHotkey c.key c.modifiers).2
    | none => s

/-- A key went up while the hook runs. -/
def onRelease (s : Scheduler) (k : KeyPress) : Scheduler :=
  match s.hook.filter (·.isRunning) with
  | none => s
  | some h => { s with hook := some (h.release k) }

/-- Deliver a report to the watch of a loop and let its queued jobs run: how many observers got it. -/
def reportTo (l : PollingLoop) (tree : FileTree) (directory : String) (r : ChangeReport) (now : Float) :
    Nat × PollingLoop :=
  match l.trigger.state with
  | .fileChange w =>
    let (count, w) := w.deliver l.trigger.block directory r now
    let (_, w) := w.runJobs l.trigger.block tree {}
    (count, { l with trigger := { l.trigger with state := .fileChange w } })
  | _ => (0, l)

/-- Deliver a report on a directory to every watch: how many observers got it. -/
def onReport (s : Scheduler) (directory : String) (r : ChangeReport) : Nat × Scheduler :=
  let outcomes := s.loops.map fun l => reportTo l s.around.desk.tree directory r s.elapsed
  (outcomes.foldl (fun count o => count + o.1) 0, { s with loops := outcomes.map (·.2) })

end Scheduler

end Deskhand
