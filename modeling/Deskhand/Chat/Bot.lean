import Deskhand.Chat.Network
import Deskhand.Chat.Pairing
import Deskhand.Chat.Recent
import Deskhand.Text.Markup

/-!
# The chat bot

A `ChatBot` takes messages of the chat that it is bound to as commands and passes them on to its subscribers.
A chat is bound by the code of a `Pairing` or by the settings. `ChatBot.receive` handles one message and tells
what is to be delivered to whom; the other operations connect and disconnect the bot, start and stop polling,
send messages and publish the menu. Times are those of the wall clock, handed in.
-/

namespace Deskhand

/-- A built connection to the network. -/
structure BotApplication where
  token : String
  /-- Whether it fetches messages. -/
  isFetching : Bool := false
  deriving DecidableEq, Repr, Inhabited

/-- What is handed to a subscriber. -/
inductive Delivery where
  /-- A command from a chat. -/
  | command (subscriber text : String) (chat : Int)
  /-- A chat that was bound. -/
  | paired (subscriber : String) (chat : Int)
  deriving DecidableEq, Repr, Inhabited

/-- The bot of the chat network. -/
structure ChatBot where
  /-- How long a pairing code is valid, in seconds. -/
  pairingSeconds : Int := 120
  /-- How far back a command counts for a trigger that never ran, in seconds. -/
  windowSeconds : Int := 10
  /-- Whether there is a bot to send with. -/
  isConfigured : Bool := false
  application : Option BotApplication := none
  isPolling : Bool := false
  chatId : Option Int := none
  pairing : Option Pairing := none
  dice : CodeDice := {}
  recent : Recent := []
  /-- The commands that the menu can hold. -/
  menu : ChatMenu := []
  /-- All commands. -/
  commands : ChatMenu := []
  /-- Who is told of commands, in order. -/
  subscribers : List String := []
  /-- Who is told of a chat that was bound, in order. -/
  pairedSubscribers : List String := []
  deriving DecidableEq, Repr, Inhabited

namespace ChatBot

/-- Whether a chat is bound. -/
def isPaired (b : ChatBot) : Bool :=
  b.chatId.isSome

/-- The pairing that is valid at an instant. -/
def pairingAt (b : ChatBot) (now : Instant) : Option Pairing :=
  b.pairing.filter (·.isValid now)

/-- Add a subscriber to commands, once. -/
def subscribe (b : ChatBot) (name : String) : ChatBot :=
  if b.subscribers.contains name then b else { b with subscribers := b.subscribers ++ [name] }

/-- Drop a subscriber to commands. -/
def unsubscribe (b : ChatBot) (name : String) : ChatBot :=
  { b with subscribers := b.subscribers.erase name }

/-- Add a subscriber to bound chats, once. -/
def onPaired (b : ChatBot) (name : String) : ChatBot :=
  if b.pairedSubscribers.contains name then b
  else { b with pairedSubscribers := b.pairedSubscribers ++ [name] }

/-- Forget the pairing code. -/
def stopPairing (b : ChatBot) : ChatBot :=
  { b with pairing := none }

/-- Accept a code for a while; a fresh one if none is given. -/
def startPairing (b : ChatBot) (now : Instant) (given : Option String) : Except Fault String × ChatBot :=
  let (code, dice) := Pairing.codeOr given b.dice
  match now.shift? (b.pairingSeconds * Span.second) with
  | some expires => (.ok code, { b with dice := dice, pairing := some ⟨code, expires⟩ })
  | none =>
    (.error .dateOverflow,
      { b with dice := dice, pairing := b.pairing.map fun p => { p with code := code } })

/-- Build the connection for a token; false when the token is blank or the building fails. -/
def build (b : ChatBot) (network : ChatNetwork) (token : String) (chat : Option Int) : Bool × ChatBot :=
  if Text.isBlankText token then (false, b)
  else if network.fails .build then (false, { b with application := none, isConfigured := false })
  else
    (true, { b with
      application := some ⟨Text.trim token, false⟩, isConfigured := true, chatId := chat, pairing := none })

/-- Start to fetch messages; false when there is no connection. -/
def startPolling (b : ChatBot) (network : ChatNetwork) : Except Fault Bool × ChatBot :=
  match b.application with
  | none => (.ok false, b)
  | some app =>
    if b.isPolling then (.ok true, b)
    else if network.fails .connect || network.fails .startPolling then (.error ChatNetwork.fault, b)
    else (.ok true, { b with application := some { app with isFetching := true }, isPolling := true })

/-- The seconds for which stopping has to wait. -/
def stopWait (b : ChatBot) (network : ChatNetwork) : Option Float :=
  match b.application with
  | some app =>
    if b.isPolling && app.isFetching && network.stopSeconds > 0.0 then some network.stopSeconds else none
  | none => none

/-- The first part of stopping: no longer count as polling. -/
def beginStop (b : ChatBot) : ChatBot :=
  if b.application.isSome then { b with isPolling := false } else b

/-- The second part of stopping, after the wait: no longer fetch messages. -/
def finishStop (b : ChatBot) : ChatBot :=
  { b with application := b.application.map fun app => { app with isFetching := false } }

/-- Stop fetching messages and wait for it, no longer than a limit: the seconds that it takes, and the bot
afterwards. When the limit comes first the connection goes on fetching. -/
def stopWithin (b : ChatBot) (network : ChatNetwork) (limit : Option Float) : Float × ChatBot :=
  let seconds := (b.stopWait network).getD 0.0
  if !b.isPolling then (0.0, b)
  else
    match limit.filter fun l => seconds > l with
    | some l => (l, b.beginStop)
    | none => (seconds, b.beginStop.finishStop)

/-- Drop the connection, once polling has stopped. -/
def disconnect (b : ChatBot) : ChatBot :=
  { b with application := none, isConfigured := false, chatId := none, pairing := none }

/-- Send a message to the bound chat; false when there is none or the network fails. -/
def send (b : ChatBot) (network : ChatNetwork) (text : String) (parseMode : Option String) :
    Bool × ChatNetwork :=
  match b.chatId with
  | some chat =>
    if b.isConfigured && !network.fails .send then
      (true, { network with sent := network.sent ++ [⟨chat, text, parseMode⟩] })
    else (false, network)
  | none => (false, network)

/-- Publish the commands; the number of them that the menu holds. -/
def publish (b : ChatBot) (network : ChatNetwork) (commands : ChatMenu) : Nat × ChatBot × ChatNetwork :=
  let menu := commands.filter fun c => Chat.isMenuName c.1
  let b := { b with commands := commands, menu := menu }
  if !b.isConfigured then (0, b, network)
  else if network.fails .publishMenu then (menu.length, b, network)
  else
    (menu.length, b,
      { network with menus := network.menus ++ [menu.map fun c => (c.1, Chat.menuDescription c.2)] })

/-- One line of the list of commands. -/
def commandLine (menu : ChatMenu) (command : String × String) : String :=
  (if menu.any (·.1 == command.1) then "🔹" else "🔸") ++ " <code>/" ++ Text.markup command.1 ++ "</code> — "
    ++ Text.markup command.2

/-- The list of all commands, saying which of them are in the menu. -/
def commandList (b : ChatBot) : String :=
  let head := ["<b>📋 Active commands:</b>", ""]
  if b.commands.isEmpty then Text.join "\n" (head ++ ["No active scenarios with Telegram triggers."])
  else
    Text.join "\n"
      (head ++ b.commands.map (commandLine b.menu) ++ ["", "<i>🔹 - in menu | 🔸 - typed only</i>"])

/-- What a chat is told when it is bound. -/
def welcome : String :=
  "✅ FlexAutomator connected! Commands from this chat are now accepted."

/-- The message that asks for the list of commands. -/
def listCommand : String := "/commands"

/-- The outcome of a message: whether it was taken as a command, the bot and the network after it, and what is
to be delivered, in order. -/
structure Receipt where
  accepted : Bool
  bot : ChatBot
  network : ChatNetwork
  deliveries : List Delivery
  /-- Whether an answer was to be sent and was not. -/
  isUnanswered : Bool := false

/-- Handle a message of a chat. The clock shows `clock`; the message counts as coming at `now`. -/
def receive (b : ChatBot) (network : ChatNetwork) (clock now : Instant) (text : String) (chat : Int) :
    Receipt :=
  let stripped := Text.trim text
  if (b.pairingAt clock).any (·.accepts stripped) then
    let b := { b with chatId := some chat, pairing := none }
    let (sent, network) := b.send network welcome none
    ⟨false, b, network, b.pairedSubscribers.map fun name => .paired name chat, b.isConfigured && !sent⟩
  else if b.chatId ≠ some chat then ⟨false, b, network, [], false⟩
  else if Text.lower stripped == listCommand then
    let (sent, network) := b.send network b.commandList (some "HTML")
    ⟨false, b, network, [], b.isConfigured && !sent⟩
  else
    let b := { b with recent := b.recent.add stripped now }
    ⟨true, b, network, b.subscribers.map fun name => .command name stripped chat, false⟩

/-- Whether a command came after an instant, or else within the window before now. -/
def hasCommandSince (b : ChatBot) (command : String) (since : Option Instant) (now : Instant) :
    Except Fault Bool :=
  match since with
  | some t => .ok (b.recent.hasSince command t)
  | none =>
    match now.shift? (-(b.windowSeconds * Span.second)) with
    | some t => .ok (b.recent.hasSince command t)
    | none => .error .dateOverflow

end ChatBot

end Deskhand
