import Deskhand.CommandLine.Console

/-!
# Commands on the chat

A chat is bound by a code that is sent to the bot. While a daemon runs, the code is left in the settings for
it; otherwise a bot of the command's own waits for the code. The settings that were read before the wait are
kept after it.
-/

namespace Deskhand

namespace Scheduler

/-- Let time pass up to a reading of the meter, for at most a number of alarms, or to the end of the instant
at which something is so. -/
def advanceUntil (isSo : Scheduler → Bool) : Nat → Scheduler → Float → Scheduler
  | 0, s, target => s.setElapsed target
  | fuel + 1, s, target =>
    if isSo s then s.catchUp
    else
      match s.nextAlarm? target with
      | none => s.setElapsed target
      | some (a, s) => advanceUntil isSo fuel (s.ring a) target

/-- The chat that the bot is bound to. -/
def boundChat? (s : Scheduler) : Option Int :=
  s.around.bot?.bind ChatBot.chatId

/-- A scheduler with nothing but a bot that fetches messages for a token, over what an earlier one worked
with, but for the store. -/
def listening (e : Scheduler) (token : String) (pairingSeconds : Int) : Scheduler :=
  let s : Scheduler :=
    { times := {}, inbound := e.inbound, numbered := e.numbered, token := Text.trim token
      around := { e.around with chat := some (.bot { pairingSeconds := pairingSeconds }) } }
  s.connect {}

/-- Wait for a chat to send a code, for at most some seconds: the chat, if one did. -/
def awaitPairing (e : Scheduler) (token code : String) (seconds : Int) :
    Except Fault (Option Int) × Scheduler :=
  let s := e.listening token seconds
  match s.around.bot? with
  | none => (.ok none, s)
  | some b =>
    if !b.isConfigured then (.ok none, s)
    else
      let (started, b) := b.startPairing s.now (some code)
      let s := { s with around := s.around.setBot b }
      match started with
      | .error fault => (.error fault, s)
      | .ok _ =>
        let s :=
          if seconds ≤ 0 then s
          else advanceUntil (·.boundChat?.isSome) alarmLimit s (s.elapsed + (Binary.ofInt? seconds).getD 0.0)
        (.ok s.boundChat?, s)

end Scheduler

namespace Errand

/-- Keep a code in the settings for the daemon. -/
def leaveCode (settings : Settings) (code : String) (seconds : Int) : Errand Exit := do
  saveSettings (settings.offering code)
  succeed [("message",
      .text ("Send /pair " ++ code ++ " to the bot within " ++ Integer.text seconds ++ " seconds")),
    ("pairing_code", .text code)]

/-- Wait for a chat to send a code, and keep it in the settings. -/
def awaitCode (settings : Settings) (code : String) (seconds : Int) : Errand Exit := do
  print ("Send /pair " ++ code ++ " to the bot within " ++ Integer.text seconds ++ " seconds...\n")
  let (outcome, s) := (← get).engine.awaitPairing settings.botToken code seconds
  modify fun c => { c with engine := { c.engine with around := s.around } }
  match ← ofExcept outcome with
  | none => fail "Pairing timed out"
  | some chat =>
    saveSettings { settings.bound chat with chatEnabled := true }
    succeed [("message", .text ("Paired with chat " ++ Integer.text chat))]

/-- Bind a chat. -/
def pairChat (config : Config) (settings : Settings) (seconds : Option Int) : Errand Exit := do
  let (code, dice) := Pairing.freshCode (← get).dice
  modify fun c => { c with dice := dice }
  let (isRunning, d) := (← daemon).check
  leave d
  if isRunning then leaveCode settings code config.chat.pairingSeconds
  else awaitCode settings code ((seconds.filter (· != 0)).getD config.chat.pairingSeconds)

/-- Say whether the network knows the token. -/
def checkToken (settings : Settings) : Errand Exit := do
  if (← get).engine.around.network.recognises settings.botToken then
    succeed [("message", .text "Bot token is valid")]
  else fail "Bot token was rejected by Telegram"

/-- Keep the settings that were read, without what is known of the chat. -/
def keepDisconnected (settings : Settings) : Errand Exit := do
  saveSettings settings.disconnected
  succeed [("message", .text "Telegram disconnected")]

/-- Forget what is known of the chat. -/
def disconnectChat : Errand Exit := do
  keepDisconnected (← store).settings

/-- Perform what takes a token, with the settings, if there is one. -/
def withToken (errand : Settings → Errand Exit) : Errand Exit := do
  let settings := (← store).settings
  if settings.botToken == "" then
    fail "No bot token; run: flexauto settings set --key telegram_bot_token --value TOKEN"
  else errand settings

end Errand

end Deskhand
