/-!
# Kinds of blocks

The closed list of block kinds: five triggers, which decide when a scenario runs, and seven actions, which it
then performs. `BlockKind.tag` is the name under which a kind is stored; `BlockKind.ofTag?_tag` says that the
name determines the kind.
-/

namespace Deskhand

/-- A kind of block. -/
inductive BlockKind where
  | timeTrigger
  | cyclicTrigger
  | hotkeyTrigger
  | fileChangeTrigger
  | chatCommandTrigger
  | mouseClick
  | keyboardInput
  | processAction
  | delay
  | videoCheck
  | filmCheck
  | chatSend
  deriving DecidableEq, Repr, Inhabited

namespace BlockKind

/-- Every kind, in the order in which they are listed. -/
def all : List BlockKind :=
  [timeTrigger, cyclicTrigger, hotkeyTrigger, fileChangeTrigger, chatCommandTrigger, mouseClick,
   keyboardInput, processAction, delay, videoCheck, filmCheck, chatSend]

/-- The name under which a kind is stored. -/
def tag : BlockKind → String
  | timeTrigger => "TimeTrigger"
  | cyclicTrigger => "CyclicTrigger"
  | hotkeyTrigger => "HotkeyTrigger"
  | fileChangeTrigger => "FileChangeTrigger"
  | chatCommandTrigger => "TelegramCommandTrigger"
  | mouseClick => "MouseClick"
  | keyboardInput => "KeyboardInput"
  | processAction => "ProcessAction"
  | delay => "Delay"
  | videoCheck => "YouTubeCheck"
  | filmCheck => "TMDbCheck"
  | chatSend => "TelegramSend"

/-- The kind that is stored under a name. -/
def ofTag? (name : String) : Option BlockKind :=
  all.find? fun kind => kind.tag == name

/-- Whether blocks of a kind decide when a scenario runs. -/
def isTrigger : BlockKind → Bool
  | timeTrigger | cyclicTrigger | hotkeyTrigger | fileChangeTrigger | chatCommandTrigger => true
  | _ => false

/-- What blocks of a kind are called for their part in a scenario. -/
def role (kind : BlockKind) : String :=
  if kind.isTrigger then "trigger" else "action"

/-- One line on what a kind of block does. -/
def summary : BlockKind → String
  | timeTrigger => "Fires once per qualifying day at `Time`."
  | cyclicTrigger => "Fires every `Interval` `Unit`."
  | hotkeyTrigger => "Fires once after the global hotkey source reports `Key` + `Modifiers`."
  | fileChangeTrigger => "Fires on filesystem events for a file or directory."
  | chatCommandTrigger => "Fires when the Telegram bot received `Command` after the last execution."
  | mouseClick => "Parameters: X, Y (screen coordinates), Button (Left | Right, default Left)."
  | keyboardInput => "Type text into the focused window."
  | processAction => "Parameters:"
  | delay => "Parameters: Milliseconds (non-negative int)."
  | videoCheck => "Record the newest video URL of `ChannelId` if it was not seen before."
  | filmCheck => "Record new releases for `Genre` in `Region` during `Period`."
  | chatSend => "Parameters:"

/-- A kind is found under the name it is stored under. -/
theorem ofTag?_tag (kind : BlockKind) : ofTag? kind.tag = some kind := by
  cases kind <;> decide

/-- No two kinds are stored under one name. -/
theorem tag_injective {a b : BlockKind} (h : a.tag = b.tag) : a = b := by
  have := congrArg ofTag? h
  simpa [ofTag?_tag] using this

end BlockKind

end Deskhand
