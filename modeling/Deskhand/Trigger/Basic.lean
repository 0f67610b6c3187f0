import Deskhand.Chat.Bot
import Deskhand.Keyboard.Key
import Deskhand.Trigger.Cyclic
import Deskhand.Trigger.Daily
import Deskhand.Trigger.Watch

/-!
# Triggers

A `Trigger` is a trigger block together with what it remembers between checks: the next firing of a cyclic
trigger, whether a hotkey was pressed, the state of a file watch. `Trigger.check` asks whether it fires and
gives its state afterwards.
-/

namespace Deskhand

/-- What a trigger remembers between checks. -/
inductive TriggerState where
  | daily
  | cyclic (next : Option Instant)
  | hotkey (isRaised : Bool)
  | fileChange (watch : Watch)
  | chatCommand
  deriving DecidableEq, Repr, Inhabited

/-- A trigger block and what it remembers. -/
structure Trigger where
  block : Block
  state : TriggerState
  deriving DecidableEq, Repr, Inhabited

namespace Trigger

/-- The memory of a trigger that was never checked. -/
def freshState? : BlockKind → Option TriggerState
  | .timeTrigger => some .daily
  | .cyclicTrigger => some (.cyclic none)
  | .hotkeyTrigger => some (.hotkey false)
  | .fileChangeTrigger => some (.fileChange {})
  | .chatCommandTrigger => some .chatCommand
  | _ => none

/-- A block as a trigger that was never checked, if it is a trigger. -/
def ofBlock? (b : Block) : Option Trigger :=
  (freshState? b.kind).map fun state => ⟨b, state⟩

/-- The watch of a file trigger. -/
def watch? (t : Trigger) : Option Watch :=
  match t.state with
  | .fileChange w => some w
  | _ => none

/-- The combination of a hotkey trigger, if its key is set. -/
def combination? (b : Block) : Option KeyCombination :=
  (b.param? "Key").map fun key => KeyCombination.ofTexts key (b.param "Modifiers" "")

/-- The command of a command trigger; empty where none is set. -/
def command (b : Block) : String :=
  Chat.normalCommand (b.param "Command" "")

/-- Whether the command of a trigger came since an instant, or else lately. -/
def commandCame (b : Block) (bot : Option ChatBot) (last : Option Instant) (now : Instant) :
    Except Fault Bool :=
  let wanted := command b
  match bot.filter fun bot => wanted != "" && bot.isConfigured with
  | some bot => bot.hasCommandSince wanted last now
  | none => .ok false

/-- Ask whether a trigger fires now, when its scenario ran last at an instant. -/
def check (t : Trigger) (bot : Option ChatBot) (last : Option Instant) (now : Instant) :
    Except Fault Bool × Trigger :=
  match t.state with
  | .daily => (Daily.shouldFire t.block last now, t)
  | .cyclic next =>
    let (outcome, next) := Cyclic.check t.block next last now
    (outcome, { t with state := .cyclic next })
  | .hotkey isRaised => (.ok isRaised, { t with state := .hotkey false })
  | .fileChange w =>
    let (fired, w) := w.check
    (.ok fired, { t with state := .fileChange w })
  | .chatCommand => (commandCame t.block bot last now, t)

/-- Note that the combination of a hotkey trigger was pressed. -/
def raise (t : Trigger) : Trigger :=
  match t.state with
  | .hotkey _ => { t with state := .hotkey true }
  | _ => t

end Trigger

end Deskhand
