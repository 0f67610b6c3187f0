import Deskhand.Fault
import Deskhand.Keyboard.Key

/-!
# The keyboard hook

A `KeyboardHook` follows the keys of the whole desktop. It keeps which modifiers are held, and posts every
other key that goes down as a `KeyCombination` with them. Keys that a program makes up when it types
(`injected`) are not followed when they go down. Posts reach the program only while it listens (`Listener`).
-/

namespace Deskhand

/-- Whether anyone takes what the hook posts. -/
inductive Listener where
  | absent
  | present
  /-- Someone took posts once and no longer does. -/
  | closed
  deriving DecidableEq, Repr, Inhabited

/-- The state of the keyboard hook. -/
structure KeyboardHook where
  isRunning : Bool := false
  listener : Listener := .absent
  /-- The modifiers that are held, in order. -/
  held : List String := []
  /-- Whether letter and digit keys are named by their code. -/
  byCode : Bool := false
  deriving DecidableEq, Repr, Inhabited

namespace KeyboardHook

/-- Start the hook, which may fail; nobody listening is a fault. -/
def start (h : KeyboardHook) (fails : Bool) : Except Fault Bool × KeyboardHook :=
  if h.isRunning then (.ok true, h)
  else if h.listener == .absent then (.error (.refused "attach() must be called before start()"), h)
  else if fails then (.ok false, h)
  else (.ok true, { h with isRunning := true })

/-- Stop the hook; no modifier counts as held any longer. -/
def stop (h : KeyboardHook) : KeyboardHook :=
  { h with isRunning := false, held := [] }

/-- What reaches the program when a key goes down with modifiers. -/
def post (h : KeyboardHook) (key modifiers : String) : Option KeyCombination :=
  if h.listener == .present then some (.ofTexts key modifiers) else none

/-- A key went down. -/
def press (h : KeyboardHook) (k : KeyPress) (injected : Bool) : Option KeyCombination × KeyboardHook :=
  match (k.name? h.byCode).filter fun name => name != "" && !injected with
  | none => (none, h)
  | some name =>
    match Keyboard.modifier? (Text.lower name) with
    | some modifier => (none, { h with held := Ordered.insert modifier h.held })
    | none => (h.post name (Text.join "+" h.held), h)

/-- A key went up. -/
def release (h : KeyboardHook) (k : KeyPress) : KeyboardHook :=
  match Keyboard.modifier? (Text.lower ((k.name? h.byCode).getD "")) with
  | some modifier => { h with held := Ordered.erase modifier h.held }
  | none => h

end KeyboardHook

end Deskhand
