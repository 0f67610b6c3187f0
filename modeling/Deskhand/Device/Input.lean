import Deskhand.Catalogue.Web
import Deskhand.Device.Desk

/-!
# Mouse and keyboard

The input devices click at a place and type texts, key by key with a short rest after each, or in one go. They
answer with a `Reply`. Instead of devices a prepared answer can stand in, which notes what it was asked for.
-/

namespace Deskhand

/-- The answer of something that was asked to act. -/
inductive Reply where
  | done
  /-- It was not done, for a reason that may go unnamed. -/
  | refused (reason : Option String)
  deriving DecidableEq, Repr, Inhabited

/-- What clicks and types. -/
inductive InputDevices where
  /-- The devices of the desk; with a fault they fail at the first touch. -/
  | real (fault : Option String)
  /-- A prepared answer to every request. -/
  | prepared (answer : Value)
  deriving Inhabited

namespace InputDevices

/-- The rest after each key, in milliseconds. -/
def keyRest : Nat := 10

/-- The rest after a text, in milliseconds. -/
def textRest : Nat := 50

/-- What is done to the desk when a text is typed. -/
def typing (text : String) (keyByKey : Bool) : List Effect :=
  (if keyByKey then text.toList.flatMap fun c => [.type (String.singleton c), .rest keyRest] else [.type text])
    ++ [.rest textRest]

/-- Whether typing a text touches the keyboard. -/
def touches (text : String) (keyByKey : Bool) : Bool :=
  !keyByKey || text != ""

/-- What a prepared answer says. -/
def replyOf (answer : Value) : Except Fault Reply := do
  let success := (← answer.member "success").getD .null
  if success.isTruthy then return .done
  match (← answer.member "error").getD .null with
  | .null => return .refused none
  | reason => return .refused (some reason.toText)

/-- Click at a place with a named button. -/
def click (devices : InputDevices) (desk : Desk) (x y : Int) (button : String) : Except Fault Reply × Desk :=
  match devices with
  | prepared answer =>
    (replyOf answer, desk.did (.call "click_at" [.int x, .int y, .text button]))
  | real fault =>
    match MouseButton.ofName? button, fault with
    | none, _ => (.ok (.refused (some "Only Left and Right mouse buttons are supported")), desk)
    | some _, some reason => (.error (.refused reason), desk)
    | some b, none => (.ok .done, desk.didAll [.move x y, .click b])

/-- Type a text. -/
def typeText (devices : InputDevices) (desk : Desk) (text : String) (keyByKey : Bool) :
    Except Fault Reply × Desk :=
  match devices with
  | prepared answer =>
    (replyOf answer, desk.did (.call "type_text" [.text text, .bool keyByKey]))
  | real fault =>
    match fault.filter fun _ => touches text keyByKey with
    | some reason => (.error (.refused reason), desk)
    | none => (.ok .done, desk.didAll (typing text keyByKey))

end InputDevices

end Deskhand
