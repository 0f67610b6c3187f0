import Deskhand.Chat.Command
import Deskhand.Chat.Network
import Deskhand.Store.Scenario
import Deskhand.Trigger.Basic

/-!
# The roster

Where a scenario belongs is decided by its leading block (`Place.ofBlocks`): with a hotkey, with a chat
command, in a polling loop, or nowhere. The `Roster` lists the scenarios that wait for each hotkey and each
command, every scenario once and in the order in which they came, and the command menu.
-/

namespace Deskhand

/-- Why a scenario waits for nothing. -/
inductive Idleness where
  | noBlocks
  | noKey
  | noCommand
  /-- The leading block is an action. -/
  | noTrigger
  deriving DecidableEq, Repr, Inhabited

/-- What a scenario waits for. -/
inductive Place where
  | hotkey (combination : KeyCombination)
  /-- A command, with what it does. -/
  | command (name description : String)
  | loop (trigger : Trigger)
  | idle (why : Idleness)
  deriving Inhabited

namespace Place

/-- The place of a scenario with a name whose leading block is a trigger. -/
def ofTrigger (name : String) (t : Trigger) : Place :=
  match t.state with
  | .hotkey _ =>
    match Trigger.combination? t.block with
    | some combination => hotkey combination
    | none => idle .noKey
  | .chatCommand =>
    let wanted := Trigger.command t.block
    if wanted == "" then idle .noCommand
    else command wanted (Chat.menuDescription (t.block.param "Description" name))
  | _ => loop t

/-- The place of a scenario with a name and blocks. -/
def ofBlocks (name : String) : List Block → Place
  | [] => idle .noBlocks
  | b :: _ =>
    match Trigger.ofBlock? b with
    | some t => ofTrigger name t
    | none => idle .noTrigger

end Place

/-- The scenarios that wait for hotkeys and commands, by id, and the command menu. -/
structure Roster where
  hotkeys : Entries KeyCombination (List String) := []
  commands : Entries String (List String) := []
  menu : ChatMenu := []
  deriving DecidableEq, Repr, Inhabited

namespace Roster

/-- Add an id to a list, once. -/
def addOnce (id : String) (ids : List String) : List String :=
  if ids.contains id then ids else ids ++ [id]

/-- List a scenario under a key. -/
def enter {κ : Type} [DecidableEq κ] (lists : Entries κ (List String)) (key : κ) (id : String) :
    Entries κ (List String) :=
  lists.put key (addOnce id ((lists.find? key).getD []))

/-- List a scenario at its place. The first scenario of a command describes it. -/
def add (r : Roster) (id : String) : Place → Roster
  | .hotkey combination => { r with hotkeys := enter r.hotkeys combination id }
  | .command name description =>
    { r with
      commands := enter r.commands name id
      menu := if r.menu.any (·.1 == name) then r.menu else r.menu ++ [(name, description)] }
  | _ => r

/-- The scenarios that wait for a combination. -/
def onHotkey (r : Roster) (c : KeyCombination) : List String :=
  (r.hotkeys.find? c).getD []

/-- The scenarios that wait for a command. -/
def onCommand (r : Roster) (name : String) : List String :=
  (r.commands.find? name).getD []

/-- The number of places that lists hold. -/
def count {κ : Type} (lists : Entries κ (List String)) : Nat :=
  lists.foldl (fun count e => count + e.2.length) 0

end Roster

end Deskhand
