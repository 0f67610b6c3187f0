import Deskhand.Fault
import Deskhand.Fields

/-!
# Scenarios

A `Scenario` is a chain of blocks with a name, as it is stored: the chain as text, whether it is active, and
when it ran last.
-/

namespace Deskhand

/-- A stored chain of blocks. -/
structure Scenario where
  id : String
  name : String
  isActive : Bool := false
  blocks : String := "[]"
  lastExecuted : Option Stamp := none
  color : Option String := some "#673AB7"
  lastContext : Option String := none
  deriving DecidableEq, Repr, Inhabited

namespace Scenario

/-- The color of a scenario that has none of its own. -/
def defaultColor : String := "#673AB7"

/-- The chain of a scenario that has no blocks. -/
def noBlocks : String := "[]"

/-- The names of the fields of a scenario. -/
def fieldNames : List String :=
  ["id", "name", "is_active", "blocks_json", "last_executed", "color", "last_context_json"]

/-- The scenario of a record, which has to have an id and a name and no field of another name. -/
def ofFields (fs : Fields) : Except Fault Scenario :=
  match fs.text? "id", fs.text? "name", fs.all fun f => fieldNames.contains f.1 with
  | some id, some name, true =>
    .ok { id, name, isActive := fs.flag "is_active", blocks := fs.text "blocks_json" noBlocks
          lastExecuted := fs.stamp? "last_executed"
          color := if fs.has "color" then fs.text? "color" else some defaultColor
          lastContext := fs.text? "last_context_json" }
  | _, _, _ => .error (.unsuited "missing argument")

/-- A scenario as a record. -/
def record (s : Scenario) : Entries String Value :=
  [("id", .text s.id), ("name", .text s.name), ("is_active", .bool s.isActive),
   ("blocks_json", .text s.blocks), ("last_executed", .ofText? (s.lastExecuted.map Stamp.text)),
   ("color", .ofText? s.color), ("last_context_json", .ofText? s.lastContext)]

end Scenario

end Deskhand
