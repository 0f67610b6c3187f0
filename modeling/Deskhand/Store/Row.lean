import Deskhand.Store.Cell
import Deskhand.Store.Scenario
import Deskhand.Text.Blank
import Deskhand.Text.Pieces

/-!
# Rows of the store

A `Row` is a scenario as the store keeps it, column by column, with the second at which it was made. `Row.set`
puts a value into a column, as long as the column takes it; `Row.scenario` reads a row back, where an empty
chain stands for one without blocks and an empty color for the default one.
-/

namespace Deskhand

/-- The columns of a scenario besides its id. -/
inductive Column where
  | name
  | active
  | blocks
  | lastExecuted
  | color
  | context
  | created
  deriving DecidableEq, Repr, Inhabited

namespace Column

/-- Every column, in the order in which the store keeps them. -/
def all : List Column := [name, active, blocks, lastExecuted, color, context, created]

/-- The name of a column. -/
def title : Column → String
  | name => "name"
  | active => "is_active"
  | blocks => "blocks_json"
  | lastExecuted => "last_executed"
  | color => "color"
  | context => "last_context_json"
  | created => "created_at"

/-- The column of a name. -/
def ofTitle? (title : String) : Option Column :=
  all.find? fun c => c.title == title

/-- Whether a change of a scenario may name a column. -/
def isChangeable : Column → Bool
  | lastExecuted | created => false
  | _ => true

/-- The column that a change names. -/
def ofChange? (title : String) : Option Column :=
  (ofTitle? title).filter isChangeable

end Column

/-- A scenario as the store keeps it. -/
structure Row where
  id : String
  name : String
  /-- One for an active scenario and zero for one that is not. -/
  active : Value := .int 0
  blocks : String := Scenario.noBlocks
  lastExecuted : Value := .null
  color : Option String := none
  context : Option String := none
  /-- The second at which the row was made. -/
  created : Value := .null
  deriving Inhabited

namespace Row

/-- A text that is not empty, or a default. -/
def orDefault (s : Option String) (default : String) : String :=
  (s.filter (· != "")).getD default

/-- The instant of a cell: nothing for a text that is none. A number is no instant at all. -/
def instant : Value → Except Fault (Option Stamp)
  | .text s => .ok (Stamp.read? s)
  | v => if v.isTruthy then .error (.unsuited "fromisoformat: argument must be str") else .ok none

/-- The scenario of a row. -/
def scenario (r : Row) : Except Fault Scenario := do
  let last ← instant r.lastExecuted
  return { id := r.id, name := r.name, isActive := r.active.isTruthy,
           blocks := orDefault (some r.blocks) Scenario.noBlocks, lastExecuted := last,
           color := some (orDefault r.color Scenario.defaultColor), lastContext := r.context }

/-- Whether a row counts as that of an active scenario. -/
def isActive (r : Row) : Bool :=
  r.active.scalarEqual (.int 1)

/-- Put the value of a cell into a column that may not be empty. -/
def filled (column : Column) (v : Value) : Except Fault String :=
  match Cell.textual v with
  | some s => .ok s
  | none => .error (.emptyColumn column.title)

/-- Put the value of a cell into a column. -/
def set (r : Row) (column : Column) (v : Value) : Except Fault Row :=
  match column with
  | .name => (filled .name v).map fun s => { r with name := s }
  | .active => .ok { r with active := Cell.numeric v }
  | .blocks => (filled .blocks v).map fun s => { r with blocks := s }
  | .lastExecuted => .ok { r with lastExecuted := Cell.numeric v }
  | .created => .ok { r with created := Cell.numeric v }
  | .color => .ok { r with color := Cell.textual v }
  | .context => .ok { r with context := Cell.textual v }

/-- Whether a row is listed before another one: by the second at which it was made, then by its name. -/
def before (a b : Row) : Bool :=
  Cell.before a.created b.created || (!Cell.before b.created a.created && a.name < b.name)

end Row

end Deskhand
