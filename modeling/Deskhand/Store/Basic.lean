import Deskhand.Block.Basic
import Deskhand.Store.Row
import Deskhand.Store.Settings

/-!
# The store

The `Store` keeps the scenarios and the settings. An operation answers with what was asked for, declines with
a `Refusal` and leaves the store as it is, or meets a fault. Scenarios are listed by the second at which they
were made, then by name, then in the order in which they came.
-/

namespace Deskhand

/-- The scenarios and the settings that are kept. -/
structure Store where
  /-- The rows in the order in which they came. -/
  rows : List Row := []
  /-- The settings, once they were saved. -/
  saved : Option Settings := none
  deriving Inhabited

/-- Why the store declines what it is asked for. -/
inductive StoreRefusal where
  | blankName
  | taken (id : String)
  | unknownFields (names : List String)
  | nothingToChange
  | unknownScenario (id : String)
  deriving DecidableEq, Repr, Inhabited

/-- The wording of a refusal. -/
def StoreRefusal.message : StoreRefusal → String
  | blankName => "Scenario name is required"
  | taken id => "Scenario already exists: " ++ id
  | unknownFields names => "Cannot update fields: " ++ (Value.list (names.map .text)).nested
  | nothingToChange => "Nothing to update"
  | unknownScenario id => "Scenario not found: " ++ id

/-- What a new scenario is made of. -/
structure Draft where
  name : Value
  /-- The id; a fresh one if it is missing or empty. -/
  id : Option String := none
  active : Value := .bool false
  blocks : Value := .text Scenario.noBlocks
  color : Value := .text Scenario.defaultColor
  deriving Inhabited

namespace Draft

/-- The draft of a record. -/
def ofFields (fs : Fields) : Draft :=
  { name := fs.get "name", id := fs.text? "id", active := fs.getOr "is_active" (.bool false)
    blocks := fs.getOr "blocks_json" (.text Scenario.noBlocks)
    color := fs.getOr "color" (.text Scenario.defaultColor) }

end Draft

namespace Store

/-- The answer of an operation that may be declined. -/
abbrev Answer (α : Type) := Except Fault (Except StoreRefusal α)

/-- Put a row into a list, behind those that it does not come before. -/
def place (r : Row) : List Row → List Row
  | [] => [r]
  | s :: rest => if Row.before r s then r :: s :: rest else s :: place r rest

/-- Rows in the order in which they are listed. -/
def sorted (rows : List Row) : List Row :=
  rows.foldl (fun acc r => place r acc) []

/-- The rows of all scenarios or of the active ones, as they are listed. -/
def listed (s : Store) (activeOnly : Bool) : List Row :=
  sorted (s.rows.filter fun r => !activeOnly || r.isActive)

/-- The scenarios, or the active ones. -/
def list (s : Store) (activeOnly : Bool) : Except Fault (List Scenario) :=
  (s.listed activeOnly).mapM Row.scenario

/-- The row with an id. -/
def row? (s : Store) (id : String) : Option Row :=
  s.rows.find? fun r => r.id == id

/-- The scenario with an id. -/
def get (s : Store) (id : String) : Except Fault (Option Scenario) :=
  match s.row? id with
  | some r => r.scenario.map some
  | none => .ok none

/-- The trimmed name of a new scenario. -/
def nameOf (v : Value) : Except Fault (Option String) :=
  match v with
  | .text s => .ok (if Text.isBlankText s then none else some (Text.trim s))
  | v => if v.isTruthy then .error (.missingMember v "strip") else .ok none

/-- The values of a draft as cells: whether it is active, its chain and its color. -/
def cells (d : Draft) : Except Fault (Value × Value × Value) := do
  let active ← Cell.integer d.active
  return (← Cell.ofValue (.int active), ← Cell.ofValue d.blocks, ← Cell.ofValue d.color)

/-- Make a scenario. Without an id it draws one, and does so also when it is declined later. -/
def create (s : Store) (now : Instant) (ids : IdSupply) (d : Draft) : Answer Scenario × Store × IdSupply :=
  match nameOf d.name with
  | .error fault => (.error fault, s, ids)
  | .ok none => (.ok (.error .blankName), s, ids)
  | .ok (some name) =>
    let (id, ids) := ids.orDraw d.id
    match cells d with
    | .error fault => (.error fault, s, ids)
    | .ok (active, blocks, color) =>
      match Cell.textual blocks with
      | none => (.ok (.error (.taken id)), s, ids)
      | some blocks =>
        if (s.row? id).isSome then (.ok (.error (.taken id)), s, ids)
        else
          let r : Row :=
            { id, name, active, blocks, color := Cell.textual color, created := .text now.secondText }
          (r.scenario.map .ok, { s with rows := s.rows ++ [r] }, ids)

/-- Replace the row with an id. -/
def replace (s : Store) (id : String) (r : Row) : Store :=
  { s with rows := s.rows.map fun old => if old.id == id then r else old }

/-- The value of a change as a cell. -/
def changeCell (column : Column) (v : Value) : Except Fault Value :=
  match column with
  | .active => (Cell.integer v).map .int
  | _ => .ok v

/-- The changes of a record by column; the names that are no columns make it declined. -/
def columns (changes : Entries String Value) : Except StoreRefusal (List (Column × Value)) :=
  let unknown := (changes.map (·.1)).filter fun name => (Column.ofChange? name).isNone
  if !unknown.isEmpty then .error (.unknownFields (unknown.mergeSort (· ≤ ·)))
  else if changes.isEmpty then .error .nothingToChange
  else .ok (changes.filterMap fun e => (Column.ofChange? e.1).map fun c => (c, e.2))

/-- The changes in the order of the columns. -/
def inOrder (changes : List (Column × Value)) : List (Column × Value) :=
  Column.all.flatMap fun c => changes.filter fun e => e.1 == c

/-- Change columns of a scenario. -/
def update (s : Store) (id : String) (changes : Entries String Value) : Answer Scenario × Store :=
  match columns changes with
  | .error refusal => (.ok (.error refusal), s)
  | .ok changes =>
    match changes.mapM fun e => (changeCell e.1 e.2).map fun v => (e.1, v) with
    | .error fault => (.error fault, s)
    | .ok changes =>
      match changes.mapM fun e => (Cell.ofValue e.2).map fun v => (e.1, v) with
      | .error fault => (.error fault, s)
      | .ok changes =>
        match s.row? id with
        | none => (.ok (.error (.unknownScenario id)), s)
        | some r =>
          match (inOrder changes).foldlM (fun r e => r.set e.1 e.2) r with
          | .error fault => (.error fault, s)
          | .ok r => (r.scenario.map .ok, s.replace id r)

/-- Put a value into a column of a row as it is. Without such a row nothing happens. -/
def write (s : Store) (id : String) (column : Column) (v : Value) : Except Fault Store := do
  let cell ← Cell.ofValue v
  match s.row? id with
  | some r => return s.replace id (← r.set column cell)
  | none => return s

/-- Note when a scenario ran last. -/
def setLastExecuted (s : Store) (id : String) (time : Stamp) : Except StoreRefusal Unit × Store :=
  match s.row? id with
  | none => (.error (.unknownScenario id), s)
  | some r => (.ok (), s.replace id { r with lastExecuted := .text time.text })

/-- Drop a scenario. -/
def delete (s : Store) (id : String) : Except StoreRefusal Unit × Store :=
  match s.row? id with
  | none => (.error (.unknownScenario id), s)
  | some _ => (.ok (), { s with rows := s.rows.filter fun r => r.id != id })

/-- The settings; all are empty until some were saved. -/
def settings (s : Store) : Settings :=
  s.saved.getD {}

/-- Keep settings. -/
def save (s : Store) (settings : Settings) : Except Fault Unit × Store :=
  if settings.chatId.all Cell.fits then (.ok (), { s with saved := some settings })
  else (.error Cell.tooLarge, s)

end Store

end Deskhand
