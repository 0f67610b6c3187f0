import Deskhand.Text.Case
import Deskhand.Text.Pieces
import Deskhand.Value

/-!
# What a run has recorded

While a chain runs, its actions record values under their block ids. A `Context` holds them, without regard to
the letter case of the ids, together with the value recorded last. `formatValue` writes a recorded value into
a text: a list item by item with a separator, everything else as it appears in a message.
-/

namespace Deskhand

/-- The values that a run has recorded. -/
structure Context where
  /-- The values by block id in lower case. -/
  values : Entries String Value := []
  /-- The value recorded last; nothing before the first one. -/
  lastOutput : Value := .null
  deriving Inhabited

namespace Context

/-- Record a value under a block id. -/
def record (c : Context) (id : String) (v : Value) : Context :=
  ⟨c.values.put (Text.lower id) v, v⟩

/-- The value recorded under a block id. -/
def find? (c : Context) (id : String) : Option Value :=
  c.values.find? (Text.lower id)

/-- Whether a value was recorded under a block id. -/
def has (c : Context) (id : String) : Bool :=
  c.values.has (Text.lower id)

/-- A context with initial values recorded in order. -/
def ofBindings (bindings : List (String × Value)) : Context :=
  bindings.foldl (fun c b => c.record b.1 b.2) {}

/-- A context with initial values, each given in a list with its id. -/
def ofPairs (vs : List Value) : Context :=
  ofBindings (vs.filterMap fun
    | .list [.text id, v] => some (id, v)
    | _ => none)

end Context

/-- How the items of a recorded list stand beside each other. -/
inductive ListFormat where
  | newLine
  | comma
  | space
  deriving DecidableEq, Repr

namespace ListFormat

/-- The format of a name; every other name is that of single blanks. -/
def ofName : String → ListFormat
  | "NewLine" => newLine
  | "Comma" => comma
  | _ => space

/-- The text between two items. -/
def separator : ListFormat → String
  | newLine => "\n"
  | comma => ", "
  | space => " "

end ListFormat

/-- A recorded value as part of a text. -/
def formatValue (format : ListFormat) : Value → String
  | .null => ""
  | .list items => Text.join format.separator (items.map Value.toText)
  | v => v.toText

end Deskhand
