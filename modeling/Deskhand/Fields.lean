import Deskhand.Calendar.Iso
import Deskhand.Value

/-!
# Fields of a record

A record of a document is read field by field. A function with a question mark has no value where the field is
missing or of another kind; the others take a default then.
-/

namespace Deskhand

/-- The fields of a record. -/
abbrev Fields := Entries String Value

namespace Value

/-- The fields of a record; a value of another kind has none. -/
def fields : Value → Fields
  | record fs => fs
  | _ => []

/-- The items of a list; a value of another kind has none. -/
def items : Value → List Value
  | list vs => vs
  | _ => []

/-- A value as a text. -/
def text? : Value → Option String
  | text s => some s
  | _ => none

/-- A value as an integer; truth values count as one and zero, and a number without a fraction as itself. -/
def int? : Value → Option Int
  | int n => some n
  | bool b => some (if b then 1 else 0)
  | float x => Binary.toInt? x
  | _ => none

/-- A value as a number. -/
def float? : Value → Option Float
  | int n => Binary.ofInt? n
  | float x => some x
  | _ => none

/-- A value or nothing. -/
def ofOption {α : Type} (f : α → Value) : Option α → Value
  | some a => f a
  | none => null

/-- Texts as a list. -/
def texts (xs : List String) : Value :=
  list (xs.map text)

end Value

namespace Fields

/-- The value of a field; nothing if it is missing. -/
def get (fs : Fields) (name : String) : Value :=
  (Entries.find? fs name).getD .null

/-- Whether a field is there. -/
def has (fs : Fields) (name : String) : Bool :=
  (Entries.find? fs name).isSome

/-- The value of a field, or a default if it is missing. -/
def getOr (fs : Fields) (name : String) (default : Value) : Value :=
  (Entries.find? fs name).getD default

/-- A field that holds a text. -/
def text? (fs : Fields) (name : String) : Option String :=
  (fs.get name).text?

/-- A field that holds a text, or a default. -/
def text (fs : Fields) (name : String) (default : String := "") : String :=
  (fs.text? name).getD default

/-- A field that holds an integer. -/
def int? (fs : Fields) (name : String) : Option Int :=
  (fs.get name).int?

/-- A field that holds an integer, or a default. -/
def int (fs : Fields) (name : String) (default : Int := 0) : Int :=
  (fs.int? name).getD default

/-- A field that holds a natural number, or a default. -/
def nat (fs : Fields) (name : String) (default : Nat := 0) : Nat :=
  ((fs.int? name).map Int.toNat).getD default

/-- A field that holds a number, or a default. -/
def float (fs : Fields) (name : String) (default : Float := 0.0) : Float :=
  ((fs.get name).float?).getD default

/-- Whether the value of a field counts as something, or a default if it is missing. -/
def flag (fs : Fields) (name : String) (default : Bool := false) : Bool :=
  ((Entries.find? fs name).map Value.isTruthy).getD default

/-- The items of a field that holds a list. -/
def list (fs : Fields) (name : String) : List Value :=
  (fs.get name).items

/-- The texts in a field that holds a list. -/
def texts (fs : Fields) (name : String) : List String :=
  (fs.list name).filterMap Value.text?

/-- The fields of a field that holds a record. -/
def fields (fs : Fields) (name : String) : Fields :=
  (fs.get name).fields

/-- The fields of a field that holds a record, if it does. -/
def fields? (fs : Fields) (name : String) : Option Fields :=
  match fs.get name with
  | .record inner => some inner
  | _ => none

/-- A field that holds a date-time. -/
def stamp? (fs : Fields) (name : String) : Option Stamp :=
  (fs.text? name).bind Stamp.read?

/-- The wall time of a field that holds a date-time. -/
def instant? (fs : Fields) (name : String) : Option Instant :=
  (fs.stamp? name).map Stamp.wall

end Fields

end Deskhand
