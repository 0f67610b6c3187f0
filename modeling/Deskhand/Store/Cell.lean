import Deskhand.Fault

/-!
# Cells of the store

A cell holds nothing, a number or a text, whatever was meant to be put there. A cell of a column of numbers
turns a text that spells a number into it (`Cell.numeric`), a cell of a column of texts turns a number into
its text (`Cell.textual`). `Cell.before` is the order in which a column is sorted: nothing, then numbers, then
texts.
-/

namespace Deskhand.Cell

/-- The integers that a cell can hold. -/
def fits (n : Int) : Bool :=
  Integer.fitsWord n

/-- The fault of an integer that no cell can hold. -/
def tooLarge : Fault := .overflow "integer too large for the store"

/-- A value as a cell takes it, whatever its column. -/
def ofValue : Value → Except Fault Value
  | .bool b => .ok (.int (if b then 1 else 0))
  | .int n => if fits n then .ok (.int n) else .error tooLarge
  | .float x => .ok (if x.isNaN then .null else .float x)
  | .date iso => .ok (.text iso)
  | .list _ => .error (.unstorable "list")
  | .record _ => .error (.unstorable "dict")
  | v => .ok v

/-- Whether a character may stand in a number that is spelled out. -/
def inNumber (c : Char) : Bool :=
  Text.isAsciiDigit c || "+-.eE \t\n\x0b\x0c\r".toList.contains c

/-- The number that a text spells. -/
def number? (s : String) : Option Value :=
  if s.toList.all inNumber then
    match (Integer.read? s).filter fits with
    | some n => some (.int n)
    | none => (Decimal.read? s).map .float
  else none

/-- What a cell of a column of numbers keeps. -/
def numeric : Value → Value
  | .text s => (number? s).getD (.text s)
  | v => v

/-- What a cell of a column of texts keeps. -/
def textual : Value → Option String
  | .null => none
  | v => some v.toText

/-- The rank of the kind of a cell in the order of a column. -/
def rank : Value → Nat
  | .null => 0
  | .text _ => 2
  | _ => 1

/-- Whether one number is less than another one. -/
def numberBefore (a b : Value) : Bool :=
  match a.ratio?, b.ratio? with
  | some (n, d), some (m, e) => n * e < m * d
  | _, _ => false

/-- Whether a cell stands before another one in the order of a column. -/
def before (a b : Value) : Bool :=
  match a, b with
  | .text s, .text t => s < t
  | _, _ => rank a < rank b || (rank a == 1 && rank b == 1 && numberBefore a b)

/-- A value as an integer, the way a switch is read: truth values count as one and zero, a fraction is cut
off, and a text is read. -/
def integer : Value → Except Fault Int
  | .bool b => .ok (if b then 1 else 0)
  | .int n => .ok n
  | .float x =>
    match Binary.truncate? x with
    | some n => .ok n
    | none =>
      if x.isNaN then .error (.outOfRange "cannot convert float NaN to integer")
      else .error (.overflow "cannot convert float infinity to integer")
  | .text s => (Integer.read s).mapError .notInteger
  | v =>
    .error (.unsuited
      ("int() argument must be a string, a bytes-like object or a real number, not '" ++ v.kindName ++ "'"))

end Deskhand.Cell
