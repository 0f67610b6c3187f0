import Deskhand.Entries
import Deskhand.Number.Decimal
import Deskhand.Text.Quoted

/-!
# Plain values

A `Value` is what a document holds and what an action hands to the next one: nothing, a truth value, a number,
a text, a list, or a record of named values in order. `toText` writes a value as it appears in a message;
`nested` writes it as it appears inside a list or a record, where texts are quoted.
-/

namespace Deskhand

/-- A value of a document. -/
inductive Value where
  | null
  | bool (b : Bool)
  | int (n : Int)
  | float (x : Float)
  | text (s : String)
  /-- A calendar date or an instant, by its text. -/
  | date (iso : String)
  | list (items : List Value)
  | record (fields : List (String × Value))
  deriving Inhabited

namespace Value

mutual

/-- A value as it is written inside a list or a record. -/
def nested : Value → String
  | null => "None"
  | bool true => "True"
  | bool false => "False"
  | int n => Integer.text n
  | float x => Decimal.text x
  | text s => Text.quoted s
  | date iso => iso
  | list items => "[" ++ Text.join ", " (nestedItems items) ++ "]"
  | record fields => "\x7b" ++ Text.join ", " (nestedFields fields) ++ "\x7d"
termination_by structural v => v

/-- The items of a list, each as it is written inside it. -/
def nestedItems : List Value → List String
  | [] => []
  | v :: rest => nested v :: nestedItems rest
termination_by structural vs => vs

/-- The fields of a record, each as it is written inside it. -/
def nestedFields : List (String × Value) → List String
  | [] => []
  | (k, v) :: rest => (Text.quoted k ++ ": " ++ nested v) :: nestedFields rest
termination_by structural vs => vs

end

/-- A value as it is written in a message: a text stands for itself. -/
def toText : Value → String
  | text s => s
  | v => nested v

/-- Whether a value counts as something: not nothing, false, zero, or empty. -/
def isTruthy : Value → Bool
  | null => false
  | bool b => b
  | int n => n != 0
  | float x => x != 0.0
  | text s => s != ""
  | date _ => true
  | list items => !items.isEmpty
  | record fields => !fields.isEmpty

/-- The exact value of a number as a ratio with a positive denominator; truth values count as one and zero. -/
def ratio? : Value → Option (Int × Nat)
  | bool b => some (if b then 1 else 0, 1)
  | int n => some (n, 1)
  | float x =>
    if x.isFinite then
      let p := Binary.parts x
      let m : Int := Number.signed p.negative p.mantissa
      if 0 ≤ p.exponent then some (m * Nat.pow 2 p.exponent.toNat, 1) else some (m, Nat.pow 2 (-p.exponent).toNat)
    else none
  | _ => none

/-- Whether two scalars are equal, where numbers are compared by value. -/
def scalarEqual (a b : Value) : Bool :=
  match a, b with
  | null, null => true
  | text s, text t => s == t
  | date s, date t => s == t
  | float x, float y => x == y
  | _, _ =>
    match a.ratio?, b.ratio? with
    | some (n, d), some (m, e) => n * e == m * d
    | _, _ => false

mutual

/-- Whether two values are equal: numbers by value, lists item by item, records as maps. -/
def equal : Value → Value → Bool
  | list xs, v =>
    match v with
    | list ys => equalItems xs ys
    | _ => false
  | record fs, v =>
    match v with
    | record gs => fs.length == gs.length && equalFields fs gs
    | _ => false
  | a, b => scalarEqual a b
termination_by structural v => v

/-- Whether two lists have equal items. -/
def equalItems : List Value → List Value → Bool
  | [], ys => ys.isEmpty
  | x :: xs, ys =>
    match ys with
    | [] => false
    | y :: ys => equal x y && equalItems xs ys
termination_by structural vs => vs

/-- Whether every field of the first record has an equal in the second one. -/
def equalFields : List (String × Value) → List (String × Value) → Bool
  | [], _ => true
  | (k, v) :: rest, gs =>
    (match Entries.find? gs k with
      | some w => equal v w
      | none => false) && equalFields rest gs
termination_by structural vs => vs

end

/-- The value under a name of a record. -/
def field? (name : String) : Value → Option Value
  | record fields => Entries.find? fields name
  | _ => none

/-- A text, or nothing for none. -/
def ofText? : Option String → Value
  | some s => text s
  | none => null

/-- An integer, or nothing for none. -/
def ofInt? : Option Int → Value
  | some n => int n
  | none => null

end Value

end Deskhand
