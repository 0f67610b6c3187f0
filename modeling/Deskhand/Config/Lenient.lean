import Deskhand.Number.Decimal
import Deskhand.Number.Integer
import Deskhand.Text.Case
import Deskhand.Value

/-!
# Lenient values

A configuration takes a value where it can be meant as what is asked for: a number for a text that spells it,
a switch for a word or for one and zero, an integer for a number without a fraction. `Complaint` says what is
wrong with a value that cannot.
-/

namespace Deskhand.Config

/-- What is wrong with a value. -/
inductive Complaint where
  | noText
  | noNumber
  | unreadableNumber
  | noInteger
  | unreadableInteger
  /-- A number has a fraction, or is beyond the integers that a number stands for. -/
  | fractional
  | infinite
  | noSwitch
  | unreadableSwitch
  /-- A number has to be greater than the least one. -/
  | notAbove
  /-- A number has to be at least the least one. -/
  | tooSmall
  /-- A group of settings is no record. -/
  | noSection
  deriving DecidableEq, Repr, Inhabited

namespace Complaint

/-- The name of a complaint. -/
def name : Complaint → String
  | noText => "string_type"
  | noNumber => "float_type"
  | unreadableNumber => "float_parsing"
  | noInteger => "int_type"
  | unreadableInteger => "int_parsing"
  | fractional => "int_from_float"
  | infinite => "finite_number"
  | noSwitch => "bool_type"
  | unreadableSwitch => "bool_parsing"
  | notAbove => "greater_than"
  | tooSmall => "greater_than_equal"
  | noSection => "model_type"

end Complaint

namespace Lenient

/-- A text without blanks at its ends. -/
def trim (s : String) : String :=
  String.ofList (Text.trimChars Number.isBlank s.toList)

/-- Whether a character may stand in a number or in a word for one. -/
def inNumber (c : Char) : Bool :=
  Text.isAsciiDigit c || "+-.".toList.contains c || c.isAlpha

/-- A text without single underscores inside; none if there is none, or one stands at an end or beside
another. -/
def withoutUnderscores? (s : String) : Option String :=
  if s.startsWith "_" || s.endsWith "_" || Text.contains "__" s || !Text.contains "_" s then none
  else some (Text.replaceChar '_' "" s)

/-- The number that a text in ASCII spells. -/
def plainNumber? (s : String) : Option Float :=
  let t := trim s
  if t.toList.all inNumber then Decimal.read? t else none

/-- The number that a text spells, with underscores or without. -/
def readNumber? (s : String) : Option Float :=
  (plainNumber? s).orElse fun _ => (withoutUnderscores? s).bind plainNumber?

/-- A value as a number. -/
def number : Value → Except Complaint Float
  | .float x => .ok x
  | .bool b => .ok (if b then 1.0 else 0.0)
  | .int n =>
    match Binary.ofInt? n with
    | some x => .ok x
    | none => .error .noNumber
  | .text s =>
    match readNumber? s with
    | some x => .ok x
    | none => .error .unreadableNumber
  | _ => .error .noNumber

/-- A text without a point and zeros at its end. -/
def withoutZeros (cs : List Char) : List Char :=
  let whole := cs.takeWhile (· != '.')
  if (cs.drop whole.length).drop 1 |>.all (· == '0') then whole else cs

/-- The digits of an integer: all of them digits, with single underscores between them. -/
def digits? (cs : List Char) : Option Nat :=
  if !cs.isEmpty && cs.all (fun c => Text.isAsciiDigit c || c == '_') then
    (Integer.read? (String.ofList cs)).map Int.toNat
  else none

/-- The integer that a text spells. -/
def readInteger? (s : String) : Option Int :=
  match withoutZeros (trim s).toList with
  | '-' :: cs => (digits? cs).map fun n => -(n : Int)
  | '+' :: cs => (digits? cs).map fun n => (n : Int)
  | cs => (digits? cs).map fun n => (n : Int)

/-- A number as an integer, if it has no fraction and is not beyond 64 bits. -/
def wholeNumber (x : Float) : Except Complaint Int :=
  if x.isNaN || x.isInf then .error .infinite
  else
    match Binary.toInt? x with
    | some n => if -Integer.wordLimit < n && n < Integer.wordLimit then .ok n else .error .fractional
    | none => .error .fractional

/-- A value as an integer. -/
def integer : Value → Except Complaint Int
  | .int n => .ok n
  | .bool b => .ok (if b then 1 else 0)
  | .float x => wholeNumber x
  | .text s =>
    match readInteger? s with
    | some n => .ok n
    | none => .error .unreadableInteger
  | _ => .error .noInteger

/-- The words for a switch that is on, and for one that is off. -/
def switchWords : List String × List String :=
  (["1", "on", "t", "true", "y", "yes"], ["0", "off", "f", "false", "n", "no"])

/-- An integer as a switch. -/
def switchOf (n : Int) : Except Complaint Bool :=
  if n == 0 then .ok false else if n == 1 then .ok true else .error .unreadableSwitch

/-- A value as a switch. -/
def switch : Value → Except Complaint Bool
  | .bool b => .ok b
  | .text s =>
    let word := String.ofList (s.toList.map Char.toLower)
    if switchWords.1.contains word then .ok true
    else if switchWords.2.contains word then .ok false
    else .error .unreadableSwitch
  | .int n => if Integer.fitsWord n then switchOf n else .error .noSwitch
  | .float x =>
    match wholeNumber x with
    | .ok n => switchOf n
    | .error _ => .error .noSwitch
  | _ => .error .noSwitch

/-- A value as a text. -/
def text : Value → Except Complaint String
  | .text s => .ok s
  | _ => .error .noText

/-- A value as a text or nothing. -/
def textOrNothing : Value → Except Complaint (Option String)
  | .null => .ok none
  | v => (text v).map some

end Lenient

end Deskhand.Config
