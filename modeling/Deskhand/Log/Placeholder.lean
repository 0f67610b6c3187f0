import Deskhand.Value

/-!
# Messages with placeholders

A message may hold placeholders such as `%s` or `%5.1f`, which its arguments fill in order, or by name from a
record. `Placeholder.fill?` fills them; it has no value where a placeholder is unknown, where an argument does
not suit one, and where there are too few arguments or too many.
-/

namespace Deskhand

/-- A placeholder: the name it asks for, its flags, the least width, the precision and the sort of value. -/
structure Placeholder where
  name : Option String := none
  flags : List Char := []
  width : Nat := 0
  precision : Option Nat := none
  sort : Char
  deriving DecidableEq, Repr, Inhabited

namespace Placeholder

/-- The flags that may stand behind the percent sign. -/
def isFlag (c : Char) : Bool :=
  "-+ #0".toList.contains c

/-- A number at the start of a list, zero if there is none. -/
def leadingNumber (cs : List Char) : Nat × List Char :=
  let digits := cs.takeWhile Text.isAsciiDigit
  (digits.foldl (fun n c => 10 * n + (c.toNat - 0x30)) 0, cs.drop digits.length)

/-- The name in parentheses at the start of a list. -/
def readName? (cs : List Char) : Option (Option String × List Char) :=
  match cs with
  | '(' :: rest =>
    let name := rest.takeWhile (· != ')')
    if name.length < rest.length then some (some (String.ofList name), rest.drop (name.length + 1)) else none
  | _ => some (none, cs)

/-- Read a placeholder from behind its percent sign. -/
def read? (cs : List Char) : Option (Placeholder × List Char) := do
  let (name, cs) ← readName? cs
  let flags := cs.takeWhile isFlag
  let (width, cs) := leadingNumber (cs.drop flags.length)
  let (precision, cs) :=
    match cs with
    | '.' :: more =>
      let (n, more) := leadingNumber more
      (some n, more)
    | _ => (none, cs)
  let cs :=
    match cs with
    | 'h' :: more | 'l' :: more | 'L' :: more => more
    | _ => cs
  match cs with
  | sort :: rest => some (⟨name, flags, width, precision, sort⟩, rest)
  | [] => none

/-- Blanks in front of a text, or behind it, up to the width. -/
def pad (p : Placeholder) (s : String) : String :=
  let blanks := String.ofList (List.replicate (p.width - s.length) ' ')
  if p.flags.contains '-' then s ++ blanks else blanks ++ s

/-- A number with its sign, filled up to the width. -/
def signed (p : Placeholder) (negative : Bool) (mark body : String) : String :=
  let sign :=
    if negative then "-" else if p.flags.contains '+' then "+" else if p.flags.contains ' ' then " " else ""
  let size := sign.length + mark.length + body.length
  if p.flags.contains '0' && !p.flags.contains '-' then
    sign ++ mark ++ String.ofList (List.replicate (p.width - size) '0') ++ body
  else p.pad (sign ++ mark ++ body)

/-- The digits of a natural number in a base. -/
def digitsIn (base n : Nat) : String :=
  String.ofList ((Nat.toDigits base n).map Char.toLower)

/-- An integer in a base. -/
def integer (p : Placeholder) (base : Nat) (mark : String) (n : Int) : String :=
  let digits := digitsIn base n.natAbs
  let body := String.ofList (List.replicate (p.precision.getD 0 - digits.length) '0') ++ digits
  p.signed (n < 0) (if p.flags.contains '#' then mark else "") body

/-- A value as an integer, cutting off a fraction where that is allowed. -/
def integerOf? (allowFraction : Bool) : Value → Option Int
  | .bool b => some (if b then 1 else 0)
  | .int n => some n
  | .float x => if allowFraction then Binary.truncate? x else none
  | _ => none

/-- A value as a double. -/
def numberOf? : Value → Option Float
  | .bool b => some (if b then 1.0 else 0.0)
  | .int n => Binary.ofInt? n
  | .float x => some x
  | _ => none

/-- A double by one of the notations. -/
def number (p : Placeholder) (x : Float) (form : Nat → Float → String) : String :=
  if x.isNaN then p.pad "nan"
  else
    let body := if x.isInf then "inf" else form (p.precision.getD 6) x.abs
    p.signed (Binary.isNegative x) "" body

/-- A text cut to the precision and filled up to the width. -/
def words (p : Placeholder) (s : String) : String :=
  p.pad (match p.precision with
    | some n => Text.take n s
    | none => s)

/-- A value as a single character. -/
def character? : Value → Option String
  | .text s => if s.length == 1 then some s else none
  | .int n => if 0 ≤ n && n < 0x110000 then some (String.singleton (Char.ofNat n.toNat)) else none
  | _ => none

/-- A value in the place of a placeholder. -/
def show? (p : Placeholder) (v : Value) : Option String :=
  match p.sort with
  | 's' => some (p.words v.toText)
  | 'r' | 'a' => some (p.words v.nested)
  | 'd' | 'i' | 'u' => (integerOf? true v).map (p.integer 10 "")
  | 'x' => (integerOf? false v).map (p.integer 16 "0x")
  | 'X' => (integerOf? false v).map fun n => Text.upper (p.integer 16 "0x" n)
  | 'o' => (integerOf? false v).map (p.integer 8 "0o")
  | 'c' => (character? v).map p.pad
  | 'f' | 'F' => (numberOf? v).map fun x => p.number x Decimal.fixed
  | 'e' => (numberOf? v).map fun x => p.number x Decimal.scientific
  | 'E' => (numberOf? v).map fun x => Text.upper (p.number x Decimal.scientific)
  | 'g' => (numberOf? v).map fun x => p.number x Decimal.general
  | 'G' => (numberOf? v).map fun x => Text.upper (p.number x Decimal.general)
  | _ => none

/-- The arguments of a message. -/
inductive Arguments where
  | inOrder (values : List Value)
  | byName (fields : Entries String Value)

/-- The arguments of a list; a record that stands alone gives its fields by name. -/
def Arguments.ofList : List Value → Arguments
  | [.record (f :: fs)] => byName (f :: fs)
  | vs => inOrder vs

/-- Fill placeholders from values in order, all of which have to be used. -/
def fillInOrder : Nat → List Value → List Char → Option (List Char)
  | _, [], [] => some []
  | _, _ :: _, [] => none
  | 0, _, _ => none
  | n + 1, vs, '%' :: cs => do
    let (p, rest) ← read? cs
    if p.sort == '%' then return '%' :: (← fillInOrder n vs rest)
    else
      match vs with
      | v :: vs => return (← p.show? v).toList ++ (← fillInOrder n vs rest)
      | [] => none
  | n + 1, vs, c :: cs => do return c :: (← fillInOrder n vs cs)

/-- Fill placeholders by name from a record; one without a name stands for the record. -/
def fillByName (fields : Entries String Value) : Nat → Bool → List Char → Option (List Char)
  | _, _, [] => some []
  | 0, _, _ => none
  | n + 1, used, '%' :: cs => do
    let (p, rest) ← read? cs
    if p.sort == '%' then return '%' :: (← fillByName fields n used rest)
    else
      match p.name with
      | some name =>
        return (← p.show? (← Entries.find? fields name)).toList ++ (← fillByName fields n used rest)
      | none =>
        if used then none
        else return (← p.show? (.record fields)).toList ++ (← fillByName fields n true rest)
  | n + 1, used, c :: cs => do return c :: (← fillByName fields n used cs)

/-- Fill the placeholders of a message. Without arguments it has none. -/
def fill? (message : String) (args : List Value) : Option String :=
  let cs := message.toList
  if args.isEmpty then some message
  else
    (match Arguments.ofList args with
      | .inOrder vs => fillInOrder (cs.length + 1) vs cs
      | .byName fields => fillByName fields (cs.length + 1) false cs).map String.ofList

end Placeholder

end Deskhand
