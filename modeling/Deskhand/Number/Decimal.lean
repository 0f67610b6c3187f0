import Deskhand.Number.Binary
import Deskhand.Number.Integer
import Deskhand.Text.Case
import Deskhand.Text.Pieces

/-!
# Doubles written in decimal

`Decimal.shortest` finds the fewest digits that read back as a given double, and of those the nearest to it;
`Decimal.text` writes them, positionally for exponents from -4 to 15 and with an exponent of at least two
digits otherwise. `Decimal.fixed` writes a number of places after the point, a half going to the even
neighbour. `Decimal.read?` reads what a person may type: blanks around it, a sign, underscores between digits,
and the words for infinity and not-a-number in any case.
-/

namespace Deskhand.Decimal

/-- The exponent `e` with `10 ^ e ≤ num / den < 10 ^ (e + 1)`, for positive `num` and `den`. -/
def magnitude (num den : Nat) : Int :=
  if den ≤ num then (((toString (num / den)).length - 1 : Nat) : Int)
  else
    let n := (toString (den / num)).length
    if den ≤ num * Nat.pow 10 (n - 1) then -((n - 1 : Nat) : Int) else -(n : Int)

/-- The interval of reals that round to `m · 2 ^ q`, as natural multiples of `2 ^ (q - 2)`: its lower end, the
double itself and its upper end. Below a power of two the doubles lie twice as dense. -/
def interval (p : Binary.Parts) : Nat × Nat × Nat :=
  let m := p.mantissa
  let low := if m == Nat.pow 2 52 && p.exponent > -1074 then 4 * m - 1 else 4 * m - 2
  (low, 4 * m, 4 * m + 2)

/-- Of the two grid points `c · 10 ^ k` and `(c + 1) · 10 ^ k` around the double, the one that reads back; of
two, the nearer one, or the even one. The numbers `low`, `mid` and `high` over `den` bound the interval, and
`closed` says whether its ends belong to it. -/
def gridPoint? (closed : Bool) (low mid high den : Nat) (k : Int) : Option Nat :=
  let up := if 0 ≤ k then Nat.pow 10 k.toNat * den else den
  let scale := if 0 ≤ k then 1 else Nat.pow 10 (-k).toNat
  let c := mid * scale / up
  let inside := fun n : Nat =>
    if closed then low * scale ≤ n * up && n * up ≤ high * scale
    else low * scale < n * up && n * up < high * scale
  match inside c, inside (c + 1) with
  | false, false => none
  | true, false => some c
  | false, true => some (c + 1)
  | true, true =>
    let below := mid * scale - c * up
    let above := (c + 1) * up - mid * scale
    if below < above || (below == above && c % 2 == 0) then some c else some (c + 1)

/-- The fewest digits that read back as a positive finite double, as a natural number `n` and an exponent `k`
with the decimal being `n · 10 ^ k`. -/
def shortest (x : Float) : Nat × Int :=
  let p := Binary.parts x
  let (low, mid, high) := interval p
  let shift := p.exponent - 2
  let up := if 0 ≤ shift then Nat.pow 2 shift.toNat else 1
  let den := if 0 ≤ shift then 1 else Nat.pow 2 (-shift).toNat
  let e := magnitude (mid * up) den
  let hit := (List.range 17).findSome? fun i : Nat =>
    let k := e - (i : Int)
    (gridPoint? (p.mantissa % 2 == 0) (low * up) (mid * up) (high * up) den k).map fun n => (n, k)
  hit.getD (0, 0)

/-- Drop the zeros at the end of a positive number, raising the exponent for each. -/
def dropZeros : Nat → Nat → Int → Nat × Int
  | 0, n, k => (n, k)
  | fuel + 1, n, k => if n % 10 == 0 then dropZeros fuel (n / 10) (k + 1) else (n, k)

/-- Digits `n · 10 ^ k` written positionally, or with an exponent below -4 and from 16 on. -/
def ofDigits (n : Nat) (k : Int) : String :=
  let (n, k) := dropZeros 20 n k
  let digits := (toString n).toList
  let point := k + digits.length
  let size := digits.length
  if -4 < point && point ≤ 16 then
    if point ≤ 0 then "0." ++ String.ofList (List.replicate (-point).toNat '0' ++ digits)
    else if point.toNat < size then
      String.ofList (digits.take point.toNat ++ '.' :: digits.drop point.toNat)
    else String.ofList (digits ++ List.replicate (point.toNat - size) '0' ++ ['.', '0'])
  else
    let e := point - 1
    let fraction := if size == 1 then [] else '.' :: digits.drop 1
    String.ofList (digits.take 1 ++ fraction) ++ "e" ++ (if e < 0 then "-" else "+")
      ++ Text.padded 2 e.natAbs

/-- A double in the fewest digits that read back as it. -/
def text (x : Float) : String :=
  if x.isNaN then "nan"
  else
    (if Binary.isNegative x then "-" else "") ++
      (if x.isInf then "inf"
       else if (Binary.parts x).mantissa == 0 then "0.0"
       else
         let (n, k) := shortest x
         ofDigits n k)

/-- A double with a number of places after the point, rounded from its exact value. -/
def fixed (places : Nat) (x : Float) : String :=
  if x.isNaN then "nan"
  else
    (if Binary.isNegative x then "-" else "") ++
      (if x.isInf then "inf"
       else
         let p := Binary.parts x
         let n := Binary.scaled (p.mantissa * Nat.pow 10 places) 1 (-p.exponent)
         let digits := Text.padded (places + 1) n
         let whole := digits.length - places
         Text.take whole digits ++ (if places == 0 then "" else "." ++ Text.drop whole digits))

/-- A positive finite double rounded to a number of digits: the digits as a number and the exponent of the
first. -/
def rounded (size : Nat) (x : Float) : Nat × Int :=
  let p := Binary.parts x
  let num := if 0 ≤ p.exponent then p.mantissa * Nat.pow 2 p.exponent.toNat else p.mantissa
  let den := if 0 ≤ p.exponent then 1 else Nat.pow 2 (-p.exponent).toNat
  let e := magnitude num den
  let k := e - ((size - 1 : Nat) : Int)
  let n :=
    if 0 ≤ k then Binary.roundDiv num (den * Nat.pow 10 k.toNat)
    else Binary.roundDiv (num * Nat.pow 10 (-k).toNat) den
  if n == Nat.pow 10 size then (n / 10, e + 1) else (n, e)

/-- An exponent with its sign and two digits at least. -/
def exponentText (e : Int) : String :=
  "e" ++ (if e < 0 then "-" else "+") ++ Text.padded 2 e.natAbs

/-- A finite double that is not negative in scientific notation with a number of places. -/
def scientific (places : Nat) (x : Float) : String :=
  let (n, e) := if (Binary.parts x).mantissa == 0 then (0, 0) else rounded (places + 1) x
  let digits := Text.padded (places + 1) n
  Text.take 1 digits ++ (if places == 0 then "" else "." ++ Text.drop 1 digits) ++ exponentText e

/-- A finite double that is not negative with a number of digits, in the shorter notation, without zeros at
the end of its fraction. -/
def general (size : Nat) (x : Float) : String :=
  let size := max size 1
  let (n, e) := if (Binary.parts x).mantissa == 0 then (0, 0) else rounded size x
  let trimmed := fun s : String => Text.trimEnd (· == '.') (Text.trimEnd (· == '0') s)
  if e < -4 || (size : Int) ≤ e then
    let digits := Text.padded size n
    let fraction := trimmed ("." ++ Text.drop 1 digits)
    Text.take 1 digits ++ fraction ++ exponentText e
  else
    let s := fixed ((size : Int) - 1 - e).toNat x
    if s.contains '.' then trimmed s else s

/-- The value that an infinity or a not-a-number is written for. -/
def word? (s : String) : Option Float :=
  match Text.lower s with
  | "inf" | "infinity" => some (1.0 / 0.0)
  | "nan" => some (0.0 / 0.0)
  | _ => none

/-- Decimal digits at the start of a list, with the rest. -/
def leadingDigits (cs : List Char) : List Nat × List Char :=
  (cs.takeWhile Text.isAsciiDigit |>.map (fun c => c.toNat - 0x30), cs.dropWhile Text.isAsciiDigit)

/-- The exponent after the digits of a number: nothing, or `e`, a sign and digits up to the end. -/
def exponent? : List Char → Option Int
  | [] => some 0
  | c :: cs =>
    if c == 'e' || c == 'E' then
      let (negative, ds) := Number.sign cs
      match leadingDigits ds with
      | (d :: digits, []) => some (Number.signed negative (Number.ofDigits (d :: digits)))
      | _ => none
    else none

/-- An unsigned decimal number: digits, a point, digits and an exponent, with a digit somewhere. -/
def unsigned? (negative : Bool) (cs : List Char) : Option Float :=
  let (whole, rest) := leadingDigits cs
  let (fraction, rest) :=
    match rest with
    | '.' :: more => leadingDigits more
    | _ => ([], rest)
  if whole.isEmpty && fraction.isEmpty then none
  else
    (exponent? rest).map fun e =>
      Binary.ofDecimal negative (Number.ofDigits (whole ++ fraction)) (e - (fraction.length : Int))

/-- Drop the underscores of a number; none when one is not between two digits. `before` says whether a digit
stands before the list. -/
def dropUnderscores? (before : Bool) : List Char → Option (List Char)
  | [] => some []
  | '_' :: c :: cs =>
    if before && Text.isAsciiDigit c then dropUnderscores? false (c :: cs) else none
  | ['_'] => none
  | c :: cs => (dropUnderscores? (Text.isAsciiDigit c) cs).map (c :: ·)

/-- The digits of every script as ASCII digits; other characters stay. -/
def toAsciiDigits (cs : List Char) : List Char :=
  cs.map fun c =>
    match Text.digitValue? c with
    | some d => Char.ofNat (0x30 + d)
    | none => c

/-- Read a double from text. -/
def read? (s : String) : Option Float := do
  let cs ← dropUnderscores? false (toAsciiDigits (Text.trimChars Number.isBlank s.toList))
  let (negative, body) := Number.sign cs
  match word? (String.ofList body) with
  | some x => some (if negative then -x else x)
  | none => unsigned? negative body

end Deskhand.Decimal
