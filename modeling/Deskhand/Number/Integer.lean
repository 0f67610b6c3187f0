import Deskhand.Text.Blank
import Deskhand.Text.Digit

/-!
# Integers written in decimal

`Integer.read` reads an integer as a person may type it: blanks around it, one sign, decimal digits of any
script, and single underscores between digits. A literal may have `Integer.maxDigits` digits; a longer one is
refused with its number of digits, whatever follows it.
-/

namespace Deskhand

namespace Number

/-- The blanks that may stand around a number: all but the information separators. -/
def isBlank (c : Char) : Bool :=
  Text.isBlank c && !(0x1C ≤ c.toNat && c.toNat ≤ 0x1F)

/-- The value of a list of decimal digits, the most significant one first. -/
def ofDigits (digits : List Nat) : Nat :=
  digits.foldl (fun n d => 10 * n + d) 0

/-- Digits with single underscores between them, and the rest of the list. With `needed` a digit must come
next, as it must at the start and after an underscore. -/
def digitGroups? (needed : Bool) : List Char → Option (List Nat × List Char)
  | [] => if needed then none else some ([], [])
  | c :: cs =>
    match Text.digitValue? c with
    | some d => (digitGroups? false cs).map fun r => (d :: r.1, r.2)
    | none =>
      if needed then none
      else if c == '_' then digitGroups? true cs
      else some ([], c :: cs)

/-- The sign in front of a number, if there is one: whether it is a minus, and the rest. -/
def sign : List Char → Bool × List Char
  | '-' :: cs => (true, cs)
  | '+' :: cs => (false, cs)
  | cs => (false, cs)

/-- A natural number with a sign. -/
def signed (negative : Bool) (n : Nat) : Int :=
  if negative then -(n : Int) else n

end Number

namespace Integer

/-- One more than the greatest integer of 64 bits. -/
def wordLimit : Int := 9223372036854775808

/-- Whether an integer has 64 bits. -/
def fitsWord (n : Int) : Bool :=
  -wordLimit ≤ n && n < wordLimit

/-- Why a text is not an integer. -/
inductive Refusal where
  /-- The text is no integer literal. -/
  | malformed (text : String)
  /-- The literal has more digits than are read. -/
  | tooLong (digits : Nat)
  deriving DecidableEq, Repr

/-- The number of digits that a literal may have. -/
def maxDigits : Nat := 4300

/-- Read an integer from text. -/
def read (text : String) : Except Refusal Int :=
  let (negative, cs) := Number.sign (Text.trimChars Number.isBlank text.toList)
  match Number.digitGroups? true cs with
  | none => .error (.malformed text)
  | some (digits, rest) =>
    if digits.length > maxDigits then .error (.tooLong digits.length)
    else if rest.isEmpty then .ok (Number.signed negative (Number.ofDigits digits))
    else .error (.malformed text)

/-- The integer that a text denotes, if it denotes one. -/
def read? (text : String) : Option Int :=
  (read text).toOption

/-- An integer in decimal. -/
def text (n : Int) : String :=
  toString n

end Integer

end Deskhand
