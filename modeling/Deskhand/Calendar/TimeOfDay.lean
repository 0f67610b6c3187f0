import Deskhand.Calendar.Instant
import Deskhand.Text.Blank
import Deskhand.Text.Digit
import Deskhand.Text.Pieces

/-!
# Reading a time of day

`TimeOfDay.read?` reads `H:M:S` or `H:M`: fields of one or two digits, where a second digit and a digit that
stands alone may come from any script. Of two digits in a field the first one is ASCII and no greater than the
range of the field admits.
-/

namespace Deskhand.TimeOfDay

/-- Two digits of a field, where `fits` says which second character may follow the first digit. -/
def twoDigits? (fits : Nat → Char → Bool) : List Char → Option (Nat × List Char)
  | a :: b :: rest => do
    let first ← Text.asciiDigit? a
    let second ← Text.digitValue? b
    if fits first b then some (10 * first + second, rest) else none
  | _ => none

/-- One digit of a field. -/
def oneDigit? : List Char → Option (Nat × List Char)
  | a :: rest => (Text.digitValue? a).map fun d => (d, rest)
  | [] => none

/-- Hours go up to 23. -/
def hourFits (first : Nat) (second : Char) : Bool :=
  first ≤ 1 || (first == 2 && '0' ≤ second && second ≤ '3')

/-- Minutes and seconds go up to 59. -/
def minuteFits (first : Nat) (_second : Char) : Bool :=
  first ≤ 5

/-- A field of two digits, or else of one. -/
def field? (fits : Nat → Char → Bool) (cs : List Char) : Option (Nat × List Char) :=
  (twoDigits? fits cs).orElse fun _ => oneDigit? cs

/-- Read a time of day, in microseconds. -/
def read? (s : String) : Option Nat := do
  let (hour, rest) ← field? hourFits (Text.trimChars Text.isBlank s.toList)
  let rest ← Text.afterChars? [':'] rest
  let (minute, rest) ← field? minuteFits rest
  if rest.isEmpty then some (ofFields hour minute 0 0)
  else
    let rest ← Text.afterChars? [':'] rest
    let (second, rest) ← field? minuteFits rest
    if rest.isEmpty then some (ofFields hour minute second 0) else none

end Deskhand.TimeOfDay
