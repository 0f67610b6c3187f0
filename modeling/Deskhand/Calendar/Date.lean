import Deskhand.Text.Pieces

/-!
# Dates of the Gregorian calendar

Dates from the first of January of the year 1 to the end of the year 9999, in the Gregorian calendar extended
backwards. `Date.toDays` counts the days since the first of them, which was a Monday, and `Date.ofDays` finds
the date of a day.
-/

namespace Deskhand

/-- A date: year, month from 1 and day from 1. -/
structure Date where
  year : Nat
  month : Nat
  day : Nat
  deriving DecidableEq, Repr, Inhabited

namespace Date

/-- Whether a year has a 29th of February. -/
def isLeap (year : Nat) : Bool :=
  year % 4 == 0 && (year % 100 != 0 || year % 400 == 0)

/-- The number of days in a month. -/
def daysInMonth (year month : Nat) : Nat :=
  match month with
  | 2 => if isLeap year then 29 else 28
  | 4 | 6 | 9 | 11 => 30
  | _ => 31

/-- The number of days in the years before a year. -/
def daysBeforeYear (year : Nat) : Nat :=
  let y := year - 1
  y * 365 + y / 4 - y / 100 + y / 400

/-- The number of days of a year before a month. -/
def daysBeforeMonth (year month : Nat) : Nat :=
  (List.range (month - 1)).foldl (fun days m => days + daysInMonth year (m + 1)) 0

/-- The number of days before the year 10000. -/
def dayLimit : Nat := daysBeforeYear 10000

/-- Whether the three numbers name a date. -/
def isValid (d : Date) : Bool :=
  1 ≤ d.year && d.year ≤ 9999 && 1 ≤ d.month && d.month ≤ 12 && 1 ≤ d.day
    && d.day ≤ daysInMonth d.year d.month

/-- The date that three numbers name, if they name one. -/
def ofNumbers? (year month day : Nat) : Option Date :=
  let d : Date := ⟨year, month, day⟩
  if d.isValid then some d else none

/-- The number of days from the first date to this one. -/
def toDays (d : Date) : Nat :=
  daysBeforeYear d.year + daysBeforeMonth d.year d.month + (d.day - 1)

/-- The month and the day of a day counted within a year, looking from `month` on. -/
def monthOf (year : Nat) : Nat → Nat → Nat → Nat × Nat
  | 0, month, n => (month, n + 1)
  | fuel + 1, month, n =>
    let size := daysInMonth year month
    if n < size then (month, n + 1) else monthOf year fuel (month + 1) (n - size)

/-- The date of a day counted from the first one. -/
def ofDays (days : Nat) : Date :=
  let guess := days / 366 + 1
  let later := (List.range (days / 100000 + 2)).filter fun i => daysBeforeYear (guess + i + 1) ≤ days
  let year := guess + later.length
  let (month, day) := monthOf year 11 1 (days - daysBeforeYear year)
  ⟨year, month, day⟩

/-- The day of the week of a day counted from the first one; Monday is zero. -/
def weekdayOf (days : Nat) : Nat :=
  days % 7

/-- A date as year, month and day. -/
def text (d : Date) : String :=
  Text.padded 4 d.year ++ "-" ++ Text.padded 2 d.month ++ "-" ++ Text.padded 2 d.day

end Date

end Deskhand
