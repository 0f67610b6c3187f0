import Deskhand.Calendar.Date

/-!
# Instants of a clock on the wall

An `Instant` is a date and a time of day to the microsecond, as a clock on the wall shows them, counted in
microseconds from the start of the year 1. `Instant.shift?` moves one by a number of microseconds and fails
beyond the end of the year 9999. A `Span` is a distance in microseconds; spans of more than
`Span.dayLimit` days are not used.
-/

namespace Deskhand

/-- A distance of time in microseconds. -/
abbrev Span := Int

namespace Span

/-- Microseconds in a second. -/
def second : Int := 1000000

/-- Microseconds in a day. -/
def day : Int := 86400 * second

/-- The number of days that a span may have. -/
def dayLimit : Int := 999999999

/-- A number of whole seconds, unless it is more than a span may have. -/
def ofSeconds? (n : Int) : Option Span :=
  let span := n * second
  if -dayLimit ≤ span.fdiv day && span.fdiv day ≤ dayLimit then some span else none

end Span

/-- A date and a time of day. -/
structure Instant where
  /-- Microseconds since the start of the year 1. -/
  micros : Nat
  deriving DecidableEq, Repr, Inhabited

namespace Instant

/-- Microseconds in a day. -/
def perDay : Nat := 86400 * 1000000

instance : LE Instant := ⟨fun a b => a.micros ≤ b.micros⟩
instance : LT Instant := ⟨fun a b => a.micros < b.micros⟩
instance (a b : Instant) : Decidable (a ≤ b) := inferInstanceAs (Decidable (a.micros ≤ b.micros))
instance (a b : Instant) : Decidable (a < b) := inferInstanceAs (Decidable (a.micros < b.micros))

/-- The first instant after the last one. -/
def limit : Nat := Date.dayLimit * perDay

/-- The instant a span later, unless it lies outside the calendar. -/
def shift? (t : Instant) (d : Span) : Option Instant :=
  let n := (t.micros : Int) + d
  if 0 ≤ n && n < limit then some ⟨n.toNat⟩ else none

/-- The instant a span later, held at the ends of the calendar. -/
def shift (t : Instant) (d : Span) : Instant :=
  ⟨min ((t.micros : Int) + d).toNat (limit - 1)⟩

/-- The day of an instant, counted from the first one. -/
def days (t : Instant) : Nat :=
  t.micros / perDay

/-- The date of an instant. -/
def date (t : Instant) : Date :=
  Date.ofDays t.days

/-- The time of day in microseconds. -/
def timeOfDay (t : Instant) : Nat :=
  t.micros % perDay

/-- The day of the week; Monday is zero. -/
def weekday (t : Instant) : Nat :=
  Date.weekdayOf t.days

/-- The instant at a time of a day. -/
def ofDay (days timeOfDay : Nat) : Instant :=
  ⟨days * perDay + timeOfDay⟩

/-- The instant at a time of a date. -/
def ofDate (d : Date) (timeOfDay : Nat) : Instant :=
  ofDay d.toDays timeOfDay

end Instant

namespace TimeOfDay

/-- A time of day in microseconds. -/
def ofFields (hour minute second micro : Nat) : Nat :=
  ((hour * 60 + minute) * 60 + second) * 1000000 + micro

/-- Hours, minutes and seconds of a time of day. -/
def clockText (time : Nat) : String :=
  let s := time / 1000000
  Text.padded 2 (s / 3600) ++ ":" ++ Text.padded 2 (s / 60 % 60) ++ ":" ++ Text.padded 2 (s % 60)

/-- A time of day, with six places of a second where it is not a whole one. -/
def text (time : Nat) : String :=
  clockText time ++ (if time % 1000000 == 0 then "" else "." ++ Text.padded 6 (time % 1000000))

end TimeOfDay

namespace Instant

/-- An instant as date and time of day with a `T` between them. -/
def text (t : Instant) : String :=
  t.date.text ++ "T" ++ TimeOfDay.text t.timeOfDay

/-- An instant to the second, with a blank between date and time of day. -/
def secondText (t : Instant) : String :=
  t.date.text ++ " " ++ TimeOfDay.clockText t.timeOfDay

end Instant

end Deskhand
