import Deskhand.Block.Basic
import Deskhand.Calendar.TimeOfDay
import Deskhand.Fault
import Deskhand.Text.Case

/-!
# Triggers at a time of day

A daily trigger fires at its time of day, on all days or on those of its list. A scenario that ran on the same
date fires again only if its time lies between that run and now; any other one fires within a minute from the
time (`Daily.shouldFire`).
-/

namespace Deskhand.Daily

/-- The days of the week by their names. -/
def weekdayNames : List (String × Nat) :=
  [("monday", 0), ("mon", 0), ("tuesday", 1), ("tue", 1), ("wednesday", 2), ("wed", 2), ("thursday", 3),
   ("thu", 3), ("friday", 4), ("fri", 4), ("saturday", 5), ("sat", 5), ("sunday", 6), ("sun", 6)]

/-- The day of the week that a name stands for, without regard to letter case and blanks around it. -/
def weekday? (name : String) : Option Nat :=
  weekdayNames.lookup (Text.lower (Text.trim name))

/-- The days of a list of names with commas between them, Monday first. Other names are passed over. -/
def weekdays (names : String) : List Nat :=
  let named := (Text.splitOn ',' names).filterMap weekday?
  (List.range 7).filter named.contains

/-- How long after its time a trigger still fires, in microseconds. -/
def window : Nat := 60 * 1000000

/-- The time of day of a trigger. -/
def target? (b : Block) : Option Nat :=
  (b.param? "Time").bind TimeOfDay.read?

/-- The days on which a trigger fires; all of them where the list is empty. -/
def allowedDays (b : Block) : List Nat :=
  ((b.param? "Days").map weekdays).getD []

/-- Whether a trigger may fire on the day of an instant. -/
def isAllowed (b : Block) (now : Instant) : Bool :=
  (allowedDays b).isEmpty || (allowedDays b).contains now.weekday

/-- Whether a trigger fires now, when its scenario ran last at an instant. -/
def shouldFire (b : Block) (last : Option Instant) (now : Instant) : Except Fault Bool :=
  match target? b with
  | none => .ok false
  | some target =>
    if !isAllowed b now then .ok false
    else
      match last.filter fun t => t.days == now.days with
      | some t => .ok (t.timeOfDay ≤ target && target ≤ now.timeOfDay)
      | none =>
        let today := Instant.ofDay now.days target
        if now < today then .ok false
        else
          match today.shift? window with
          | some closing => .ok (now < closing)
          | none => .error .dateOverflow

end Deskhand.Daily
