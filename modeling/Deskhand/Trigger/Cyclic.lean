import Deskhand.Block.Basic
import Deskhand.Calendar.Instant
import Deskhand.Fault
import Deskhand.Text.Case

/-!
# Triggers that repeat

A cyclic trigger fires every so many seconds, minutes, hours or days. Its first check sets the time of the
next firing: one interval after the last run of its scenario, or at once if there was none. From then on a
check at or after that time fires and sets it one interval ahead (`Cyclic.check`).
-/

namespace Deskhand.Cyclic

/-- The seconds of each unit of time. -/
def unitSeconds : List (String × Nat) :=
  [("seconds", 1), ("second", 1), ("секунди", 1), ("minutes", 60), ("minute", 60), ("хвилини", 60),
   ("hours", 3600), ("hour", 3600), ("години", 3600), ("days", 86400), ("day", 86400), ("дні", 86400)]

/-- The seconds of the unit that a trigger names; minutes where it names no known unit. -/
def unitOf (b : Block) : Nat :=
  (unitSeconds.lookup (Text.lower (Text.trim (b.param "Unit" "minutes")))).getD 60

/-- The fault of an interval of more days than a span may have. -/
def tooLong (seconds : Int) : Fault :=
  let days := seconds / 86400
  if days < 2147483648 then .overflow ("days=" ++ toString days ++ "; must have magnitude <= 999999999")
  else .overflow "integer too large for an interval"

/-- The interval of a trigger, if it has a positive one. -/
def interval (b : Block) : Except Fault (Option Span) :=
  match Integer.read? (b.param "Interval" "") with
  | none => .ok none
  | some amount =>
    if amount ≤ 0 then .ok none
    else
      let seconds := amount * unitOf b
      match Span.ofSeconds? seconds with
      | some span => .ok (some span)
      | none => .error (tooLong seconds)

/-- The time of the next firing that a first check sets. -/
def seed (interval : Span) (last : Option Instant) (now : Instant) : Option Instant :=
  match last with
  | some t => t.shift? interval
  | none => some now

/-- Check a trigger whose next firing was set to `next`; the outcome and the next firing after it. -/
def check (b : Block) (next last : Option Instant) (now : Instant) : Except Fault Bool × Option Instant :=
  match interval b with
  | .error fault => (.error fault, next)
  | .ok none => (.ok false, next)
  | .ok (some span) =>
    match next.orElse fun _ => seed span last now with
    | none => (.error .dateOverflow, none)
    | some due =>
      if now < due then (.ok false, some due)
      else
        match now.shift? span with
        | some after => (.ok true, some after)
        | none => (.error .dateOverflow, some due)

end Deskhand.Cyclic
