import Deskhand.Calendar.Instant
import Deskhand.Number.Binary

/-!
# The clock

A `Clock` is a meter of seconds that only moves forward, and the instant at which it stood at zero. The wall
time is that instant plus the metered seconds, rounded to the microsecond. Setting the wall time moves the
instant of zero and leaves the meter alone, so that what is due after some seconds stays due then.
-/

namespace Deskhand

namespace Binary

/-- A finite double rounded to an integer, a half to the even neighbour. -/
def roundToInt (x : Float) : Int :=
  let p := parts x
  let n := scaled p.mantissa 1 (-p.exponent)
  if p.negative then -(n : Int) else n

/-- An integer as the nearest double. -/
def ofInt (n : Int) : Float :=
  nearest (n < 0) n.natAbs 1

/-- The ratio of two natural numbers as the nearest double; none when it is beyond every finite one. -/
def ofRatio? (num den : Nat) : Option Float :=
  let x := nearest false num den
  if x.isFinite then some x else none

end Binary

/-- A number of seconds as a span, rounded to the microsecond. -/
def Span.ofFloat (seconds : Float) : Span :=
  let whole := (Binary.floor seconds).1
  whole * Span.second + Binary.roundToInt ((seconds - Binary.ofInt whole) * 1000000.0)

/-- A meter of seconds and the instant at which it stood at zero. -/
structure Clock where
  origin : Instant
  elapsed : Float := 0.0
  deriving DecidableEq, Repr, Inhabited

namespace Clock

/-- The instant at which a clock starts. -/
def start : Instant := .ofDate ⟨2024, 1, 1⟩ 0

/-- The wall time. -/
def now (c : Clock) : Instant :=
  c.origin.shift (Span.ofFloat c.elapsed)

/-- The clock some seconds later. -/
def wait (c : Clock) (seconds : Float) : Clock :=
  { c with elapsed := c.elapsed + seconds }

/-- The clock with another wall time. -/
def set (c : Clock) (wall : Instant) : Clock :=
  { c with origin := wall.shift (-(Span.ofFloat c.elapsed)) }

/-- Put the wall time at an instant, if one is given. -/
def setNow (c : Clock) (wall : Option Instant) : Clock :=
  (wall.map c.set).getD c

/-- The milliseconds that passed between two states of a clock. -/
def millisBetween (before after : Clock) : Int :=
  Binary.roundToInt ((after.elapsed - before.elapsed) * 1000.0)

end Clock

end Deskhand
