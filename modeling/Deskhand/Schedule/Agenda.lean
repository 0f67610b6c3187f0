/-!
# The agenda

An `Agenda` holds the alarms that are set, each for a time on the meter of the clock. `Agenda.next?` takes out
the one that rings first. Alarms that are due at one instant ring by their rank, and those of one rank in the
order in which they were set: runs go on before anything looks at what they did, new runs start once
everything else has looked, and the end of a wait for runs comes last.
-/

namespace Deskhand

/-- What an alarm is set for. -/
inductive Alarm where
  /-- A polling loop looks again. -/
  | loop (number : Nat)
  /-- A run starts or goes on. -/
  | run (number : Nat)
  /-- A call goes on. -/
  | call (number : Nat)
  /-- A message comes in over a connection. -/
  | message (connection : Nat) (text : String) (chat : Int)
  /-- The store is looked at for changes. -/
  | inspection
  /-- The time for shutting down is over. -/
  | shutdown
  /-- The program is told to end. -/
  | signal
  deriving DecidableEq, Repr, Inhabited

/-- When an alarm rings among those that are due at one instant. -/
inductive Rank where
  | goesOn
  | looks
  | starts
  | settles
  | givesUp
  deriving DecidableEq, Repr, Inhabited

namespace Rank

/-- The place of a rank. -/
def place : Rank → Nat
  | goesOn => 0
  | looks => 1
  | starts => 2
  | settles => 3
  | givesUp => 4

end Rank

/-- An alarm with its time and its place. -/
structure Appointment where
  due : Float
  rank : Rank
  /-- How many alarms were set before. -/
  order : Nat
  alarm : Alarm
  deriving DecidableEq, Repr, Inhabited

namespace Appointment

/-- Whether an appointment comes before another one at the same instant. -/
def precedes (a b : Appointment) : Bool :=
  a.rank.place < b.rank.place ||
    (a.rank == b.rank && (a.due < b.due || (a.due == b.due && a.order < b.order)))

/-- The appointment of a list that comes first at one instant. -/
def first? : List Appointment → Option Appointment
  | [] => none
  | a :: rest =>
    match first? rest with
    | some b => some (if b.precedes a then b else a)
    | none => some a

/-- The earliest time of the appointments of a list, starting with one that is known. -/
def earliest (t : Float) (appointments : List Appointment) : Float :=
  appointments.foldl (fun t a => if a.due < t then a.due else t) t

end Appointment

/-- The alarms that are set. -/
structure Agenda where
  appointments : List Appointment := []
  /-- How many alarms were ever set. -/
  made : Nat := 0
  deriving DecidableEq, Repr, Inhabited

namespace Agenda

/-- Times that lie less than this many seconds apart count as one instant. -/
def resolution : Float := 1e-9

/-- Set an alarm. -/
def set (a : Agenda) (due : Float) (rank : Rank) (alarm : Alarm) : Agenda :=
  ⟨a.appointments ++ [⟨due, rank, a.made, alarm⟩], a.made + 1⟩

/-- Keep only some of the alarms. -/
def keep (a : Agenda) (isWanted : Alarm → Bool) : Agenda :=
  { a with appointments := a.appointments.filter fun p => isWanted p.alarm }

/-- Take out the alarm that rings first, if it rings by a time: the alarm, the time at which it rings when it
is `now` at present, and the others. -/
def next? (a : Agenda) (now limit : Float) : Option (Alarm × Float × Agenda) :=
  match a.appointments with
  | [] => none
  | head :: rest =>
    let earliest := Appointment.earliest head.due rest
    if limit + resolution ≤ earliest then none
    else
      let instant := if earliest < now then now else earliest
      (Appointment.first? (a.appointments.filter fun p => p.due < instant + resolution)).map fun p =>
        (p.alarm, instant, { a with appointments := a.appointments.filter fun q => q.order != p.order })

end Agenda

end Deskhand
