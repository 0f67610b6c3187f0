import Deskhand.Calendar.Instant
import Deskhand.Text.Digit

/-!
# Reading ISO date-times

`Stamp.read?` reads a date and, behind one separating character, a time of day with an optional offset from
universal time. Dates come with or without dashes, as year, month and day or as year, week and day of the
week; times with or without colons, down to the hour, the minute, the second or a fraction of it. Of a
fraction six digits count. Where a week date and a time without colons cannot be told apart, the number of
digits decides (`dateLength?`).
-/

namespace Deskhand

/-- A date and time of day, with its offset from universal time in microseconds if it has one. -/
structure Stamp where
  wall : Instant
  offset : Option Int := none
  deriving DecidableEq, Repr, Inhabited

namespace Stamp

/-- An offset from universal time as sign, hours and minutes, and smaller parts where they are not zero. -/
def offsetText (offset : Int) : String :=
  let n := offset.natAbs
  let s := n / 1000000
  (if offset < 0 then "-" else "+") ++ Text.padded 2 (s / 3600) ++ ":" ++ Text.padded 2 (s / 60 % 60)
    ++ (if s % 60 == 0 && n % 1000000 == 0 then "" else ":" ++ Text.padded 2 (s % 60))
    ++ (if n % 1000000 == 0 then "" else "." ++ Text.padded 6 (n % 1000000))

/-- A stamp as date, time of day and offset. -/
def text (s : Stamp) : String :=
  s.wall.text ++ (s.offset.map offsetText).getD ""

/-- A stamp as text, with a blank between date and time. -/
def spacedText (s : Stamp) : String :=
  Text.replaceChar 'T' " " s.text

/-- A number of exactly `n` ASCII digits, and the rest. -/
def digits? (n : Nat) (cs : List Char) : Option (Nat × List Char) :=
  let field := cs.take n
  if field.length == n && field.all Text.isAsciiDigit then
    some (field.foldl (fun acc c => 10 * acc + (c.toNat - 0x30)) 0, cs.drop n)
  else none

/-- How many characters the date takes, judging by where its dashes, its week mark and its digits stand. -/
def dateLength? (cs : List Char) : Option Nat :=
  let at? := fun i : Nat => cs[i]?
  let isDigitAt := fun i : Nat => (at? i).any Text.isAsciiDigit
  let n := cs.length
  if n == 7 then some 7
  else if at? 4 == some '-' then
    if at? 5 == some 'W' then
      if n < 8 then none
      else if at? 8 == some '-' then
        if n == 9 then none
        else if n > 10 && isDigitAt 10 then some 8
        else some 10
      else some 8
    else some 10
  else if at? 4 == some 'W' then
    let position := 7 + ((cs.drop 7).takeWhile Text.isAsciiDigit).length
    if position < 9 then some position else if position % 2 == 0 then some 7 else some 8
  else some 8

/-- The day of the Monday that starts the first week of a year; that week has a Thursday of the year. -/
def firstMonday (year : Nat) : Int :=
  let first := Date.daysBeforeYear year
  let weekday := Date.weekdayOf first
  if weekday ≤ 3 then (first : Int) - weekday else (first : Int) - weekday + 7

/-- The number of weeks of a year. -/
def weeksIn (year : Nat) : Nat :=
  let weekday := Date.weekdayOf (Date.daysBeforeYear year)
  if weekday == 3 || (weekday == 2 && Date.isLeap year) then 53 else 52

/-- The day of a week date. -/
def weekDay? (year week day : Nat) : Option Nat :=
  if 1 ≤ year && 1 ≤ week && week ≤ weeksIn year && 1 ≤ day && day ≤ 7 then
    let n := firstMonday year + ((week - 1) * 7 + (day - 1) : Nat)
    if 0 ≤ n && n < Date.dayLimit then some n.toNat else none
  else none

/-- The day of a date that fills a list of characters. -/
def readDay? (cs : List Char) : Option Nat := do
  let (year, rest) ← digits? 4 cs
  let (dashed, rest) :=
    match rest with
    | '-' :: more => (true, more)
    | _ => (false, rest)
  match rest with
  | 'W' :: rest => do
    let (week, rest) ← digits? 2 rest
    if rest.isEmpty then weekDay? year week 1
    else
      let rest ← if dashed then (match rest with
        | '-' :: more => some more
        | _ => none) else some rest
      let (day, _) ← digits? 1 rest
      weekDay? year week day
  | _ => do
    let (month, rest) ← digits? 2 rest
    let rest ← if dashed then (match rest with
      | '-' :: more => some more
      | _ => none) else some rest
    let (day, rest) ← digits? 2 rest
    if rest.isEmpty then (Date.ofNumbers? year month day).map Date.toDays else none

/-- Hours, minutes, seconds and microseconds. -/
structure Fields where
  hour : Nat := 0
  minute : Nat := 0
  second : Nat := 0
  micro : Nat := 0
  deriving Repr

/-- The fields as microseconds. -/
def Fields.toMicros (f : Fields) : Nat :=
  TimeOfDay.ofFields f.hour f.minute f.second f.micro

/-- The fields of a list of whole ones and a fraction. -/
def Fields.ofList (whole : List Nat) (micro : Nat) : Fields :=
  ⟨whole.getD 0 0, whole.getD 1 0, whole.getD 2 0, micro⟩

/-- A fraction of a second, of which six digits count, and whether nothing but digits is left behind them. -/
def readFraction? (cs : List Char) : Option (Nat × Bool) := do
  let size := min cs.length 6
  let (n, rest) ← digits? size cs
  some (n * Nat.pow 10 (6 - size), rest.all Text.isAsciiDigit)

/-- The fields of a time of day, and whether they fill the list of characters. Behind the hour a colon decides
that colons stand between all fields. A mark of a fraction may follow any field; behind the seconds the
fraction may follow a colon, or directly where there are no colons. One ASCII character may be left over. -/
def readFields? : Nat → Option Bool → List Nat → List Char → Option (Fields × Bool)
  | more, colons, before, cs => do
    let (n, rest) ← digits? 2 cs
    let whole := before ++ [n]
    match rest with
    | [] => some (.ofList whole 0, true)
    | [c] => if c.toNat < 0x80 then some (.ofList whole 0, false) else none
    | c :: behind =>
      let colons := colons.getD (c == ':')
      let fraction := fun cs => (readFraction? cs).map fun r => (Fields.ofList whole r.1, r.2)
      if colons && c == ':' then
        match more with
        | 0 => fraction behind
        | more + 1 => readFields? more (some colons) whole behind
      else if c == '.' || c == ',' then fraction behind
      else if colons then none
      else
        match more with
        | 0 => fraction rest
        | more + 1 => readFields? more (some colons) whole rest
termination_by structural more => more

/-- Read the offset behind a time of day. -/
def readOffset? : List Char → Option (Option Int)
  | [] => some none
  | ['Z'] => some (some 0)
  | 'Z' :: _ => none
  | c :: cs => do
    let (f, complete) ← readFields? 2 none [] cs
    let n : Int := f.toMicros
    if complete && n < Span.day then some (some (if c == '-' then -n else n)) else none

/-- Whether a character starts an offset. -/
def startsOffset (c : Char) : Bool :=
  c == '+' || c == '-' || c == 'Z'

/-- Read a time of day with an optional offset. -/
def readTime? (cs : List Char) : Option (Nat × Option Int) := do
  let (f, complete) ← readFields? 2 none [] (cs.takeWhile (!startsOffset ·))
  let offset ← readOffset? (cs.dropWhile (!startsOffset ·))
  if (complete || offset.isSome) && f.hour < 24 && f.minute < 60 && f.second < 60 then
    some (f.toMicros, offset)
  else none

/-- Read a date-time. -/
def read? (s : String) : Option Stamp := do
  let cs := s.toList
  if cs.length < 7 then none
  else
    let n ← dateLength? cs
    let days ← readDay? (cs.take n)
    match cs.drop n with
    | [] => some ⟨.ofDay days 0, none⟩
    | _ :: rest =>
      let (time, offset) ← readTime? rest
      some ⟨.ofDay days time, offset⟩

end Stamp

end Deskhand
