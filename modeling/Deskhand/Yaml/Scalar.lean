import Deskhand.Calendar.Iso
import Deskhand.Fault

/-!
# Scalars of YAML

A scalar that is written without quotation marks may stand for nothing, a truth value, a number or a date.
`Scalar.kindOf` tells which from its shape, and `Scalar.value` reads it as that kind. Integers come in four
bases and as hours, minutes and seconds with colons between them; underscores may stand among the digits.
-/

namespace Deskhand.Yaml

/-- The kinds of scalars. -/
inductive ScalarKind where
  | null
  | truth
  | integer
  | number
  | time
  | text
  /-- The key that merges another mapping in. -/
  | merge
  /-- The mark of a default value, which has no reading of its own. -/
  | default
  deriving DecidableEq, Repr, Inhabited

namespace Scalar

/-- The words for truth values. -/
def truthWords : List (String × Bool) :=
  [("yes", true), ("no", false), ("true", true), ("false", false), ("on", true), ("off", false)]

/-- A word in its three spellings: small, with a capital, in capitals. -/
def spellings (word : String) : List String :=
  [word, Text.upper (Text.take 1 word) ++ Text.drop 1 word, Text.upper word]

/-- Whether a text is a spelling of a word. -/
def isSpelling (s word : String) : Bool :=
  (spellings word).contains s

/-- The truth value of a word. -/
def truth? (s : String) : Option Bool :=
  (truthWords.find? fun e => isSpelling s e.1).map (·.2)

/-- Whether all characters pass a test and there is one at least. -/
def allOf (p : Char → Bool) (cs : List Char) : Bool :=
  !cs.isEmpty && cs.all p

/-- Whether a character is a digit or an underscore. -/
def inDigits (c : Char) : Bool :=
  Text.isAsciiDigit c || c == '_'

/-- A list without its sign. -/
def unsigned : List Char → List Char
  | '-' :: cs | '+' :: cs => cs
  | cs => cs

/-- Whether a list starts with a digit and goes on with digits and underscores. -/
def isDigits : List Char → Bool
  | c :: cs => Text.isAsciiDigit c && cs.all inDigits
  | [] => false

/-- Whether a part between colons is a number below sixty. -/
def isSixtieth (part : List Char) : Bool :=
  match part with
  | [c] => Text.isAsciiDigit c
  | [c, d] => '0' ≤ c && c ≤ '5' && Text.isAsciiDigit d
  | _ => false

/-- Whether an unsigned list has the shape of an integer. -/
def isUnsignedInteger (cs : List Char) : Bool :=
  match cs with
  | ['0'] => true
  | '0' :: 'b' :: digits => allOf (fun c => c == '0' || c == '1' || c == '_') digits
  | '0' :: 'x' :: digits => allOf (fun c => (Text.hexDigit? c).isSome || c == '_') digits
  | '0' :: digits => allOf (fun c => ('0' ≤ c && c ≤ '7') || c == '_') digits
  | cs =>
    match Text.splitChars ':' cs with
    | first :: rest => isDigits first && rest.all isSixtieth
    | [] => false

/-- Whether a list is an exponent with its sign, or empty. -/
def isExponent : List Char → Bool
  | [] => true
  | e :: sign :: digits =>
    (e == 'e' || e == 'E') && (sign == '-' || sign == '+') && allOf Text.isAsciiDigit digits
  | _ => false

/-- Whether a list starts with digits and a point and ends with an exponent or nothing. -/
def isPointed (cs : List Char) : Bool :=
  match cs.dropWhile inDigits with
  | '.' :: rest => isDigits (cs.takeWhile inDigits) && isExponent (rest.dropWhile inDigits)
  | _ => false

/-- Whether a list has the shape of hours and minutes with a fraction. -/
def isSixtiethNumber (cs : List Char) : Bool :=
  let whole := cs.takeWhile (· != '.')
  match cs.dropWhile (· != '.'), Text.splitChars ':' whole with
  | '.' :: fraction, first :: part :: rest =>
    isDigits first && (part :: rest).all isSixtieth && fraction.all inDigits
  | _, _ => false

/-- Whether a text is the word for what is infinite, without sign. -/
def isInfinity (cs : List Char) : Bool :=
  [".inf", ".Inf", ".INF"].contains (String.ofList cs)

/-- Whether a text is the word for what is not a number. -/
def isNotANumber (s : String) : Bool :=
  [".nan", ".NaN", ".NAN"].contains s

/-- Whether a list has the shape of a number with a point. -/
def isNumber (cs : List Char) : Bool :=
  let body := unsigned cs
  isPointed body || isSixtiethNumber body || isInfinity body || isNotANumber (String.ofList cs)
    || (match cs with
      | '.' :: d :: rest => Text.isAsciiDigit d && isExponent (rest.dropWhile inDigits)
      | _ => false)

/-- The pieces of a date with an optional time of day. -/
structure TimeFields where
  year : List Char
  month : List Char
  day : List Char
  clock : Option (List Char × List Char × List Char × List Char × List Char)
  deriving Repr, Inhabited

/-- Between `low` and `high` leading digits of a list, as many as there are, and the rest. -/
def digitsBetween? (low high : Nat) (cs : List Char) : Option (List Char × List Char) :=
  let run := (cs.take high).takeWhile Text.isAsciiDigit
  if low ≤ run.length then some (run, cs.drop run.length) else none

/-- A list without a character in front, if it is there. -/
def after? (c : Char) : List Char → Option (List Char)
  | d :: cs => if c == d then some cs else none
  | [] => none

/-- Whether a list is an offset: none, `Z`, or a sign with hours and optional minutes. -/
def isOffset (cs : List Char) : Bool :=
  match cs with
  | [] | ['Z'] => true
  | sign :: rest =>
    (sign == '+' || sign == '-') &&
      (match digitsBetween? 1 2 rest with
        | some (_, []) => true
        | some (_, ':' :: minutes) => minutes.length == 2 && minutes.all Text.isAsciiDigit
        | _ => false)

/-- Whether a character is a blank or a tab. -/
def isGap (c : Char) : Bool :=
  c == ' ' || c == '\t'

/-- The list behind what parts date and time of day. -/
def afterGap? : List Char → Option (List Char)
  | 'T' :: cs | 't' :: cs => some cs
  | c :: cs => if isGap c then some (cs.dropWhile isGap) else none
  | [] => none

/-- Hour, minute, second, fraction and offset of a time of day. -/
def clockFields? (cs : List Char) : Option (List Char × List Char × List Char × List Char × List Char) := do
  let (hour, rest) ← digitsBetween? 1 2 cs
  let (minute, rest) ← digitsBetween? 2 2 (← after? ':' rest)
  let (second, rest) ← digitsBetween? 2 2 (← after? ':' rest)
  let (fraction, rest) :=
    match rest with
    | '.' :: more => (more.takeWhile Text.isAsciiDigit, more.dropWhile Text.isAsciiDigit)
    | _ => ([], rest)
  let offset := rest.dropWhile isGap
  if isOffset offset && (rest.isEmpty || !offset.isEmpty) then some (hour, minute, second, fraction, offset)
  else none

/-- The pieces of a date or of a date with a time of day. -/
def timeFields? (cs : List Char) : Option TimeFields := do
  let (year, rest) ← digitsBetween? 4 4 cs
  let (month, rest) ← digitsBetween? 1 2 (← after? '-' rest)
  let (day, rest) ← digitsBetween? 1 2 (← after? '-' rest)
  match rest with
  | [] => if month.length == 2 && day.length == 2 then some ⟨year, month, day, none⟩ else none
  | _ => some ⟨year, month, day, some (← clockFields? (← afterGap? rest))⟩

/-- The kind of a scalar that is written without quotation marks. -/
def kindOf (s : String) : ScalarKind :=
  let cs := s.toList
  if s == "" || s == "~" || isSpelling s "null" then .null
  else if (truth? s).isSome then .truth
  else if isNumber cs then .number
  else if isUnsignedInteger (unsigned cs) then .integer
  else if s == "<<" then .merge
  else if (timeFields? cs).isSome then .time
  else if s == "=" then .default
  else .text

/-- The digits of a list in a base. -/
def inBase (base : Nat) (cs : List Char) : Except Fault Int :=
  if cs.isEmpty then
    .error (.outOfRange ("invalid literal for int() with base " ++ toString base ++ ": ''"))
  else .ok (cs.foldl (fun acc c => base * acc + (Text.hexDigit? c).getD 0) 0 : Nat)

/-- The numbers of parts between colons, each sixty times the next. -/
def sixtieths (parts : List Int) : Int :=
  parts.foldl (fun acc n => 60 * acc + n) 0

/-- Read an integer. -/
def integer (s : String) : Except Fault Int := do
  let cs := s.toList.filter (· != '_')
  let magnitude ←
    match unsigned cs with
    | '0' :: 'b' :: digits => inBase 2 digits
    | '0' :: 'x' :: digits => inBase 16 digits
    | ['0'] => pure 0
    | '0' :: digits => inBase 8 ('0' :: digits)
    | digits =>
      let parts ← (Text.splitChars ':' digits).mapM fun p =>
        (Integer.read (String.ofList p)).mapError Fault.notInteger
      pure (sixtieths parts)
  return if cs.head? == some '-' then -magnitude else magnitude

/-- Read a number with a point. -/
def number (s : String) : Except Fault Float := do
  let cs := s.toList.filter (· != '_')
  let body := unsigned cs
  let magnitude ←
    if isInfinity body then pure (1.0 / 0.0)
    else if isNotANumber (String.ofList body) then pure (0.0 / 0.0)
    else
      let parts ← (Text.splitChars ':' body).mapM fun p =>
        match Decimal.read? (String.ofList p) with
        | some x => Except.ok x
        | none => Except.error (Fault.notNumber (String.ofList p))
      pure (match parts with
        | [x] => x
        | _ => (parts.reverse.foldl (fun acc x => (acc.1 + x * acc.2, acc.2 * 60.0)) ((0.0, 1.0) : Float × Float)).1)
  return if cs.head? == some '-' then -magnitude else magnitude

/-- The number of a list of digits. -/
def ofDigits (cs : List Char) : Nat :=
  cs.foldl (fun acc c => 10 * acc + (c.toNat - 0x30)) 0

/-- The offset of a time of day in microseconds. -/
def offsetOf (cs : List Char) : Option Int :=
  match cs with
  | [] => none
  | ['Z'] => some 0
  | sign :: rest =>
    let hours := rest.takeWhile (· != ':')
    let minutes := (rest.dropWhile (· != ':')).drop 1
    let n : Int := TimeOfDay.ofFields (ofDigits hours) (ofDigits minutes) 0 0
    some (if sign == '-' then -n else n)

/-- Check that a number lies in a range. -/
def within (n high : Nat) (reason : String) : Except Fault Unit :=
  if n ≤ high then .ok () else .error (.outOfRange reason)

/-- Read a date, or a date with a time of day. -/
def time (f : TimeFields) : Except Fault Value := do
  let year := ofDigits f.year
  let month := ofDigits f.month
  if year == 0 then throw (.outOfRange "year 0 is out of range")
  if month < 1 || 12 < month then throw (.outOfRange "month must be in 1..12")
  let date ←
    match Date.ofNumbers? year month (ofDigits f.day) with
    | some d => pure d
    | none => throw (.outOfRange "day is out of range for month")
  match f.clock with
  | none => return .date date.text
  | some (hour, minute, second, fraction, offset) =>
    within (ofDigits hour) 23 "hour must be in 0..23"
    within (ofDigits minute) 59 "minute must be in 0..59"
    within (ofDigits second) 59 "second must be in 0..59"
    let micro := ofDigits ((fraction ++ List.replicate 6 '0').take 6)
    let time := TimeOfDay.ofFields (ofDigits hour) (ofDigits minute) (ofDigits second) micro
    let wall := Instant.ofDate date time
    let offset := offsetOf offset
    if offset.any fun n => Span.day ≤ n.natAbs then throw (.outOfRange "an offset must be less than a day")
    return .date (Stamp.text ⟨wall, offset⟩)

/-- Read a scalar as one of a kind. -/
def value (kind : ScalarKind) (s : String) : Except Fault Value :=
  match kind with
  | .null => .ok .null
  | .truth =>
    match truth? (Text.lower s) with
    | some b => .ok (.bool b)
    | none => .error (.missingKey (.text (Text.lower s)))
  | .integer => (integer s).map .int
  | .number => (number s).map .float
  | .time =>
    match timeFields? s.toList with
    | some f => time f
    | none => .error (.missingMember .null "groupdict")
  | _ => .ok (.text s)

end Scalar

end Deskhand.Yaml
