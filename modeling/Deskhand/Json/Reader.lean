import Deskhand.Value

/-!
# Reading JSON

`Json.read` reads one JSON value that fills a text. Beside the numbers of the standard it takes `NaN`,
`Infinity` and `-Infinity`. Of two fields with one name the later value stays, at the place of the earlier
one. An integer has no fraction and no exponent and may be of any size up to `Integer.maxDigits` digits; a
longer one is refused with its number of digits as soon as it is met, before whatever is wrong behind it.
-/

namespace Deskhand.Json

/-- Why a text is not JSON. -/
inductive Refusal where
  /-- The text is not JSON. -/
  | malformed
  /-- An integer has more digits than are read. -/
  | tooLong (digits : Nat)
  deriving DecidableEq, Repr

/-- The blanks of JSON. -/
def isSpace (c : Char) : Bool :=
  c == ' ' || c == '\t' || c == '\n' || c == '\r'

/-- Skip the blanks in front. -/
def skip (cs : List Char) : List Char :=
  cs.dropWhile isSpace

/-- Four hexadecimal digits as a number. -/
def unit? : List Char → Option (Nat × List Char)
  | a :: b :: c :: d :: rest => do
    let a ← Text.hexDigit? a
    let b ← Text.hexDigit? b
    let c ← Text.hexDigit? c
    let d ← Text.hexDigit? d
    some (((a * 16 + b) * 16 + c) * 16 + d, rest)
  | _ => none

/-- The character that a one-letter escape stands for. -/
def escaped? : Char → Option Char
  | '"' => some '"'
  | '\\' => some '\\'
  | '/' => some '/'
  | 'b' => some '\x08'
  | 'f' => some '\x0c'
  | 'n' => some '\n'
  | 'r' => some '\r'
  | 't' => some '\t'
  | _ => none

/-- The character of one code unit; half of a pair standing alone is replaced. -/
def ofUnit (n : Nat) : Char :=
  if 0xD800 ≤ n && n ≤ 0xDFFF then Char.ofNat 0xFFFD else Char.ofNat n

/-- Read the numeric escape behind `\u`: one code unit, or two that form a pair. -/
def readUnits (cs : List Char) : Option (Char × List Char) := do
  let (high, rest) ← unit? cs
  if 0xD800 ≤ high && high ≤ 0xDBFF then
    match rest with
    | '\\' :: 'u' :: more =>
      match unit? more with
      | some (low, after) =>
        if 0xDC00 ≤ low && low ≤ 0xDFFF then
          some (Char.ofNat (0x10000 + (high - 0xD800) * 0x400 + (low - 0xDC00)), after)
        else some (ofUnit high, rest)
      | none => some (ofUnit high, rest)
    | _ => some (ofUnit high, rest)
  else some (ofUnit high, rest)

/-- Read the characters of a string up to its closing mark. -/
def readString : Nat → List Char → Except Refusal (List Char × List Char)
  | 0, _ => .error .malformed
  | fuel + 1, cs =>
    match cs with
    | [] => .error .malformed
    | '"' :: rest => .ok ([], rest)
    | '\\' :: 'u' :: rest =>
      match readUnits rest with
      | some (c, rest) => do
        let (more, rest) ← readString fuel rest
        .ok (c :: more, rest)
      | none => .error .malformed
    | '\\' :: e :: rest =>
      match escaped? e with
      | some c => do
        let (more, rest) ← readString fuel rest
        .ok (c :: more, rest)
      | none => .error .malformed
    | c :: rest =>
      if c.toNat < 0x20 || c == '\\' then .error .malformed
      else do
        let (more, rest) ← readString fuel rest
        .ok (c :: more, rest)

/-- Read a string behind its opening mark. -/
def readText (cs : List Char) : Except Refusal (String × List Char) := do
  let (chars, rest) ← readString (cs.length + 1) cs
  .ok (String.ofList chars, rest)

/-- The digits of the whole part of a number: a zero alone, or digits of which the first is not zero. -/
def wholeDigits (cs : List Char) : List Nat × List Char :=
  match cs with
  | '0' :: rest => ([0], rest)
  | _ => Decimal.leadingDigits cs

/-- The fraction of a number, if a point and a digit come next. -/
def fractionDigits (cs : List Char) : List Nat × List Char :=
  match cs with
  | '.' :: rest =>
    match Decimal.leadingDigits rest with
    | ([], _) => ([], cs)
    | found => found
  | _ => ([], cs)

/-- The exponent of a number, if one comes next. -/
def exponentPart (cs : List Char) : Option Int × List Char :=
  match cs with
  | c :: rest =>
    if c == 'e' || c == 'E' then
      let (negative, more) := Number.sign rest
      match Decimal.leadingDigits more with
      | ([], _) => (none, cs)
      | (digits, after) => (some (Number.signed negative (Number.ofDigits digits)), after)
    else (none, cs)
  | [] => (none, cs)

/-- Read a number behind its sign. -/
def readNumber (negative : Bool) (cs : List Char) : Except Refusal (Value × List Char) :=
  match wholeDigits cs with
  | ([], _) => .error .malformed
  | (whole, rest) =>
    let (fraction, rest) := fractionDigits rest
    let (e, rest) := exponentPart rest
    if fraction.isEmpty && e.isNone then
      if whole.length > Integer.maxDigits then .error (.tooLong whole.length)
      else .ok (.int (Number.signed negative (Number.ofDigits whole)), rest)
    else
      .ok (.float (Binary.ofDecimal negative (Number.ofDigits (whole ++ fraction))
        (e.getD 0 - (fraction.length : Int))), rest)

/-- The words that stand for a value. -/
def words : List (List Char × Value) :=
  [("null".toList, .null), ("true".toList, .bool true), ("false".toList, .bool false),
   ("NaN".toList, .float (0.0 / 0.0)), ("Infinity".toList, .float (1.0 / 0.0)),
   ("-Infinity".toList, .float (-1.0 / 0.0))]

/-- Read one of the words. -/
def readWord? (cs : List Char) : Option (Value × List Char) :=
  words.findSome? fun w => (Text.afterChars? w.1 cs).map fun rest => (w.2, rest)

/-- Read a value that is neither list nor record. -/
def readScalar (cs : List Char) : Except Refusal (Value × List Char) :=
  match readWord? cs with
  | some found => .ok found
  | none =>
    match cs with
    | '"' :: rest => do
      let (s, rest) ← readText rest
      .ok (.text s, rest)
    | '-' :: rest => readNumber true rest
    | _ => readNumber false cs

mutual

/-- Read one value, which starts at the first character. -/
def readValue : Nat → List Char → Except Refusal (Value × List Char)
  | 0, _ => .error .malformed
  | fuel + 1, cs =>
    match cs with
    | '[' :: rest =>
      match skip rest with
      | ']' :: rest => .ok (.list [], rest)
      | rest => do
        let (items, rest) ← readItems fuel rest
        .ok (.list items, rest)
    | '{' :: rest =>
      match skip rest with
      | '}' :: rest => .ok (.record [], rest)
      | rest => do
        let (pairs, rest) ← readPairs fuel rest
        .ok (.record (Entries.ofPairs pairs), rest)
    | _ => readScalar cs

/-- Read the items of a list up to its closing bracket. -/
def readItems : Nat → List Char → Except Refusal (List Value × List Char)
  | 0, _ => .error .malformed
  | fuel + 1, cs => do
    let (v, rest) ← readValue fuel cs
    match skip rest with
    | ']' :: rest => .ok ([v], rest)
    | ',' :: rest => do
      let (vs, rest) ← readItems fuel (skip rest)
      .ok (v :: vs, rest)
    | _ => .error .malformed

/-- Read the fields of a record up to its closing brace. -/
def readPairs : Nat → List Char → Except Refusal (List (String × Value) × List Char)
  | 0, _ => .error .malformed
  | fuel + 1, cs =>
    match cs with
    | '"' :: rest => do
      let (k, rest) ← readText rest
      match skip rest with
      | ':' :: rest => do
        let (v, rest) ← readValue fuel (skip rest)
        match skip rest with
        | '}' :: rest => .ok ([(k, v)], rest)
        | ',' :: rest => do
          let (more, rest) ← readPairs fuel (skip rest)
          .ok ((k, v) :: more, rest)
        | _ => .error .malformed
      | _ => .error .malformed
    | _ => .error .malformed

end

/-- Read a text that holds one JSON value and blanks around it. -/
def read (s : String) : Except Refusal Value := do
  let cs := s.toList
  let (v, rest) ← readValue (2 * cs.length + 2) (skip cs)
  if (skip rest).isEmpty then .ok v else .error .malformed

end Deskhand.Json
