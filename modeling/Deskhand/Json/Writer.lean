import Deskhand.Value

/-!
# Writing JSON

`Json.indented` writes a value over several lines, two blanks deeper for each level, with empty lists and
records on one line; `Json.compact` writes it on one line. A text escapes the quotation mark, the backslash
and the control characters; a writer for ASCII escapes every other character outside ASCII as UTF-16 code
units.
-/

namespace Deskhand.Json

/-- One UTF-16 code unit as a numeric escape. -/
def unitEscape (n : Nat) : List Char :=
  '\\' :: 'u' :: (Text.hexPadded 4 n).toList

/-- A character as its UTF-16 code units, escaped. -/
def asciiEscape (c : Char) : List Char :=
  if c.toNat < 0x10000 then unitEscape c.toNat
  else
    let n := c.toNat - 0x10000
    unitEscape (0xD800 + n / 0x400) ++ unitEscape (0xDC00 + n % 0x400)

/-- One character of a string. -/
def stringChar (ascii : Bool) (c : Char) : List Char :=
  if c == '"' then ['\\', '"']
  else if c == '\\' then ['\\', '\\']
  else if c == '\n' then ['\\', 'n']
  else if c == '\r' then ['\\', 'r']
  else if c == '\t' then ['\\', 't']
  else if c == '\x0c' then ['\\', 'f']
  else if c == '\x08' then ['\\', 'b']
  else if c.toNat < 0x20 then unitEscape c.toNat
  else if ascii && 0x7F ≤ c.toNat then asciiEscape c
  else [c]

/-- A text as a JSON string. -/
def string (ascii : Bool) (s : String) : String :=
  String.ofList ('"' :: s.toList.flatMap (stringChar ascii) ++ ['"'])

/-- A double as a JSON number, or as the word for what is not a number. -/
def number (x : Float) : String :=
  if x.isNaN then "NaN"
  else if x.isInf then (if Binary.isNegative x then "-Infinity" else "Infinity")
  else Decimal.text x

/-- A line break and the blanks of a level. -/
def breakTo (level : Nat) : String :=
  "\n" ++ String.ofList (List.replicate (2 * level) ' ')

mutual

/-- A value over several lines, its first line standing at `level`. -/
def indentedAt (ascii : Bool) (level : Nat) : Value → String
  | .null => "null"
  | .bool true => "true"
  | .bool false => "false"
  | .int n => Integer.text n
  | .float x => number x
  | .text s => string ascii s
  | .date iso => string ascii iso
  | .list [] => "[]"
  | .list (v :: vs) =>
    "[" ++ breakTo (level + 1) ++ indentedAt ascii (level + 1) v ++ indentedItems ascii (level + 1) vs
      ++ breakTo level ++ "]"
  | .record [] => "\x7b\x7d"
  | .record ((k, v) :: fs) =>
    "\x7b" ++ breakTo (level + 1) ++ string ascii k ++ ": " ++ indentedAt ascii (level + 1) v
      ++ indentedFields ascii (level + 1) fs ++ breakTo level ++ "\x7d"
termination_by structural v => v

/-- The items behind the first one, each on a line of its own. -/
def indentedItems (ascii : Bool) (level : Nat) : List Value → String
  | [] => ""
  | v :: vs => "," ++ breakTo level ++ indentedAt ascii level v ++ indentedItems ascii level vs
termination_by structural vs => vs

/-- The fields behind the first one, each on a line of its own. -/
def indentedFields (ascii : Bool) (level : Nat) : List (String × Value) → String
  | [] => ""
  | (k, v) :: fs =>
    "," ++ breakTo level ++ string ascii k ++ ": " ++ indentedAt ascii level v
      ++ indentedFields ascii level fs
termination_by structural fs => fs

end

/-- A value over several lines. -/
def indented (v : Value) : String :=
  indentedAt false 0 v

/-- A value over several lines in ASCII. -/
def indentedAscii (v : Value) : String :=
  indentedAt true 0 v

mutual

/-- A value on one line, in ASCII. -/
def compact : Value → String
  | .null => "null"
  | .bool true => "true"
  | .bool false => "false"
  | .int n => Integer.text n
  | .float x => number x
  | .text s => string true s
  | .date iso => string true iso
  | .list vs => "[" ++ Text.join ", " (compactItems vs) ++ "]"
  | .record fs => "\x7b" ++ Text.join ", " (compactFields fs) ++ "\x7d"
termination_by structural v => v

/-- The items of a list, each on one line. -/
def compactItems : List Value → List String
  | [] => []
  | v :: vs => compact v :: compactItems vs
termination_by structural vs => vs

/-- The fields of a record, each on one line. -/
def compactFields : List (String × Value) → List String
  | [] => []
  | (k, v) :: fs => (string true k ++ ": " ++ compact v) :: compactFields fs
termination_by structural fs => fs

end

end Deskhand.Json
