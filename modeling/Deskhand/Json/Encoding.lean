/-!
# Unicode forms of JSON bytes

`Json.decode?` turns the bytes of a JSON text into characters. A byte order mark names the form; without one
the places of zero bytes among the first four tell UTF-8, UTF-16 and UTF-32 and their byte order apart, since
a JSON text starts with an ASCII character. Bytes that are wrong in their form give no text.
-/

namespace Deskhand.Json

/-- The forms in which a text can be given as bytes. -/
inductive Encoding where
  | utf8
  | utf16 (bigEndian : Bool)
  | utf32 (bigEndian : Bool)
  deriving DecidableEq, Repr

/-- The form of a sequence of bytes, and the bytes behind the mark that names it. -/
def detect (bytes : List Nat) : Encoding × List Nat :=
  match bytes with
  | 0x00 :: 0x00 :: 0xFE :: 0xFF :: rest => (.utf32 true, rest)
  | 0xFF :: 0xFE :: 0x00 :: 0x00 :: rest => (.utf32 false, rest)
  | 0xFE :: 0xFF :: rest => (.utf16 true, rest)
  | 0xFF :: 0xFE :: rest => (.utf16 false, rest)
  | 0xEF :: 0xBB :: 0xBF :: rest => (.utf8, rest)
  | a :: b :: c :: d :: _ =>
    if a == 0 then (if b != 0 then .utf16 true else .utf32 true, bytes)
    else if b == 0 then (if c != 0 || d != 0 then .utf16 false else .utf32 false, bytes)
    else (.utf8, bytes)
  | [a, b] =>
    if a == 0 then (.utf16 true, bytes) else if b == 0 then (.utf16 false, bytes) else (.utf8, bytes)
  | _ => (.utf8, bytes)

/-- A scalar value as a character; half of a pair standing alone is replaced. -/
def scalar (n : Nat) : Char :=
  if 0xD800 ≤ n && n ≤ 0xDFFF then Char.ofNat 0xFFFD else Char.ofNat n

/-- Whether a byte continues a character in UTF-8. -/
def isTail (b : Nat) : Bool :=
  0x80 ≤ b && b ≤ 0xBF

/-- The characters of bytes in UTF-8. -/
def ofUtf8? : List Nat → Option (List Char)
  | [] => some []
  | a :: rest =>
    if a < 0x80 then (ofUtf8? rest).map (Char.ofNat a :: ·)
    else
      match rest with
      | b :: rest =>
        if 0xC2 ≤ a && a ≤ 0xDF && isTail b then
          (ofUtf8? rest).map (Char.ofNat ((a - 0xC0) * 0x40 + (b - 0x80)) :: ·)
        else
          match rest with
          | c :: rest =>
            if 0xE0 ≤ a && a ≤ 0xEF && isTail b && isTail c && (a != 0xE0 || 0xA0 ≤ b) then
              (ofUtf8? rest).map
                (scalar (((a - 0xE0) * 0x40 + (b - 0x80)) * 0x40 + (c - 0x80)) :: ·)
            else
              match rest with
              | d :: rest =>
                if 0xF0 ≤ a && a ≤ 0xF4 && isTail b && isTail c && isTail d && (a != 0xF0 || 0x90 ≤ b)
                    && (a != 0xF4 || b ≤ 0x8F) then
                  (ofUtf8? rest).map
                    (Char.ofNat ((((a - 0xF0) * 0x40 + (b - 0x80)) * 0x40 + (c - 0x80)) * 0x40 + (d - 0x80)) :: ·)
                else none
              | [] => none
          | [] => none
      | [] => none

/-- The code units of bytes, two bytes each. -/
def units16? (bigEndian : Bool) : List Nat → Option (List Nat)
  | [] => some []
  | a :: b :: rest => (units16? bigEndian rest).map ((if bigEndian then a * 0x100 + b else b * 0x100 + a) :: ·)
  | _ => none

/-- The characters of UTF-16 code units. -/
def ofUnits16 : List Nat → List Char
  | [] => []
  | [u] => [scalar u]
  | u :: v :: rest =>
    if 0xD800 ≤ u && u ≤ 0xDBFF && 0xDC00 ≤ v && v ≤ 0xDFFF then
      Char.ofNat (0x10000 + (u - 0xD800) * 0x400 + (v - 0xDC00)) :: ofUnits16 rest
    else scalar u :: ofUnits16 (v :: rest)

/-- The characters of bytes in UTF-32. -/
def ofUtf32? (bigEndian : Bool) : List Nat → Option (List Char)
  | [] => some []
  | a :: b :: c :: d :: rest =>
    let n := if bigEndian then ((a * 0x100 + b) * 0x100 + c) * 0x100 + d
      else ((d * 0x100 + c) * 0x100 + b) * 0x100 + a
    if n < 0x110000 then (ofUtf32? bigEndian rest).map (scalar n :: ·) else none
  | _ => none

/-- The text of the bytes of a JSON text. -/
def decode? (bytes : List Nat) : Option String :=
  let (encoding, rest) := detect bytes
  match encoding with
  | .utf8 => (ofUtf8? rest).map String.ofList
  | .utf16 bigEndian => (units16? bigEndian rest).map fun us => String.ofList (ofUnits16 us)
  | .utf32 bigEndian => (ofUtf32? bigEndian rest).map String.ofList

end Deskhand.Json
