/-!
# Blank characters

Blank text is what a person would not see at the ends of a line: the space separators, the line and
paragraph separators, the control characters that move the carriage, and the four information separators.
`isBlank` is the class, `trim` drops it at both ends of a text, and `isBlankText` holds of a text in which
nothing else occurs.
-/

namespace Deskhand.Text

/-- Whether a character lies in one of the inclusive ranges of code points. -/
def inRanges (ranges : List (Nat × Nat)) (c : Char) : Bool :=
  ranges.any fun r => r.1 ≤ c.toNat && c.toNat ≤ r.2

/-- The blank characters, as inclusive ranges of code points in increasing order. -/
def blankRanges : List (Nat × Nat) :=
  [(0x09, 0x0D), (0x1C, 0x20), (0x85, 0x85), (0xA0, 0xA0), (0x1680, 0x1680), (0x2000, 0x200A),
   (0x2028, 0x2029), (0x202F, 0x202F), (0x205F, 0x205F), (0x3000, 0x3000)]

/-- Whether a character is blank. -/
def isBlank (c : Char) : Bool :=
  inRanges blankRanges c

/-- Drop the characters of a class at both ends of a list. -/
def trimChars (drop : Char → Bool) (cs : List Char) : List Char :=
  ((cs.dropWhile drop).reverse.dropWhile drop).reverse

/-- A text without the blank characters at its ends. -/
def trim (s : String) : String :=
  String.ofList (trimChars isBlank s.toList)

/-- Whether a text holds no character but blank ones. -/
def isBlankText (s : String) : Bool :=
  s.toList.all isBlank

/-- A text without the characters of a class at its end. -/
def trimEnd (drop : Char → Bool) (s : String) : String :=
  String.ofList (s.toList.reverse.dropWhile drop).reverse

end Deskhand.Text
