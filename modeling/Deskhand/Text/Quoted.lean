import Deskhand.Text.Digit
import Deskhand.Text.Printable

/-!
# Quoted text

A text between quotation marks, in which every character that could be mistaken is escaped: the backslash, the
mark itself, and what does not show. The mark is the apostrophe, or the double mark where the text holds an
apostrophe and no double mark.
-/

namespace Deskhand.Text

/-- One character of a quoted text, between marks `mark`. -/
def quotedChar (mark : Char) (c : Char) : List Char :=
  if c == mark || c == '\\' then ['\\', c]
  else if c == '\n' then ['\\', 'n']
  else if c == '\r' then ['\\', 'r']
  else if c == '\t' then ['\\', 't']
  else if isPrintable c then [c]
  else if c.toNat < 0x100 then ['\\', 'x'] ++ (hexPadded 2 c.toNat).toList
  else if c.toNat < 0x10000 then ['\\', 'u'] ++ (hexPadded 4 c.toNat).toList
  else ['\\', 'U'] ++ (hexPadded 8 c.toNat).toList

/-- A text in quotation marks. -/
def quoted (s : String) : String :=
  let cs := s.toList
  let mark := if cs.contains '\'' && !cs.contains '"' then '"' else '\''
  String.ofList (mark :: cs.flatMap (quotedChar mark) ++ [mark])

end Deskhand.Text
