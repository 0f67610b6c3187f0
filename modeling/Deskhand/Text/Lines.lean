/-!
# Lines

The lines of a file: a line break is a line feed, a carriage return, or both in this order, and each line but
the last one ends with it. `Text.lines` keeps the breaks, each as a line feed, so that the lines make up the
text (`lineChars_flatten`).
-/

namespace Deskhand.Text

/-- Characters with every line break as a line feed. -/
def unifiedBreaks : List Char → List Char
  | '\r' :: '\n' :: rest => '\n' :: unifiedBreaks rest
  | '\r' :: rest => '\n' :: unifiedBreaks rest
  | c :: rest => c :: unifiedBreaks rest
  | [] => []

/-- Put a character in front of the first line. -/
def extendFirst (c : Char) : List (List Char) → List (List Char)
  | [] => [[c]]
  | line :: lines => (c :: line) :: lines

/-- The lines of characters, each with the line feed that ends it. -/
def lineChars : List Char → List (List Char)
  | [] => []
  | c :: rest => if c == '\n' then [c] :: lineChars rest else extendFirst c (lineChars rest)

/-- The lines of a text, each with the line feed that ends it. -/
def lines (s : String) : List String :=
  (lineChars (unifiedBreaks s.toList)).map String.ofList

/-- The lines make up the characters. -/
theorem lineChars_flatten (cs : List Char) : (lineChars cs).flatten = cs := by
  induction cs with
  | nil => rfl
  | cons c rest ih =>
    unfold lineChars
    split
    · simp [ih]
    · cases h : lineChars rest <;> simp_all [extendFirst]

end Deskhand.Text
