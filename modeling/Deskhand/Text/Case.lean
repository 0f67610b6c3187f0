import Deskhand.Text.Blank
import Deskhand.Text.CaseTable

/-!
# Letter case

Full case mapping of a text. `lower` maps character by character, except for the capital sigma, which becomes
the final form `ς` at the end of a word: a letter with case stands before it, and none after it, where
characters without a case of their own are looked past. `upper` may lengthen a text (`ß` becomes `SS`).
-/

namespace Deskhand.Text

/-- The shift that the first run containing a code point gives to it. -/
def caseShift (runs : List (Nat × Nat × Nat × Int)) (n : Nat) : Int :=
  match runs.find? fun r => r.1 ≤ n && n ≤ r.2.1 && (n - r.1) % r.2.2.1 == 0 with
  | some r => r.2.2.2
  | none => 0

/-- The lower-case form of one character, standing alone. -/
def lowerChar (c : Char) : List Char :=
  if c.toNat < 0x80 then [c.toLower]
  else if c.toNat == 0x130 then ['i', Char.ofNat 0x307]
  else [Char.ofNat (c.toNat + caseShift lowerRuns c.toNat).toNat]

/-- The upper-case form of one character. -/
def upperChar (c : Char) : List Char :=
  if c.toNat < 0x80 then [c.toUpper]
  else
    match upperSpecial.find? (·.1 == c.toNat) with
    | some r => r.2.map Char.ofNat
    | none => [Char.ofNat (c.toNat + caseShift upperRuns c.toNat).toNat]

/-- Whether the first character that has a say is a letter with case. -/
def nextIsCased : List Char → Bool
  | [] => false
  | c :: cs => if inRanges caseIgnorableRanges c then nextIsCased cs else inRanges casedRanges c

/-- Lower case of the second list, where the first one holds the characters before it, nearest first. -/
def lowerFrom : List Char → List Char → List Char
  | _, [] => []
  | before, c :: cs =>
    (if c == 'Σ' then [if nextIsCased before && !nextIsCased cs then 'ς' else 'σ'] else lowerChar c)
      ++ lowerFrom (c :: before) cs

/-- A text in lower case. -/
def lower (s : String) : String :=
  String.ofList (lowerFrom [] s.toList)

/-- A text in upper case. -/
def upper (s : String) : String :=
  String.ofList (s.toList.flatMap upperChar)

end Deskhand.Text
