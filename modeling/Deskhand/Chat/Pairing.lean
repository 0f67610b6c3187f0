import Deskhand.Calendar.Instant
import Deskhand.Text.Blank
import Deskhand.Text.Case

/-!
# Pairing

A chat is bound to a bot by a code that is valid for a while. A fresh code has two groups of three letters and
digits, none of which looks like another one; `CodeDice` throws them.
-/

namespace Deskhand

/-- A source of letters for codes: throws that are repeated in turn, or else counting up. -/
structure CodeDice where
  throws : List Nat := []
  thrown : Nat := 0
  deriving DecidableEq, Repr, Inhabited

namespace Pairing

/-- The letters and digits of codes. -/
def alphabet : String := "ABCDEFGHJKLMNPQRSTUVWXYZ23456789"

/-- The letter of a throw. -/
def letter (n : Nat) : Char :=
  alphabet.toList.getD (n % 32) 'A'

/-- A throw of the dice. -/
def throwLetter (dice : CodeDice) : Char × CodeDice :=
  let n := if dice.throws.isEmpty then dice.thrown else dice.throws.getD (dice.thrown % dice.throws.length) 0
  (letter n, { dice with thrown := dice.thrown + 1 })

/-- A number of throws. -/
def throwLetters : Nat → CodeDice → List Char × CodeDice
  | 0, dice => ([], dice)
  | n + 1, dice =>
    let (c, dice) := throwLetter dice
    let (cs, dice) := throwLetters n dice
    (c :: cs, dice)

/-- A fresh code. -/
def freshCode (dice : CodeDice) : String × CodeDice :=
  let (first, dice) := throwLetters 3 dice
  let (second, dice) := throwLetters 3 dice
  (String.ofList (first ++ '-' :: second), dice)

/-- The code that is given, trimmed and in upper case, or a fresh one if it is blank. -/
def codeOr (given : Option String) (dice : CodeDice) : String × CodeDice :=
  match given.filter fun code => !Text.isBlankText code with
  | some code => (Text.upper (Text.trim code), dice)
  | none => freshCode dice

end Pairing

/-- A code that binds a chat until an instant. -/
structure Pairing where
  code : String
  expires : Instant
  deriving DecidableEq, Repr, Inhabited

namespace Pairing

/-- Whether a pairing is still valid. -/
def isValid (p : Pairing) (now : Instant) : Bool :=
  now < p.expires

/-- Whether a message is the one that binds its chat. -/
def accepts (p : Pairing) (message : String) : Bool :=
  Text.lower (Text.trim message) == Text.lower ("/pair " ++ p.code)

end Pairing

end Deskhand
