import Deskhand.Block.Kind
import Deskhand.Entries
import Deskhand.Text.Blank
import Deskhand.Text.Digit
import Deskhand.Text.Pieces

/-!
# Blocks

A `Block` is one step of a scenario: its kind, an id of its own and parameters by name, all of them texts. A
parameter that is missing or blank is not set (`Block.param?`). Blocks that come without an id draw one from
an `IdSupply`, in the order in which they are made.
-/

namespace Deskhand

/-- A supply of fresh ids: how many have been drawn. -/
structure IdSupply where
  drawn : Nat := 0
  deriving DecidableEq, Repr, Inhabited

namespace IdSupply

/-- The id with a serial number. -/
def idOf (serial : Nat) : String :=
  "00000000-0000-4000-8000-" ++ Text.hexPadded 12 serial

/-- Draw the next id. -/
def draw (supply : IdSupply) : String × IdSupply :=
  (idOf (supply.drawn + 1), ⟨supply.drawn + 1⟩)

/-- The id that is given, unless it is empty, or else the next one of the supply. -/
def orDraw (given : Option String) (supply : IdSupply) : String × IdSupply :=
  match given with
  | some id => if id == "" then supply.draw else (id, supply)
  | none => supply.draw

end IdSupply

/-- One step of a scenario. -/
structure Block where
  kind : BlockKind
  id : String
  parameters : Entries String String
  deriving DecidableEq, Repr, Inhabited

namespace Block

/-- A parameter that is set: it is there and not blank. -/
def param? (b : Block) (name : String) : Option String :=
  (b.parameters.find? name).filter fun value => !Text.isBlankText value

/-- A parameter, or a default where it is not set. -/
def param (b : Block) (name default : String) : String :=
  (b.param? name).getD default

/-- The parameters on one line. -/
def description (b : Block) : String :=
  Text.join ", " (b.parameters.map fun e => e.1 ++ ": " ++ e.2)

/-- Whether a block decides when its scenario runs. -/
def isTrigger (b : Block) : Bool :=
  b.kind.isTrigger

end Block

end Deskhand
