import Deskhand.Block.Basic
import Deskhand.Fault
import Deskhand.Json.Encoding
import Deskhand.Json.Reader
import Deskhand.Json.Writer

/-!
# Chains of blocks

A chain is stored as a JSON list of records with the fields `Type`, `Id` and `Parameters`. `Chain.read` takes
what it can from a text: a text that is no list gives no blocks, and an element without a known type is left
out; only an integer literal of more digits than are read is refused. `Chain.write` is the stored form.
`Chain.shapeFault?` says what keeps a list of blocks from being a chain that can run: a trigger first, and
nothing but actions after it.
-/

namespace Deskhand.Chain

/-- The value under a capitalised name if that name is there at all, otherwise under the name in lower case.
-/
def field (name lowerName : String) (item : Entries String Value) : Value :=
  ((item.find? name).orElse fun _ => item.find? lowerName).getD .null

/-- A parameter as text; nothing is the empty text. -/
def parameterText : Value → String
  | .null => ""
  | v => v.toText

/-- The parameters of a stored block. -/
def parametersOf : Value → Entries String String
  | .record fields => fields.map fun f => (f.1, parameterText f.2)
  | _ => []

/-- The id of a stored block, unless the value counts as nothing. -/
def idOf? (v : Value) : Option String :=
  if v.isTruthy then some v.toText else none

/-- The kind of a stored block. -/
def kindOf? : Value → Option BlockKind
  | .text tag => BlockKind.ofTag? tag
  | _ => none

/-- The block of one element of a stored chain, if it has a known type. -/
def readElement (supply : IdSupply) : Value → Option (Block × IdSupply)
  | .record item =>
    (kindOf? (field "Type" "type" item)).map fun kind =>
      let (id, supply) := supply.orDraw (idOf? (field "Id" "id" item))
      (⟨kind, id, parametersOf (field "Parameters" "parameters" item)⟩, supply)
  | _ => none

/-- The blocks of the elements of a stored chain, in order. -/
def readElements (supply : IdSupply) : List Value → List Block × IdSupply
  | [] => ([], supply)
  | v :: rest =>
    match readElement supply v with
    | some (b, supply) =>
      let (bs, supply) := readElements supply rest
      (b :: bs, supply)
    | none => readElements supply rest

/-- The blocks of a value; one that is no list has none. -/
def ofValue (supply : IdSupply) : Value → List Block × IdSupply
  | .list items => readElements supply items
  | _ => ([], supply)

/-- Read the blocks of a stored text. -/
def read (supply : IdSupply) (s : String) : Except Integer.Refusal (List Block × IdSupply) :=
  match Json.read s with
  | .ok v => .ok (ofValue supply v)
  | .error .malformed => .ok ([], supply)
  | .error (.tooLong n) => .error (.tooLong n)

/-- Why a stored text has no blocks at all. -/
inductive TextFault where
  | malformed
  /-- It is JSON, but a value of this kind and no list. -/
  | noList (kind : String)
  deriving DecidableEq, Repr

/-- The wording of a fault in a stored text. -/
def TextFault.message : TextFault → String
  | malformed => "Failed to parse block chain: the text is not JSON"
  | noList kind => "Block chain must be a JSON array, got " ++ kind

/-- Why a stored text has no blocks at all, unless it is empty or refused. -/
def textFault? (s : String) : Option TextFault :=
  if s == "" then none
  else
    match Json.read s with
    | .ok (.list _) | .error (.tooLong _) => none
    | .ok v => some (.noList v.kindName)
    | .error .malformed => some .malformed

/-- Read the blocks of stored bytes, in whatever form of Unicode they are. -/
def readBytes (supply : IdSupply) (bytes : List Nat) : Except Integer.Refusal (List Block × IdSupply) :=
  match Json.decode? bytes with
  | some s => read supply s
  | none => .ok ([], supply)

/-- A block as it is stored. -/
def record (b : Block) : Value :=
  .record [("Type", .text b.kind.tag), ("Id", .text b.id),
    ("Parameters", .record (b.parameters.map fun e => (e.1, .text e.2)))]

/-- The stored form of a chain. -/
def write (blocks : List Block) : String :=
  Json.indented (.list (blocks.map record))

/-- The text of a chain that is given as a text or as any other value. -/
def given : Value → String
  | .text s => s
  | v => Json.compact v

/-- What keeps a list of blocks from running. -/
inductive ShapeFault where
  | empty
  /-- The first block is an action. -/
  | noTrigger (kind : BlockKind)
  /-- A block behind the first one, at this position, is a trigger. -/
  | triggerInside (position : Nat) (kind : BlockKind)
  deriving DecidableEq, Repr

/-- The wording of a fault in the shape of a chain. -/
def ShapeFault.message : ShapeFault → String
  | empty => "no blocks"
  | noTrigger kind => "first block must be a trigger, got " ++ kind.tag
  | triggerInside n kind => "block " ++ toString n ++ " must be an action, got " ++ kind.tag

/-- The first trigger among the blocks behind the first one, with positions counted from `n`. -/
def innerTrigger? (n : Nat) : List Block → Option ShapeFault
  | [] => none
  | b :: rest => if b.isTrigger then some (.triggerInside n b.kind) else innerTrigger? (n + 1) rest

/-- What keeps a list of blocks from running, if anything does. -/
def shapeFault? : List Block → Option ShapeFault
  | [] => some .empty
  | b :: rest => if b.isTrigger then innerTrigger? 1 rest else some (.noTrigger b.kind)

end Deskhand.Chain
