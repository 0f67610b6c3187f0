import Deskhand.Yaml.Scalar

/-!
# YAML documents

A `Node` is a part of a document as it is written: a scalar with its text, a sequence or a mapping, each with
the tag that says what it stands for. A `Datum` is what it stands for; the keys of its mappings may be any
scalars. `Node.datum` goes from one to the other: it reads scalars, merges mappings into others, and lets the
later one of two equal keys win.
-/

namespace Deskhand.Yaml

/-- A part of a document as it is written. -/
inductive Node where
  /-- A scalar; a plain one has no quotation marks. -/
  | scalar (tag : Option String) (isPlain : Bool) (text : String)
  | sequence (tag : Option String) (items : List Node)
  | mapping (tag : Option String) (pairs : List (Node × Node))
  deriving Inhabited

/-- A part of a document by what it stands for. -/
inductive Datum where
  | scalar (v : Value)
  | sequence (items : List Datum)
  | mapping (pairs : List (Value × Datum))
  deriving Inhabited

/-- Why a document cannot be read. -/
inductive Refusal where
  /-- The text is no document, or a part of it stands for nothing that is known. -/
  | malformed
  /-- A scalar of the right shape has no value. -/
  | fault (reason : Fault)
  deriving Inhabited

namespace Node

/-- The node of a place where nothing is written. -/
def empty : Node := scalar none true ""

/-- A node with a tag, if one is given. -/
def withTag (n : Node) (tag : Option String) : Node :=
  match tag, n with
  | none, n => n
  | some t, scalar _ p s => scalar (some t) p s
  | some t, sequence _ xs => sequence (some t) xs
  | some t, mapping _ xs => mapping (some t) xs

/-- The kind of scalar that a tag asks for. -/
def kindOfTag? : String → Option ScalarKind
  | "!!null" => some .null
  | "!!bool" => some .truth
  | "!!int" => some .integer
  | "!!float" => some .number
  | "!!timestamp" => some .time
  | "!!str" => some .text
  | _ => none

/-- The kind of a scalar. -/
def scalarKind (tag : Option String) (isPlain : Bool) (s : String) : Except Refusal ScalarKind :=
  match tag with
  | none => .ok (if isPlain then Scalar.kindOf s else .text)
  | some "!" => .ok (Scalar.kindOf s)
  | some t =>
    match kindOfTag? t with
    | some kind => .ok kind
    | none => .error .malformed

/-- What a scalar stands for. -/
def scalarDatum (tag : Option String) (isPlain : Bool) (s : String) : Except Refusal Value := do
  let kind ← scalarKind tag isPlain s
  if kind == .default then throw .malformed
  (Scalar.value kind s).mapError .fault

/-- Whether a collection may have a tag. -/
def isTagOf (name : String) (tag : Option String) : Bool :=
  tag.all fun t => t == name || t == "!"

/-- Whether a key asks to merge its value in. -/
def isMerge : Node → Bool
  | scalar tag isPlain s => (scalarKind tag isPlain s).toOption == some .merge
  | _ => false

/-- A key as a value; collections are no keys. -/
def key : Node → Except Refusal Value
  | scalar _ true "=" => .ok (.text "=")
  | scalar tag isPlain s => scalarDatum tag isPlain s
  | _ => .error .malformed

/-- The pairs of a mapping that is merged in. -/
def mergedPairs : Datum → Except Refusal (List (Value × Datum))
  | .mapping pairs => .ok pairs
  | _ => .error .malformed

/-- The pairs that a merge brings in; of several mappings the earlier ones win. -/
def merged : Datum → Except Refusal (List (Value × Datum))
  | .sequence items => do return (← items.reverse.mapM mergedPairs).flatten
  | d => mergedPairs d

/-- Put a pair behind others, in the place of one with an equal key. -/
def putPair (pairs : List (Value × Datum)) (p : Value × Datum) : List (Value × Datum) :=
  if pairs.any fun q => q.1.scalarEqual p.1 then
    pairs.map fun q => if q.1.scalarEqual p.1 then (q.1, p.2) else q
  else pairs ++ [p]

mutual

/-- What a node stands for. -/
def datum : Node → Except Refusal Datum
  | scalar tag isPlain s => do return .scalar (← scalarDatum tag isPlain s)
  | sequence tag items =>
    if isTagOf "!!seq" tag then do return .sequence (← itemData items) else .error .malformed
  | mapping tag pairs =>
    if isTagOf "!!map" tag then do
      let (brought, own) ← pairData pairs
      return .mapping ((brought ++ own).foldl putPair [])
    else .error .malformed
termination_by structural n => n

/-- What the items of a sequence stand for. -/
def itemData : List Node → Except Refusal (List Datum)
  | [] => .ok []
  | n :: rest => do return (← datum n) :: (← itemData rest)
termination_by structural ns => ns

/-- What the pairs of a mapping stand for: those merged in, and its own. -/
def pairData : List (Node × Node) → Except Refusal (List (Value × Datum) × List (Value × Datum))
  | [] => .ok ([], [])
  | (k, v) :: rest => do
    let d ← datum v
    if isMerge k then
      let here ← merged d
      let (brought, own) ← pairData rest
      return (here ++ brought, own)
    else
      let name ← key k
      let (brought, own) ← pairData rest
      return (brought, (name, d) :: own)
termination_by structural ps => ps

end

end Node

namespace Datum

/-- A key as the text under which it is known in a record. -/
def keyText : Value → String
  | .null => "null"
  | .bool true => "true"
  | .bool false => "false"
  | v => v.toText

mutual

/-- A datum as a value, with every key as a text. -/
def value : Datum → Value
  | scalar v => v
  | sequence items => .list (values items)
  | mapping pairs => .record (fields pairs)
termination_by structural d => d

/-- The items of a sequence as values. -/
def values : List Datum → List Value
  | [] => []
  | d :: rest => value d :: values rest
termination_by structural ds => ds

/-- The pairs of a mapping as fields. -/
def fields : List (Value × Datum) → List (String × Value)
  | [] => []
  | (k, d) :: rest => (keyText k, value d) :: fields rest
termination_by structural ps => ps

end

/-- Whether a datum is no mapping, or has texts for keys only. -/
def hasTextKeys : Datum → Bool
  | mapping pairs => pairs.all fun p => (p.1 matches .text _)
  | _ => true

/-- The datum under a key of a mapping. -/
def field? (name : String) : Datum → Option Datum
  | mapping pairs => (pairs.find? fun p => p.1.scalarEqual (.text name)).map (·.2)
  | _ => none

end Datum

end Deskhand.Yaml
