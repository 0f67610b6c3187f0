import Deskhand.Run.Context
import Deskhand.Text.Digit

/-!
# Templates

A template is a text with markers. `{LastResult}` stands for the value recorded last, and a block id in braces
for the value recorded under it. `Template.render` first puts the last value in, and then resolves every
reference in the resulting text. A template that asks for the last value when none was recorded has nothing to
say (`Rendering.skip`).

A reference is made of 36 hexadecimal digits and dashes in braces. It names a block if 32 of them are digits,
wherever the dashes stand; then it stands for the value of the block with these digits in the usual grouping,
or for the empty text. Otherwise it is left as it is.
-/

namespace Deskhand

/-- Put texts in the place of marked stretches of a list. `marked?` looks at the start of a list and gives the
length of a marked stretch and the text for it; the first argument counts characters still to be passed over.
-/
def substitute (marked? : List Char → Option (Nat × List Char)) : Nat → List Char → List Char
  | _, [] => []
  | n + 1, _ :: cs => substitute marked? n cs
  | 0, c :: cs =>
    match marked? (c :: cs) with
    | some (size, new) => new ++ substitute marked? (size - 1) cs
    | none => c :: substitute marked? 0 cs

namespace Template

/-- The marker for the value recorded last. -/
def lastMarker : List Char :=
  "\x7bLastResult\x7d".toList

/-- The number of characters between the braces of a reference. -/
def referenceLength : Nat := 36

/-- Whether a character may stand in a reference. -/
def inReference (c : Char) : Bool :=
  c == '-' || (Text.hexDigit? c).isSome

/-- The characters between the braces, if the list starts with a reference. -/
def referenceAt? : List Char → Option (List Char)
  | '{' :: cs =>
    let inner := cs.take referenceLength
    if inner.length == referenceLength && inner.all inReference && cs[referenceLength]? == some '}' then
      some inner
    else none
  | _ => none

/-- The block id that a reference names: its 32 digits in lower case, grouped by dashes. -/
def blockId? (inner : List Char) : Option String :=
  let digits := inner.filterMap fun c => (Text.hexDigit? c).map Text.hexDigit
  if digits.length == 32 then
    let part := fun a n => String.ofList ((digits.drop a).take n)
    some (part 0 8 ++ "-" ++ part 8 4 ++ "-" ++ part 12 4 ++ "-" ++ part 16 4 ++ "-" ++ part 20 12)
  else none

/-- The marked stretch at the start of a list that stands for the value recorded last. -/
def lastAt? (new : List Char) (cs : List Char) : Option (Nat × List Char) :=
  (Text.afterChars? lastMarker cs).map fun _ => (lastMarker.length, new)

/-- The reference at the start of a list, with the text it stands for; a reference that names no block stands
for itself. -/
def referenceText? (value : String → String) (cs : List Char) : Option (Nat × List Char) :=
  (referenceAt? cs).map fun inner =>
    let size := referenceLength + 2
    match blockId? inner with
    | some id => (size, (value id).toList)
    | none => (size, cs.take size)

/-- Put the value recorded last into a template. -/
def withLast (new : String) (template : String) : String :=
  String.ofList (substitute (lastAt? new.toList) 0 template.toList)

/-- Resolve the references of a text. -/
def withReferences (value : String → String) (template : String) : String :=
  String.ofList (substitute (referenceText? value) 0 template.toList)

/-- Whether a template asks for the value recorded last. -/
def asksForLast (template : String) : Bool :=
  Text.occursIn lastMarker template.toList

end Template

/-- What a template renders to. -/
inductive Rendering where
  | text (s : String)
  /-- The template asks for a value and none was recorded. -/
  | skip
  deriving DecidableEq, Repr

namespace Template

/-- Render a template from what a run has recorded. -/
def render (template : String) (context : Context) (format : ListFormat) : Rendering :=
  let resolve := withReferences fun id => formatValue format ((context.find? id).getD .null)
  if asksForLast template then
    match context.lastOutput with
    | .null => .skip
    | v => .text (resolve (withLast (formatValue format v) template))
  else .text (resolve template)

end Template

end Deskhand
