/-!
# Text inside markup

`Text.markup` writes a text so that it stands for itself inside markup: the characters that mark tags,
entities and attribute values are written as entities.
-/

namespace Deskhand.Text

/-- One character inside markup. -/
def markupChar (c : Char) : List Char :=
  match c with
  | '&' => "&amp;".toList
  | '<' => "&lt;".toList
  | '>' => "&gt;".toList
  | '\x22' => "&quot;".toList
  | '\x27' => "&#x27;".toList
  | _ => [c]

/-- A text inside markup. -/
def markup (s : String) : String :=
  String.ofList (s.toList.flatMap markupChar)

end Deskhand.Text
