import Deskhand.Text.Blank
import Deskhand.Text.Case
import Deskhand.Text.Pieces

/-!
# Chat commands

A command is what a chat message asks for, without regard to how it is spelled: `normalCommand` drops slashes,
the name of the bot behind the first word, blanks at the ends, and letter case. `isMenuName` says which
commands a menu can hold, and `menuDescription` cuts a description to the length that a menu takes.
-/

namespace Deskhand.Chat

/-- The normal form of a command. -/
def normalCommand (text : String) : String :=
  let (first, rest) := Text.cutAt ' ' (Text.trim text)
  let name := (Text.cutAt '@' first).1
  let whole :=
    match rest with
    | some more => if more == "" then name else name ++ " " ++ more
    | none => name
  Text.lower (Text.trim (Text.replaceChar '/' "" whole))

/-- The length that a description in a menu may have. -/
def descriptionLimit : Nat := 256

/-- A description cut to the length that a menu takes. -/
def menuDescription (description : String) : String :=
  if description.length > descriptionLimit then Text.take (descriptionLimit - 3) description ++ "..."
  else description

/-- Whether a character may stand in the name of a menu command. -/
def isMenuChar (c : Char) : Bool :=
  ('a' ≤ c && c ≤ 'z') || ('0' ≤ c && c ≤ '9') || c == '_'

/-- Whether a command can stand in a menu: one to 32 small letters, digits and underscores. A line break may
follow. -/
def isMenuName (command : String) : Bool :=
  let cs := command.toList
  let cs := if cs.getLast? == some '\n' then cs.dropLast else cs
  1 ≤ cs.length && cs.length ≤ 32 && cs.all isMenuChar

end Deskhand.Chat
