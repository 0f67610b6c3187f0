import Deskhand.Ordered
import Deskhand.Text.Blank
import Deskhand.Text.Case
import Deskhand.Text.Digit
import Deskhand.Text.Pieces

/-!
# Names of keys

Keys and modifiers are compared by normal names. `normalKey` brings the many spellings of a key to one;
`normalModifiers` brings a combination such as `Shift + Ctrl` to its modifiers in order, each once.
`KeyPress.name?` names the physical key of an event, whatever Shift or Ctrl made of its character.
-/

namespace Deskhand

namespace Keyboard

/-- The modifier that a key name stands for. -/
def modifierAliases : List (String × String) :=
  [("control", "ctrl"), ("ctrl", "ctrl"), ("ctrl_l", "ctrl"), ("ctrl_r", "ctrl"), ("shift", "shift"),
   ("shift_l", "shift"), ("shift_r", "shift"), ("alt", "alt"), ("alt_l", "alt"), ("alt_r", "alt"),
   ("alt_gr", "alt")]

/-- Other names of keys. -/
def keyAliases : List (String × String) :=
  [("escape", "esc"), ("return", "enter"), ("del", "delete"), ("spacebar", "space"), ("pgup", "pageup"),
   ("pgdn", "pagedown"), ("next", "pagedown"), ("prior", "pageup"), ("back", "backspace")]

/-- The characters that Shift produces, and those of the same keys without it. -/
def shiftedChars : List (Char × Char) :=
  [('!', '1'), ('@', '2'), ('#', '3'), ('$', '4'), ('%', '5'), ('^', '6'), ('&', '7'), ('*', '8'), ('(', '9'),
   (')', '0'), ('_', '-'), ('+', '='), ('\x7b', '['), ('\x7d', ']'), ('|', '\\'), (':', ';'), ('\x22', '\x27'),
   ('<', ','), ('>', '.'), ('?', '/'), ('~', '\x60')]

/-- The modifier of a key name in lower case. -/
def modifier? (name : String) : Option String :=
  modifierAliases.lookup name

/-- The digit of a name made of `d` and a digit. -/
def digitKey? (name : String) : Option String :=
  match name.toList with
  | ['d', c] | ['d', c, '\n'] => (Text.digitValue? c).map fun _ => String.singleton c
  | _ => none

/-- The normal name of a key: trimmed, in lower case and without underscores; digit keys by their digit. -/
def normalKey (key : String) : String :=
  let name := Text.replaceChar '_' "" (Text.lower (Text.trim key))
  match digitKey? name with
  | some digit => digit
  | none => (keyAliases.lookup name).getD name

/-- The normal name of one part of a combination. -/
def normalPart (part : String) : String :=
  let name := Text.lower (Text.trim part)
  (modifier? name).getD name

/-- The modifiers of a combination, in order. -/
def modifierSet (modifiers : String) : List String :=
  Ordered.ofList (((Text.splitOn '+' modifiers).filter fun part => !Text.isBlankText part).map normalPart)

/-- The normal form of a combination of modifiers. -/
def normalModifiers (modifiers : String) : String :=
  Text.join "+" (modifierSet modifiers)

end Keyboard

/-- A combination that starts scenarios: a key and its modifiers, by their normal names. -/
structure KeyCombination where
  key : String
  modifiers : String
  deriving DecidableEq, Repr, Inhabited

namespace KeyCombination

/-- The combination of a key and modifiers in any spelling. -/
def ofTexts (key modifiers : String) : KeyCombination :=
  ⟨Keyboard.normalKey key, Keyboard.normalModifiers modifiers⟩

end KeyCombination

/-- What a keyboard reports of a key: a name, a character, a code, whichever it knows. -/
structure KeyPress where
  name : Option String := none
  char : Option String := none
  code : Option Int := none
  deriving DecidableEq, Repr, Inhabited

namespace KeyPress

/-- Whether a code is that of a letter or digit key. -/
def isLetterOrDigit (code : Int) : Bool :=
  (0x30 ≤ code && code ≤ 0x39) || (0x41 ≤ code && code ≤ 0x5A)

/-- The name of a character key: control characters by their letter, shifted ones by the key below. -/
def charName? (char : String) : Option String :=
  match char.toList with
  | [c] =>
    if c.toNat < 0x20 then
      if 1 ≤ c.toNat && c.toNat ≤ 26 then some (String.singleton (Char.ofNat (c.toNat + 0x60))) else none
    else
      match Keyboard.shiftedChars.lookup c with
      | some plain => some (String.singleton plain)
      | none => some (Text.lower char)
  | _ => some (Text.lower char)

/-- The name of the physical key. With `byCode`, letter and digit keys are named by their code. -/
def name? (byCode : Bool) (k : KeyPress) : Option String :=
  match k.name.filter (· != "") with
  | some name => some name
  | none =>
    match k.code.filter fun code => byCode && isLetterOrDigit code with
    | some code => some (String.singleton (Char.ofNat code.toNat).toLower)
    | none =>
      match k.char.filter (· != "") with
      | some char => charName? char
      | none => k.code.map fun code => "vk" ++ toString code

end KeyPress

end Deskhand
