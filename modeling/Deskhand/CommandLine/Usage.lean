import Deskhand.Fields
import Deskhand.Number.Integer
import Deskhand.Text.Digit

/-!
# The usage of a command line

A command line is read level by level. A `Usage` says what a level takes: options, and then one operand, the
name of a subcommand, or neither. `Words.read` first tells options from operands (`Usage.classify`), then
takes them in their order (`Usage.take`), and goes on with the usage of the subcommand.

An option may be shortened as long as it stays clear which one is meant, its value may follow it behind an
equals sign or as the next word, and options of one letter may stand together. A double dash makes operands of
all words behind it. A word that begins with a dash is still an operand if it is a number or holds a blank.
-/

namespace Deskhand

/-- What an option is for. -/
inductive OptionUse where
  /-- It asks how the program is used. -/
  | help
  /-- It is there or not. -/
  | flag
  /-- It has a text. -/
  | text
  /-- It has an integer. -/
  | number
  deriving DecidableEq, Repr, Inhabited

/-- An option: its name behind two dashes and, unless it has a value, its letter behind one. -/
structure OptionRule where
  name : String
  letter : Option Char := none
  use : OptionUse := .flag
  isRequired : Bool := false
  deriving DecidableEq, Repr, Inhabited

/-- What a level takes besides options. -/
inductive Operands where
  | none
  | one
  | subcommand (names : List String)
  deriving DecidableEq, Repr, Inhabited

/-- What a level takes. -/
structure Usage where
  options : List OptionRule := []
  operands : Operands := .none
  deriving DecidableEq, Repr, Inhabited

/-- Why a command line asks for nothing that can be done. -/
inductive Interruption where
  /-- It asks how the program is used. -/
  | help
  /-- It is not a use of the program. -/
  | misuse
  deriving DecidableEq, Repr, Inhabited

/-- What a word is taken for. -/
inductive Word where
  | operand
  /-- The double dash behind which every word is an operand. -/
  | mark
  | option (rule : OptionRule) (value : Option String)
  /-- Options of one letter, the first of which is known. -/
  | letters (letters : List Char)
  | unknown
  deriving DecidableEq, Repr, Inhabited

/-- What a command line says: the names of the subcommands, the operand and the values of the options. -/
structure Words where
  path : List String := []
  operand : Option String := none
  values : Fields := []
  /-- Whether there are words that mean nothing. -/
  hasExtra : Bool := false
  deriving Inhabited

/-- What was taken of the words of a level. -/
structure Taken where
  words : Words
  /-- The option whose value the next word has to be. -/
  awaits : Option OptionRule := none
  /-- Whether the last word was the operand. -/
  isBehindOperand : Bool := false
  deriving Inhabited

namespace Usage

/-- The option that asks how a level is used. -/
def helpRule : OptionRule := { name := "help", letter := some 'h', use := .help }

/-- All options of a level. -/
def rules (u : Usage) : List OptionRule :=
  helpRule :: u.options

/-- The option of a letter. -/
def byLetter? (u : Usage) (c : Char) : Option OptionRule :=
  u.rules.find? fun rule => rule.letter == some c

/-- The options that a name may be short for: the one of just that name, or else all whose names begin with
it. -/
def byName (u : Usage) (name : String) : List OptionRule :=
  match u.rules.find? (·.name == name) with
  | some rule => [rule]
  | none => u.rules.filter fun rule => rule.name.startsWith name

/-! ## Telling options from operands -/

/-- Whether characters are decimal digits, at least one of them. -/
def isDigits (cs : List Char) : Bool :=
  !cs.isEmpty && cs.all fun c => (Text.digitValue? c).isSome

/-- Whether a word behind its dash is a number; a line break may end it. -/
def isNumber (cs : List Char) : Bool :=
  let cs := if cs.getLast? == some '\n' then cs.dropLast else cs
  isDigits cs ||
    match cs.dropWhile fun c => (Text.digitValue? c).isSome with
    | '.' :: fraction => isDigits fraction
    | _ => false

/-- A word that begins with a dash and is no option. -/
def unlessOperand (cs : List Char) : Word :=
  if isNumber cs || cs.contains ' ' then .operand else .unknown

/-- What a word is taken for, in front of a double dash. -/
def word (u : Usage) (s : String) : Except Interruption Word :=
  match s.toList with
  | '-' :: '-' :: cs =>
    let (name, value) := Text.cutAt '=' (String.ofList cs)
    match u.byName name with
    | [] => .ok (unlessOperand ('-' :: cs))
    | [rule] => .ok (.option rule value)
    | _ => .error .misuse
  | '-' :: c :: cs => .ok (if (u.byLetter? c).isSome then .letters (c :: cs) else unlessOperand (c :: cs))
  | _ => .ok .operand

/-- The words of a level with what they are taken for. -/
def classify (u : Usage) : List String → Except Interruption (List (String × Word))
  | [] => .ok []
  | "--" :: rest => .ok (("--", .mark) :: rest.map fun s => (s, .operand))
  | s :: rest => do
    let w ← u.word s
    return (s, w) :: (← u.classify rest)

/-! ## Taking the words -/

/-- The options of letters that stand together, and whether all letters are known. -/
def spelled (u : Usage) : List Char → Except Interruption (List OptionRule × Bool)
  | [] => .ok ([], true)
  | c :: rest =>
    match u.byLetter? c with
    | none => if c == '-' then .error .misuse else .ok ([], false)
    | some rule =>
      if rest.head? == some '=' then .error .misuse
      else (u.spelled rest).map fun (rules, known) => (rule :: rules, known)

/-- Note an option that has no value. -/
def switchOn (ws : Words) (rule : OptionRule) : Except Interruption Words :=
  match rule.use with
  | .help => .error .help
  | .flag => .ok { ws with values := ws.values.put rule.name (.bool true) }
  | .text | .number => .error .misuse

/-- Note an option with its value. -/
def give (ws : Words) (rule : OptionRule) (value : String) : Except Interruption Words :=
  match rule.use with
  | .help | .flag => .error .misuse
  | .text => .ok { ws with values := ws.values.put rule.name (.text value) }
  | .number =>
    match Integer.read? value with
    | some n => .ok { ws with values := ws.values.put rule.name (.int n) }
    | none => .error .misuse

/-- Whether an option has a value. -/
def needsValue (rule : OptionRule) : Bool :=
  rule.use == .text || rule.use == .number

/-- Take one word. A double dash belongs to an operand that it stands beside. -/
def step (u : Usage) (t : Taken) (s : String) (w : Word) : Except Interruption Taken :=
  let ws := t.words
  match t.awaits, w with
  | some rule, .operand => (give ws rule s).map fun ws => ⟨ws, none, false⟩
  | some _, _ => .error .misuse
  | none, .option rule value =>
    match value with
    | some value => (give ws rule value).map fun ws => ⟨ws, none, false⟩
    | none =>
      if needsValue rule then .ok ⟨ws, some rule, false⟩
      else (switchOn ws rule).map fun ws => ⟨ws, none, false⟩
  | none, .letters cs => do
    let (rules, known) ← u.spelled cs
    let ws ← rules.foldlM switchOn ws
    return ⟨{ ws with hasExtra := ws.hasExtra || !known }, none, false⟩
  | none, .mark =>
    if u.operands == .one && (ws.operand.isNone || t.isBehindOperand) then .ok ⟨ws, none, false⟩
    else .ok ⟨{ ws with hasExtra := true }, none, false⟩
  | none, .operand =>
    if u.operands == .one && ws.operand.isNone then .ok ⟨{ ws with operand := some s }, none, true⟩
    else .ok ⟨{ ws with hasExtra := true }, none, false⟩
  | none, .unknown => .ok ⟨{ ws with hasExtra := true }, none, false⟩

/-- The name of the subcommand that a word is taken for, if the level has subcommands and no option awaits the
word. -/
def subcommand? (u : Usage) (t : Taken) (w : Word) : Option (List String) :=
  match u.operands, t.awaits, w with
  | .subcommand names, none, .operand | .subcommand names, none, .mark => some names
  | _, _, _ => none

/-- Take the words of a level in their order: what they say, and the words behind the name of a subcommand. -/
def take (u : Usage) : List (String × Word) → Taken → Except Interruption (Words × Option (List String))
  | [], t => if t.awaits.isSome then .error .misuse else .ok (t.words, none)
  | (s, w) :: rest, t =>
    match u.subcommand? t w with
    | some names =>
      if names.contains s then
        .ok ({ t.words with path := t.words.path ++ [s] }, some (rest.map (·.1)))
      else .error .misuse
    | none => do u.take rest (← u.step t s w)

/-- Whether everything that a level has to have is there. -/
def isComplete (u : Usage) (ws : Words) : Bool :=
  (u.operands != .one || ws.operand.isSome)
    && u.rules.all fun rule => !rule.isRequired || ws.values.has rule.name

end Usage

namespace Words

/-- Read the words of a level and of the levels below it, at most as many as are given. -/
def readFrom (usage : List String → Usage) : Nat → List String → Words → Except Interruption Words
  | 0, _, _ => .error .misuse
  | depth + 1, args, ws => do
    let u := usage ws.path
    let (ws, deeper) ← u.take (← u.classify args) { words := ws }
    let ws ← match deeper with
      | some args => readFrom usage depth args ws
      | none => pure ws
    if u.isComplete ws then return ws else throw .misuse

/-- Read a command line by the usage of each path of subcommands. -/
def read (usage : List String → Usage) (args : List String) : Except Interruption Words := do
  let ws ← readFrom usage (args.length + 1) args {}
  if ws.hasExtra then throw .misuse else return ws

end Words

end Deskhand
