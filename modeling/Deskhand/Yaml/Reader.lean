import Deskhand.Yaml.Node

/-!
# Reading YAML

`Yaml.read` reads the one document of a text. Collections are written with indentation (`block`) or with
brackets and commas (`flowItems`, `flowPairs`); scalars are plain, quoted, or blocks of lines. The reader
is a function on a `Source`, which is what is left of the text with the position of its first character and
the nodes that were given names. It has no value where the text is no document. Every step of it that calls
itself has used up a character, so the number of characters bounds its depth (`Source.fuel`).
-/

namespace Deskhand.Yaml

/-- What is left of a text: its characters, where they start, and the nodes that were named before. -/
structure Source where
  rest : List Char
  line : Nat := 0
  column : Nat := 0
  anchors : List (String × Node) := []
  deriving Inhabited

/-- A function that reads a part of a source. -/
abbrev Read := StateT Source Option

/-- Whether a character breaks a line. -/
def isBreak (c : Char) : Bool :=
  c == '\n' || c == '\x85' || c == '\u2028' || c == '\u2029'

/-- Whether a character ends a word: a blank, a tab, a line break. -/
def isSpace (c : Char) : Bool :=
  c == ' ' || c == '\t' || isBreak c

/-- Whether a word ends here. -/
def endsWord (cs : List Char) : Bool :=
  match cs with
  | [] => true
  | c :: _ => isSpace c

/-- Whether a word ends here inside brackets. -/
def endsFlowWord (cs : List Char) : Bool :=
  endsWord cs || (match cs with
    | c :: _ => [',', '[', ']', '\x7b', '\x7d'].contains c
    | [] => true)

namespace Source

/-- A source without its first character. -/
def next (s : Source) : Source :=
  match s.rest with
  | [] => s
  | c :: cs =>
    if isBreak c then { s with rest := cs, line := s.line + 1, column := 0 }
    else if c == '\ufeff' then { s with rest := cs }
    else { s with rest := cs, column := s.column + 1 }

/-- A source without a number of characters. -/
def skip : Nat → Source → Source
  | 0, s => s
  | n + 1, s => skip n s.next

/-- Whether a mark of the beginning or the end of a document stands here. -/
def atMark (s : Source) : Bool :=
  s.column == 0 && (match s.rest with
    | '-' :: '-' :: '-' :: cs | '.' :: '.' :: '.' :: cs => endsWord cs
    | _ => false)

/-- Whether nothing of the document is left. -/
def isOver (s : Source) : Bool :=
  s.rest.isEmpty || s.atMark

/-- Whether a dash of a block sequence stands here. -/
def atDash (s : Source) : Bool :=
  match s.rest with
  | '-' :: cs => endsWord cs
  | _ => false

/-- Whether a colon between key and value stands here. -/
def atColon (s : Source) : Bool :=
  match s.rest with
  | ':' :: cs => endsWord cs
  | _ => false

/-- Whether the mark of a key stands here. -/
def atQuestion (s : Source) : Bool :=
  match s.rest with
  | '?' :: cs => endsWord cs
  | _ => false

/-- A bound for the depth of reading. -/
def fuel (s : Source) : Nat :=
  2 * s.rest.length + 8

/-- A source behind blanks. -/
def skipBlanks (s : Source) : Source :=
  s.skip (s.rest.takeWhile (· == ' ')).length

/-- A source behind the end of a comment, if one starts here. -/
def skipComment (s : Source) : Source :=
  match s.rest with
  | '#' :: _ => s.skip (s.rest.takeWhile fun c => !isBreak c).length
  | _ => s

/-- A source behind blanks, comments and line breaks, each line taking one of a number. -/
def skipLines : Nat → Source → Source
  | 0, s => s
  | n + 1, s =>
    let s := s.skipBlanks.skipComment
    match s.rest with
    | c :: _ => if isBreak c then skipLines n s.next else s
    | [] => s

end Source

/-- Go to the next character that is not between words; whether a line was broken on the way. -/
def skip : Read Bool := fun s =>
  let t := s.skipLines (s.rest.length + 1)
  some (t.line != s.line, t)

/-- Read nothing, where the text is no document. -/
def refuse {α : Type} : Read α := fun _ => none

/-- Drop a number of characters. -/
def drop (n : Nat) : Read Unit := modify (Source.skip n)

/-- Drop a character that has to stand here. -/
def expect (c : Char) : Read Unit := do
  if (← get).rest.head? == some c then drop 1 else refuse

/-- Read the characters that pass a test. -/
def takeWhile (p : Char → Bool) : Read (List Char) := do
  let run := (← get).rest.takeWhile p
  drop run.length
  return run

/-! ## Scalars -/

/-- A line break as it counts in a text. -/
def breakChar (c : Char) : Char :=
  if c == '\x85' then '\n' else c

/-- What a broken line becomes inside a text: a blank for a single break, else the breaks behind the first. -/
def folded (first : Char) (more : List Char) : List Char :=
  if breakChar first != '\n' then breakChar first :: more.map breakChar
  else if more.isEmpty then [' '] else more.map breakChar

/-- Read the further line breaks between lines of a quoted text, and the blanks at their starts. -/
def quotedBreaks : Nat → Read (List Char)
  | 0 => refuse
  | n + 1 => do
    if (← get).atMark then refuse
    let _ ← takeWhile fun c => c == ' ' || c == '\t'
    match (← get).rest with
    | c :: _ =>
      if isBreak c then do
        drop 1
        return c :: (← quotedBreaks n)
      else return []
    | [] => refuse

/-- Read the blanks and line breaks inside a quoted text. -/
def quotedSpaces : Read (List Char) := do
  let blanks ← takeWhile fun c => c == ' ' || c == '\t'
  match (← get).rest with
  | [] => refuse
  | c :: cs =>
    if isBreak c then do
      drop 1
      return folded c (← quotedBreaks (cs.length + 1))
    else return blanks

/-- Read the rest of a text in single quotation marks, where a mark inside it is written twice. -/
def singleQuoted : Nat → Read (List Char)
  | 0 => refuse
  | n + 1 => do
    match (← get).rest with
    | '\x27' :: '\x27' :: _ =>
      drop 2
      return '\x27' :: (← singleQuoted n)
    | '\x27' :: _ =>
      drop 1
      return []
    | c :: _ =>
      if isSpace c then do
        let spaces ← quotedSpaces
        return spaces ++ (← singleQuoted n)
      else do
        drop 1
        return c :: (← singleQuoted n)
    | [] => refuse

/-- What a character stands for behind a backslash. -/
def escapes : List (Char × Char) :=
  [('0', '\x00'), ('a', '\x07'), ('b', '\x08'), ('t', '\t'), ('\t', '\t'), ('n', '\n'), ('v', '\x0b'),
   ('f', '\x0c'), ('r', '\r'), ('e', '\x1b'), (' ', ' '), ('\x22', '\x22'), ('\\', '\\'), ('/', '/'),
   ('N', '\x85'), ('_', '\xa0'), ('L', '\u2028'), ('P', '\u2029')]

/-- The number of digits of a numeric escape. -/
def escapeWidth? : Char → Option Nat
  | 'x' => some 2
  | 'u' => some 4
  | 'U' => some 8
  | _ => none

/-- Read what follows a backslash in a text. -/
def escape : Read (List Char) := do
  match (← get).rest with
  | c :: cs =>
    match escapes.lookup c, escapeWidth? c with
    | some d, _ =>
      drop 1
      return [d]
    | none, some width =>
      let digits := (cs.take width).filterMap Text.hexDigit?
      if digits.length == width then do
        drop (width + 1)
        return [Char.ofNat (digits.foldl (fun acc d => 16 * acc + d) 0)]
      else refuse
    | none, none =>
      if isBreak c then do
        drop 1
        return (← quotedBreaks (cs.length + 1)).map breakChar
      else refuse
  | [] => refuse

/-- Read the rest of a text in double quotation marks. -/
def doubleQuoted : Nat → Read (List Char)
  | 0 => refuse
  | n + 1 => do
    match (← get).rest with
    | '\x22' :: _ =>
      drop 1
      return []
    | '\\' :: _ =>
      drop 1
      let chars ← escape
      return chars ++ (← doubleQuoted n)
    | c :: _ =>
      if isSpace c then do
        let spaces ← quotedSpaces
        return spaces ++ (← doubleQuoted n)
      else do
        drop 1
        return c :: (← doubleQuoted n)
    | [] => refuse

/-- Whether a plain text goes on with the first of these characters. -/
def isPlain (inFlow : Bool) (cs : List Char) : Bool :=
  match cs with
  | [] => false
  | c :: more =>
    !(isSpace c || (c == ':' && (if inFlow then endsFlowWord more else endsWord more))
      || (inFlow && [',', '?', '[', ']', '\x7b', '\x7d'].contains c))

/-- Whether a plain text may start with the first of these characters. -/
def startsPlain (inFlow : Bool) (cs : List Char) : Bool :=
  match cs with
  | [] => false
  | c :: more =>
    !(isSpace c || "-?:,[]\x7b\x7d#&*!|>'\"%@\x60".toList.contains c)
      || (!endsWord more && (c == '-' || (!inFlow && (c == '?' || c == ':'))))

/-- The characters of a plain text up to the end of a word. -/
def plainWord (inFlow : Bool) : List Char → List Char
  | [] => []
  | c :: cs => if isPlain inFlow (c :: cs) then c :: plainWord inFlow cs else []

/-- Read the further line breaks inside a plain text; none at the mark of a document. -/
def plainBreaks : Nat → Read (Option (List Char))
  | 0 => return none
  | n + 1 => do
    if (← get).atMark then return none
    modify Source.skipBlanks
    match (← get).rest with
    | c :: _ =>
      if isBreak c then do
        drop 1
        return (← plainBreaks n).map fun more => c :: more
      else return some []
    | [] => return some []

/-- Read the blanks and line breaks behind a word of a plain text. -/
def plainSpaces : Read (List Char) := do
  let blanks ← takeWhile (· == ' ')
  match (← get).rest with
  | c :: cs =>
    if isBreak c then do
      drop 1
      return ((← plainBreaks (cs.length + 1)).map (folded c)).getD []
    else return blanks
  | [] => return blanks

/-- Read a plain text whose further lines stand deeper than a column. -/
def plain (inFlow : Bool) (parent : Int) : Nat → Read (List Char)
  | 0 => refuse
  | n + 1 => do
    let s ← get
    let word := if s.rest.head? == some '#' then [] else plainWord inFlow s.rest
    if word.isEmpty then return []
    drop word.length
    let spaces ← plainSpaces
    let s ← get
    if spaces.isEmpty || s.rest.head? == some '#' || (!inFlow && (s.column : Int) ≤ parent) then return word
    match ← plain inFlow parent n with
    | [] => return word
    | more => return word ++ spaces ++ more

/-- How the line breaks at the end of a block of lines are kept. -/
inductive Chomping where
  | clip
  | strip
  | keep
  deriving DecidableEq, Repr, Inhabited

/-- The indicators behind the mark of a block of lines: chomping and depth, in either order. -/
def indicators (cs : List Char) : Option (Chomping × Option Nat × Nat) :=
  let chomp? := fun c : Char =>
    if c == '+' then some Chomping.keep else if c == '-' then some Chomping.strip else none
  let depth? := fun c : Char => (Text.asciiDigit? c)
  match cs with
  | a :: b :: _ =>
    match chomp? a, depth? a, chomp? b, depth? b with
    | some k, _, _, some d => if d == 0 then none else some (k, some d, 2)
    | some k, _, _, none => some (k, none, 1)
    | none, some d, some k, _ => if d == 0 then none else some (k, some d, 2)
    | none, some d, none, _ => if d == 0 then none else some (.clip, some d, 1)
    | none, none, _, _ => some (.clip, none, 0)
  | [a] =>
    match chomp? a, depth? a with
    | some k, _ => some (k, none, 1)
    | none, some d => if d == 0 then none else some (.clip, some d, 1)
    | none, none => some (.clip, none, 0)
  | [] => some (.clip, none, 0)

/-- Read the empty lines in front of a block and find how deep its first line stands. -/
def leadingBreaks : Nat → Nat → Read (List Char × Nat)
  | 0, deepest => return ([], deepest)
  | n + 1, deepest => do
    modify Source.skipBlanks
    let s ← get
    let deepest := max deepest s.column
    match s.rest with
    | c :: _ =>
      if isBreak c then do
        drop 1
        let (more, deepest) ← leadingBreaks n deepest
        return (breakChar c :: more, deepest)
      else return ([], deepest)
    | [] => return ([], deepest)

/-- Read the empty lines between lines of a block that stands at a depth. -/
def blockBreaks (depth : Nat) : Nat → Read (List Char)
  | 0 => return []
  | n + 1 => do
    let s ← get
    drop (min ((s.rest.takeWhile (· == ' ')).length) (depth - s.column))
    match (← get).rest with
    | c :: _ =>
      if isBreak c then do
        drop 1
        return breakChar c :: (← blockBreaks depth n)
      else return []
    | [] => return []

/-- Whether a line starts with a blank or a tab. -/
def startsBlank (cs : List Char) : Bool :=
  match cs with
  | c :: _ => c == ' ' || c == '\t'
  | [] => false

/-- Read the lines of a block: its text, its last line break, and the breaks behind it. -/
def blockLines (isFolded : Bool) (depth : Nat) : Nat → List Char → Read (List Char × List Char × List Char)
  | 0, _ => refuse
  | n + 1, breaks => do
    let s ← get
    if s.column != depth || s.rest.isEmpty then return ([], [], breaks)
    let line ← takeWhile fun c => !isBreak c
    let ending := ((← get).rest.take 1).map breakChar
    drop 1
    let size := (← get).rest.length + 1
    let more ← blockBreaks depth size
    let t ← get
    if t.column == depth && !t.rest.isEmpty then
      let joint :=
        if isFolded && ending == ['\n'] && !startsBlank line && !startsBlank t.rest then
          (if more.isEmpty then [' '] else [])
        else ending
      let (text, last, behind) ← blockLines isFolded depth n more
      return (breaks ++ line ++ joint ++ text, last, behind)
    else return (breaks ++ line, ending, more)

/-- Read a block of lines below a column, from behind its mark. -/
def blockScalar (isFolded : Bool) (parent : Int) : Read Node := do
  match indicators (← get).rest with
  | none => refuse
  | some (chomping, depth, used) =>
    drop used
    modify fun s => s.skipBlanks.skipComment
    match (← get).rest with
    | c :: _ => if isBreak c then drop 1 else refuse
    | [] => pure ()
    let least := max 1 (parent + 1).toNat
    let size := (← get).rest.length + 1
    let (breaks, depth) ← match depth with
      | some d => do
        let depth := least + d - 1
        let breaks ← blockBreaks depth size
        pure (breaks, depth)
      | none => do
        let (breaks, deepest) ← leadingBreaks size 0
        pure (breaks, max least deepest)
    let (text, last, behind) ← blockLines isFolded depth (size + 1) breaks
    let ending :=
      match chomping with
      | .strip => []
      | .clip => last
      | .keep => last ++ behind
    return .scalar none false (String.ofList (text ++ ending))

/-! ## Properties and aliases -/

/-- Whether a character may stand in the name of an anchor. -/
def isNameChar (c : Char) : Bool :=
  c.isAlphanum || c == '-' || c == '_'

/-- Read the name of an anchor behind its mark. -/
def anchorName : Read String := do
  let name ← takeWhile isNameChar
  let rest := (← get).rest
  if !name.isEmpty && (endsWord rest || "?:,]\x7d%@\x60".toList.contains (rest.headD ' ')) then
    return String.ofList name
  else refuse

/-- The tag and the anchor of a node. -/
structure Properties where
  tag : Option String := none
  anchor : Option String := none
  deriving Inhabited

/-- Read the tag and the anchor in front of a node on its line, at most a number of them. -/
def properties : Nat → Properties → Read Properties
  | 0, p => return p
  | n + 1, p => do
    match (← get).rest with
    | '&' :: _ =>
      if p.anchor.isSome then refuse
      drop 1
      let name ← anchorName
      modify Source.skipBlanks
      properties n { p with anchor := some name }
    | '!' :: _ =>
      if p.tag.isSome then refuse
      let tag ← takeWhile fun c => !isSpace c && !([',', '[', ']', '\x7b', '\x7d'].contains c)
      if !endsFlowWord (← get).rest then refuse
      modify Source.skipBlanks
      properties n { p with tag := some (String.ofList tag) }
    | _ => return p

/-- Whether a node has a tag or an anchor. -/
def Properties.any (p : Properties) : Bool :=
  p.tag.isSome || p.anchor.isSome

/-- Give a node its tag and its name. A name is given once. -/
def Properties.apply (p : Properties) (n : Node) : Read Node := do
  let n := n.withTag p.tag
  match p.anchor with
  | none => return n
  | some name =>
    if ((← get).anchors.lookup name).isSome then refuse
    modify fun s => { s with anchors := (name, n) :: s.anchors }
    return n

/-- Read the node that was named before. -/
def namedNode : Read Node := do
  let name ← anchorName
  match (← get).anchors.lookup name with
  | some n => return n
  | none => refuse

/-- Read a scalar in quotation marks or a plain one. -/
def scalar (inFlow : Bool) (parent : Int) : Read Node := do
  let s ← get
  match s.rest with
  | '\x27' :: _ =>
    drop 1
    return .scalar none false (String.ofList (← singleQuoted s.fuel))
  | '\x22' :: _ =>
    drop 1
    return .scalar none false (String.ofList (← doubleQuoted s.fuel))
  | cs =>
    if startsPlain inFlow cs then return .scalar none true (String.ofList (← plain inFlow parent s.fuel))
    else refuse

/-! ## Collections -/

/-- Whether what was read is a key on the line on which it started: a colon follows there. -/
def isKeyFrom (start : Source) (atColon : Source → Bool) : Read Bool := do
  let s := (← get).skipBlanks
  return s.line == start.line && atColon s

mutual

/-- Read a node inside brackets. -/
def flowNode : Nat → Read Node
  | 0 => refuse
  | n + 1 => do
    if (← get).atMark then refuse
    let p ← properties 2 {}
    if p.any then
      let _ ← skip
    match (← get).rest with
    | '*' :: _ =>
      if p.any then refuse
      drop 1
      namedNode
    | '[' :: _ =>
      drop 1
      p.apply (.sequence none (← flowItems n))
    | '\x7b' :: _ =>
      drop 1
      p.apply (.mapping none (← flowPairs n))
    | c :: _ =>
      if p.any && [',', ']', '\x7d', ':'].contains c then p.apply .empty
      else do
        let node ← scalar true 0
        p.apply node
    | [] => refuse

/-- Read the value of a pair inside brackets; nothing may be written. -/
def flowValue : Nat → Read Node
  | 0 => refuse
  | n + 1 => do
    let _ ← skip
    match (← get).rest with
    | ',' :: _ | ']' :: _ | '\x7d' :: _ => return .empty
    | _ => flowNode n

/-- Read a key with its value, or a node that stands alone. -/
def flowEntry : Nat → Read (Node × Option Node)
  | 0 => refuse
  | n + 1 => do
    let start ← get
    match start.rest with
    | '?' :: _ =>
      drop 1
      let _ ← skip
      let key ← match (← get).rest with
        | ',' :: _ | ']' :: _ | '\x7d' :: _ | ':' :: _ => pure Node.empty
        | _ => flowNode n
      let _ ← skip
      match (← get).rest with
      | ':' :: _ =>
        drop 1
        return (key, some (← flowValue n))
      | _ => return (key, some .empty)
    | _ =>
      let key ← flowNode n
      if ← isKeyFrom start fun s => s.rest.head? == some ':' then
        modify Source.skipBlanks
        drop 1
        return (key, some (← flowValue n))
      else return (key, none)

/-- Read the rest of a sequence in brackets. -/
def flowItems : Nat → Read (List Node)
  | 0 => refuse
  | n + 1 => do
    let _ ← skip
    if (← get).rest.head? == some ']' then
      drop 1
      return []
    let (node, value) ← flowEntry n
    let item :=
      match value with
      | some v => Node.mapping none [(node, v)]
      | none => node
    let _ ← skip
    match (← get).rest with
    | ',' :: _ =>
      drop 1
      return item :: (← flowItems n)
    | ']' :: _ =>
      drop 1
      return [item]
    | _ => refuse

/-- Read the rest of a mapping in braces. -/
def flowPairs : Nat → Read (List (Node × Node))
  | 0 => refuse
  | n + 1 => do
    let _ ← skip
    if (← get).rest.head? == some '\x7d' then
      drop 1
      return []
    let (key, value) ← flowEntry n
    let pair := (key, value.getD .empty)
    let _ ← skip
    match (← get).rest with
    | ',' :: _ =>
      drop 1
      return pair :: (← flowPairs n)
    | '\x7d' :: _ =>
      drop 1
      return [pair]
    | _ => refuse

end

/-- Read a node that can be a key on one line: a collection in brackets, a scalar or the name of a node. -/
def atom (parent : Int) : Read Node := do
  let s ← get
  match s.rest with
  | '[' :: _ | '\x7b' :: _ => flowNode s.fuel
  | '*' :: _ =>
    drop 1
    namedNode
  | _ => scalar false parent

/-- Read a key of a block mapping with its properties and the colon behind it. -/
def blockKey (parent : Int) : Read Node := do
  let start ← get
  let p ← properties 2 {}
  let key ← if (← get).atColon then pure Node.empty else atom parent
  if ← isKeyFrom start Source.atColon then
    modify Source.skipBlanks
    drop 1
    p.apply key
  else refuse

mutual

/-- Read a node that stands deeper than a column. On a fresh place a collection may start; where `indentless`
is set, a sequence may stand at the column itself. -/
def block : Nat → Int → Bool → Bool → Read Node
  | 0, _, _, _ => refuse
  | n + 1, parent, fresh, indentless => do
    let crossed ← skip
    let fresh := fresh || crossed
    let start ← get
    if start.isOver then return .empty
    if (start.column : Int) ≤ parent then
      if indentless && (start.column : Int) == parent && start.atDash then
        return .sequence none (← blockItems n start.column true)
      else return .empty
    let p ← properties 2 {}
    if p.any then
      let behind ← get
      if behind.rest.head?.all fun c => isBreak c || c == '#' then
        let node ← block n parent true indentless
        p.apply node
      else blockContent n parent fresh start p
    else blockContent n parent fresh start p

/-- Read a node behind its properties on the line on which it started. -/
def blockContent : Nat → Int → Bool → Source → Properties → Read Node
  | 0, _, _, _, _ => refuse
  | n + 1, parent, fresh, start, p => do
    let s ← get
    if s.atDash then
      if fresh && !p.any then return .sequence none (← blockItems n s.column false) else refuse
    else if s.atQuestion then
      if fresh && !p.any then return .mapping none (← blockPairs n s.column) else refuse
    else if s.atColon then
      if fresh then
        drop 1
        let key ← p.apply .empty
        let value ← block n start.column true true
        return .mapping none ((key, value) :: (← blockPairs n start.column))
      else refuse
    else
      match s.rest with
      | '|' :: _ =>
        drop 1
        p.apply (← blockScalar false parent)
      | '>' :: _ =>
        drop 1
        p.apply (← blockScalar true parent)
      | _ =>
        let node ← atom parent
        if ← isKeyFrom start Source.atColon then
          if fresh then
            let key ← p.apply node
            modify Source.skipBlanks
            drop 1
            let value ← block n start.column false true
            return .mapping none ((key, value) :: (← blockPairs n start.column))
          else refuse
        else p.apply node

/-- Read the items of a block sequence at a column. -/
def blockItems : Nat → Nat → Bool → Read (List Node)
  | 0, _, _ => refuse
  | n + 1, column, indentless => do
    drop 1
    let item ← block n column true false
    let _ ← skip
    let s ← get
    if s.isOver || s.column < column then return [item]
    else if s.column == column && s.atDash then return item :: (← blockItems n column indentless)
    else if s.column == column && indentless then return [item]
    else refuse

/-- Read the further pairs of a block mapping at a column. -/
def blockPairs : Nat → Nat → Read (List (Node × Node))
  | 0, _ => refuse
  | n + 1, column => do
    let _ ← skip
    let s ← get
    if s.isOver || s.column < column then return []
    else if s.column != column then refuse
    else if s.atQuestion then
      drop 1
      let key ← block n column true true
      let _ ← skip
      let t ← get
      let value ←
        if !t.isOver && t.column == column && t.atColon then do
          drop 1
          block n column true true
        else pure Node.empty
      return (key, value) :: (← blockPairs n column)
    else if s.atColon then
      drop 1
      let value ← block n column true true
      return (.empty, value) :: (← blockPairs n column)
    else if s.atDash then refuse
    else
      let key ← blockKey column
      let value ← block n column false true
      return (key, value) :: (← blockPairs n column)

end

/-! ## Documents -/

/-- Whether a character may stand in a document. -/
def isAllowed (c : Char) : Bool :=
  let n := c.toNat
  n == 9 || n == 10 || n == 13 || (0x20 ≤ n && n ≤ 0x7E) || n == 0x85 || (0xA0 ≤ n && n ≤ 0xD7FF)
    || (0xE000 ≤ n && n ≤ 0xFFFD) || 0x10000 ≤ n

/-- Carriage returns as line feeds, one for each break. -/
def plainBreaksOnly : List Char → List Char
  | '\r' :: '\n' :: cs => '\n' :: plainBreaksOnly cs
  | '\r' :: cs => '\n' :: plainBreaksOnly cs
  | c :: cs => c :: plainBreaksOnly cs
  | [] => []

/-- Whether a directive may stand in front of a document: of the version only the first ones. -/
def isDirective (line : List Char) : Bool :=
  match (Text.splitOn ' ' (String.ofList line)).filter (· != "") with
  | "%YAML" :: version :: more =>
    version.startsWith "1." && (Text.drop 2 version).toList.all Text.isAsciiDigit && version.length > 2
      && (more.head?.all fun w => w.startsWith "#")
  | "%YAML" :: _ => false
  | name :: _ => (name.toList.drop 1).all isNameChar && 1 < name.length
  | [] => false

/-- Read the directives in front of a document; whether there were any. -/
def directives : Nat → Read Bool
  | 0 => refuse
  | n + 1 => do
    let _ ← skip
    let s ← get
    if s.column == 0 && s.rest.head? == some '%' then
      let line ← takeWhile fun c => !isBreak c
      if isDirective line then
        let _ ← directives n
        return true
      else refuse
    else return false

/-- Drop the marks of the end of a document. -/
def endMarks : Nat → Read Unit
  | 0 => return ()
  | n + 1 => do
    let _ ← skip
    let s ← get
    if s.atMark && s.rest.head? == some '.' then
      drop 3
      endMarks n
    else return ()

/-- Read the one document of a source; nothing if it has none. -/
def document : Read (Option Node) := do
  let size := (← get).fuel
  let directed ← directives size
  let s ← get
  if s.rest.isEmpty then
    if directed then refuse else return none
  let marked := s.atMark && s.rest.head? == some '-'
  if directed && !marked then refuse
  if marked then drop 3
  let root ← block size (-1) (!marked) false
  endMarks size
  let _ ← skip
  if (← get).rest.isEmpty then return some root else refuse

/-- Read a text that holds one document or none. -/
def read (text : String) : Except Refusal (Option Datum) :=
  let cs := plainBreaksOnly text.toList
  if cs.all isAllowed then
    match document.run { rest := cs } with
    | some (some root, _) => root.datum.map some
    | some (none, _) => .ok none
    | none => .error .malformed
  else .error .malformed

end Deskhand.Yaml
