import Deskhand.Text.Case
import Deskhand.Text.Pieces

/-!
# Paths

A `Path` is a root and the names below it. The root is empty for a relative path, one slash, or two slashes
where a path starts with exactly two. Empty names and single dots are dropped when a path is read; double dots
stay, since what they lead to depends on links. `Path.normal` resolves double dots by the text alone, which is
how two spellings of a path are compared (`Path.same`).
-/

namespace Deskhand

/-- A path of names below a root. -/
structure Path where
  root : String
  names : List String
  deriving DecidableEq, Repr, Inhabited

namespace Path

/-- The root of a path: two slashes are one of their own, any other number is one. -/
def rootOf (cs : List Char) : String :=
  match cs with
  | '/' :: '/' :: '/' :: _ => "/"
  | '/' :: '/' :: _ => "//"
  | '/' :: _ => "/"
  | _ => ""

/-- The names of a path, as they are written. -/
def namesOf (s : String) : List String :=
  (Text.splitOn '/' s).filter fun name => name != "" && name != "."

/-- Read a path. -/
def ofText (s : String) : Path :=
  ⟨rootOf s.toList, namesOf s⟩

/-- A path as text; the one without root and names is a dot. -/
def text (p : Path) : String :=
  if p.root == "" && p.names.isEmpty then "." else p.root ++ Text.join "/" p.names

/-- The last name; empty where there is none. -/
def name (p : Path) : String :=
  p.names.getLastD ""

/-- The path without its last name. -/
def parent (p : Path) : Path :=
  { p with names := p.names.dropLast }

/-- Whether a path starts at a root. -/
def isAbsolute (p : Path) : Bool :=
  p.root != ""

/-- A path below another one; an absolute path stands for itself. -/
def below (base p : Path) : Path :=
  if p.isAbsolute then p else { base with names := base.names ++ p.names }

/-- A name without its extension: what stands before the last dot, where the dot is neither first nor last. -/
def stemOf (name : String) : String :=
  let cs := name.toList
  let extension := cs.reverse.takeWhile (· != '.')
  let size := cs.length - extension.length - 1
  if extension.length < cs.length && 0 < size && !extension.isEmpty then Text.take size name else name

/-- The last name without its extension. -/
def stem (p : Path) : String :=
  stemOf p.name

/-- What follows the last slash of a text. -/
def baseName (s : String) : String :=
  (Text.splitOn '/' s).getLastD ""

/-- A name put below a directory by text: an absolute one replaces it. -/
def joinText (directory name : String) : String :=
  if name.startsWith "/" then name
  else if directory == "" || directory.endsWith "/" then directory ++ name
  else directory ++ "/" ++ name

/-- Resolve double dots among names. Above the root there is nothing; above a relative path they stay. -/
def resolve (rooted : Bool) (names : List String) : List String :=
  names.foldl (fun acc name =>
    if name != ".." || (!rooted && acc.isEmpty) || acc.getLast? == some ".." then acc ++ [name]
    else acc.dropLast) []

/-- A path with its double dots resolved. -/
def normal (p : Path) : Path :=
  { p with names := resolve p.isAbsolute p.names }

/-- Whether two texts spell the same path, without regard to letter case; the empty text spells none. -/
def same (a b : String) : Bool :=
  a != "" && b != "" && Text.lower (ofText a).normal.text == Text.lower (ofText b).normal.text

end Path

end Deskhand
