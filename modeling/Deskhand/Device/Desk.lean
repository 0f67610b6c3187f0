import Deskhand.Path
import Deskhand.Text.Blank
import Deskhand.Value

/-!
# The desk

A `Desk` is the computer that scenarios act on: the files and programs that exist, the processes that run, and
the list of what was done to it so far (`Effect`). Files are looked up by the text of their path.
-/

namespace Deskhand

/-- A button of the mouse. -/
inductive MouseButton where
  | left
  | right
  deriving DecidableEq, Repr, Inhabited

namespace MouseButton

/-- The name of a button. -/
def name : MouseButton → String
  | left => "left"
  | right => "right"

/-- The button of a name, without regard to letter case and blanks around it. -/
def ofName? (name : String) : Option MouseButton :=
  match Text.lower (Text.trim name) with
  | "left" => some left
  | "right" => some right
  | _ => none

end MouseButton

/-- Something that was done to the desk or asked of a collaborator. -/
inductive Effect where
  /-- The pointer was moved. -/
  | move (x y : Int)
  /-- A button was pressed once. -/
  | click (button : MouseButton)
  /-- A text was typed in one go. -/
  | type (text : String)
  /-- An input device rested for some milliseconds. -/
  | rest (millis : Nat)
  /-- A program was started with arguments. -/
  | launch (arguments : List String)
  /-- A file was handed to the desktop shell. -/
  | openFile (path : String)
  /-- A process was ended. -/
  | kill (process : Nat)
  /-- A signal was sent to a process. -/
  | signal (process : Int) (number : Nat)
  /-- A collaborator was called. -/
  | call (name : String) (arguments : List Value)
  deriving Inhabited

namespace Effect

/-- An effect as it is listed: its name and what it was done with. -/
def listed : Effect → Value
  | move x y => .list [.text "move", .int x, .int y]
  | click b => .list [.text "click", .text b.name, .int 1]
  | type s => .list [.text "type", .text s]
  | rest n => .list [.text "sleep", .int n]
  | launch arguments => .list [.text "popen", .list (arguments.map .text)]
  | openFile p => .list [.text "startfile", .text p]
  | kill n => .list [.text "kill", .int n]
  | signal n s => .list [.text "signal", .int n, .int s]
  | call name arguments => .list (.text name :: arguments)

end Effect

/-- The files that exist, by the texts of their paths. -/
structure FileTree where
  directories : List String := []
  files : List String := []
  /-- Files that can be started. -/
  programs : List String := []
  deriving DecidableEq, Repr, Inhabited

namespace FileTree

/-- Whether a path is a directory. -/
def isDirectory (t : FileTree) (p : Path) : Bool :=
  t.directories.contains p.text

/-- Whether a path is a program. -/
def isProgram (t : FileTree) (p : Path) : Bool :=
  t.programs.contains p.text

/-- Whether a path is a file of any sort. -/
def isFile (t : FileTree) (p : Path) : Bool :=
  t.files.contains p.text || t.isProgram p

/-- Whether there is anything at a path. -/
def isThere (t : FileTree) (p : Path) : Bool :=
  t.isDirectory p || t.isFile p

/-- The tree after some paths were removed and others came. -/
def change (t : FileTree) (removed directories files : List String) : FileTree :=
  let keep := fun xs : List String => xs.filter fun x => !removed.contains x
  ⟨keep t.directories ++ directories, keep t.files ++ files, keep t.programs⟩

end FileTree

/-- What happens when a process is ended. -/
inductive KillOutcome where
  | ends
  /-- The process has ended before. -/
  | gone
  /-- The process may not be ended. -/
  | denied
  /-- The process was told to end and is still there after a while. -/
  | lingers
  deriving DecidableEq, Repr, Inhabited

/-- A process that runs. -/
structure RunningProgram where
  number : Nat
  name : Option String
  outcome : KillOutcome := .ends
  deriving DecidableEq, Repr, Inhabited

/-- How a desk opens a file that is not a program. -/
inductive Opener where
  /-- Hand every path to the desktop shell. -/
  | shell
  /-- Start a program of this name with the path. -/
  | command (name : String)
  deriving DecidableEq, Repr, Inhabited

/-- The computer that scenarios act on. -/
structure Desk where
  tree : FileTree := {}
  processes : List RunningProgram := []
  opener : Opener := .command "xdg-open"
  /-- Why no program can be started, if that is so. -/
  launchFault : Option String := none
  /-- What was done, the earliest first. -/
  effects : List Effect := []
  deriving Inhabited

namespace Desk

/-- Note that something was done. -/
def did (d : Desk) (e : Effect) : Desk :=
  { d with effects := d.effects ++ [e] }

/-- Note that several things were done. -/
def didAll (d : Desk) (es : List Effect) : Desk :=
  { d with effects := d.effects ++ es }

end Desk

end Deskhand
