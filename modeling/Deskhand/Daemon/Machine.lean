import Deskhand.Config.Basic
import Deskhand.Device.Desk

/-!
# The machine

A `Machine` is where the program runs: its files by the text of their paths, the processes that are there, and
the root of the project, below which relative paths lie. A signal reaches a process only if it is there.
-/

namespace Deskhand

/-- Why a process does not get a signal. -/
inductive SignalRefusal where
  | noSuchProcess
  | notPermitted
  deriving DecidableEq, Repr, Inhabited

namespace SignalRefusal

/-- The wording of a refusal. -/
def message : SignalRefusal → String
  | noSuchProcess => "[Errno 3] No such process"
  | notPermitted => "[Errno 1] Operation not permitted"

end SignalRefusal

/-- Where the program runs. -/
structure Machine where
  root : Path
  home : String
  files : Entries String String := []
  /-- The processes that are there. -/
  alive : List Int := []
  /-- Why the others do not get signals. -/
  refusal : SignalRefusal := .noSuchProcess
  /-- The number of the program's own process. -/
  ownProcess : Int := 4242
  deriving DecidableEq, Repr, Inhabited

namespace Machine

/-- A path below the root of the project. -/
def inRoot (m : Machine) (name : String) : String :=
  (m.root.below (Path.ofText name)).text

/-- A path of the configuration, with a home directory written out. -/
def resolve (m : Machine) (name : String) : Except Fault String :=
  match Config.expand? m.home (Path.ofText name) with
  | some p => .ok (m.root.below p).text
  | none => .error (.refused "Could not determine home directory.")

/-- The text of a file, if it is there. -/
def read? (m : Machine) (path : String) : Option String :=
  m.files.find? path

/-- Whether a directory is there: the root of the project, or one that holds a file. -/
def isDirectory (m : Machine) (path : String) : Bool :=
  path == m.root.text || m.files.any fun f => f.1.startsWith (path ++ "/")

/-- The text of a file, or why it cannot be read. -/
def readFile (m : Machine) (path : String) : Except FileRefusal String :=
  match m.read? path with
  | some text => .ok text
  | none =>
    if m.isDirectory path then .error .isDirectory
    else if m.files.any fun f => path.startsWith (f.1 ++ "/") then .error .notInDirectory
    else .error .missing

/-- Whether a file or a directory is there. -/
def isThere (m : Machine) (path : String) : Bool :=
  m.files.has path || m.isDirectory path

/-- Write a file. -/
def write (m : Machine) (path text : String) : Machine :=
  { m with files := m.files.put path text }

/-- Remove a file, if it is there. -/
def remove (m : Machine) (path : String) : Machine :=
  { m with files := m.files.erase path }

/-- Make sure that a file is there. -/
def touch (m : Machine) (path : String) : Machine :=
  if m.files.has path then m else m.write path ""

/-- Whether a signal reaches a process. -/
def reach (m : Machine) (process : Int) : Except SignalRefusal Unit :=
  if m.alive.contains process then .ok () else .error m.refusal

/-- The file of the configuration. -/
def configFile : String := "args/automation.yaml"

/-- The configuration of a machine: that of its file, or else the defaults. -/
def config (m : Machine) : Except Fault Config :=
  match m.read? (m.inRoot configFile) with
  | some text => Config.ofYaml text
  | none => .ok {}

end Machine

end Deskhand
