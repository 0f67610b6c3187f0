import Deskhand.Device.Input
import Deskhand.Fields
import Deskhand.Keyboard.Key
import Deskhand.Trigger.Watch

/-!
# Described desks

A desk can be described by a record: the files and programs that are there, the processes that run and how
they take being ended, and how files are opened. Scenarios can be tried out on a described desk, since nothing
of it is real.
-/

namespace Deskhand

namespace KillOutcome

/-- The outcome of a name. -/
def ofName : String → KillOutcome
  | "gone" => gone
  | "denied" => denied
  | "timeout" => lingers
  | _ => ends

end KillOutcome

namespace Path

/-- The paths in a field that holds a list, as texts. -/
def listed (fs : Fields) (name : String) : List String :=
  (fs.texts name).map fun s => (ofText s).text

end Path

namespace FileTree

/-- The files that a record describes. -/
def ofFields (fs : Fields) : FileTree :=
  ⟨Path.listed fs "dirs", Path.listed fs "files", Path.listed fs "exes"⟩

/-- The files after the changes that a record describes. -/
def changedBy (t : FileTree) (fs : Fields) : FileTree :=
  t.change (Path.listed fs "remove") (Path.listed fs "dirs") (Path.listed fs "files")

end FileTree

namespace Opener

/-- How the desk that a record describes opens files. -/
def ofFields (fs : Fields) : Opener :=
  if fs.text "os_name" == "nt" then shell
  else if fs.text "platform" == "darwin" then command "open"
  else command "xdg-open"

end Opener

namespace Desk

/-- The processes that a list describes, numbered from one. -/
def processesOf (vs : List Value) : List RunningProgram :=
  (vs.zipIdx 1).map fun (v, n) => ⟨n, v.fields.text? "name", .ofName (v.fields.text "outcome")⟩

/-- The desk that a record describes. -/
def ofFields (fs : Fields) : Desk :=
  { tree := .ofFields fs, processes := processesOf (fs.list "processes"), opener := .ofFields fs
    launchFault := fs.text? "popen_fail" }

/-- What was done to a desk, as it is listed. -/
def listed (d : Desk) : Value :=
  .list (d.effects.map Effect.listed)

end Desk

namespace InputDevices

/-- The devices that a record describes. -/
def ofFields (fs : Fields) : InputDevices :=
  match fs.fields? "input" with
  | some i => if i.has "device_fail" then .real (some (i.text "device_fail")) else .prepared (i.get "result")
  | none => .real none

end InputDevices

namespace KeyPress

/-- The event of a key that a record describes. -/
def ofFields (fs : Fields) : KeyPress :=
  ⟨fs.text? "name", fs.text? "char", fs.int? "vk"⟩

end KeyPress

namespace ChangeReport

/-- The report of an observer that a record describes. -/
def ofFields (fs : Fields) : ChangeReport :=
  ⟨fs.text "type", fs.text "src", fs.text? "dest", fs.flag "is_dir"⟩

end ChangeReport

namespace Reply

/-- A reply as a record. -/
def record : Reply → Value
  | done => .record [("success", .bool true)]
  | refused reason => .record [("success", .bool false), ("error", .ofText? reason)]

end Reply

end Deskhand
