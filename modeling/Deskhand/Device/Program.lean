import Deskhand.Device.Input

/-!
# Opening and closing programs

`Program.openPath` opens a file or a program the way the desktop shell would. `Program.closeName` ends every
process of a name, where a process matches by its whole name or by its name without extension, without regard
to letter case.
-/

namespace Deskhand.Program

/-- The arguments with which a path is started. -/
def launchArguments (tree : FileTree) (command : String) (p : Path) : List String :=
  if tree.isProgram p then [p.text] else [command, p.text]

/-- Open a file or a program. -/
def openPath (desk : Desk) (path : String) : Except Fault Reply × Desk :=
  let p := Path.ofText path
  if !desk.tree.isThere p then (.ok (.refused (some ("File not found: " ++ path))), desk)
  else
    match desk.opener, desk.launchFault with
    | .shell, _ => (.ok .done, desk.did (.openFile p.text))
    | .command _, some reason => (.error (.system reason), desk)
    | .command name, none => (.ok .done, desk.did (.launch (launchArguments desk.tree name p)))

/-- Whether a process goes by a name. -/
def goesBy (name : String) (p : RunningProgram) : Bool :=
  let wanted := Text.lower name
  let own := Text.lower (p.name.getD "")
  own == wanted || (Path.ofText own).stem == wanted

/-- The name that processes are looked for by: an executable's name without its extension. -/
def wantedName (name : String) : String :=
  if (Text.lower name).endsWith ".exe" then (Path.ofText name).stem else name

/-- What is done to the desk when a process is told to end. -/
def killEffects (p : RunningProgram) : List Effect :=
  match p.outcome with
  | .ends | .lingers => [.kill p.number]
  | .gone | .denied => []

/-- Whether a process that was told to end counts as ended. -/
def countsAsKilled (p : RunningProgram) : Bool :=
  p.outcome != .denied

/-- End every process of a name; the number of them that count as ended, or the refusal when there is none. -/
def closeName (desk : Desk) (name : String) : Except String Nat × Desk :=
  let wanted := wantedName name
  match desk.processes.filter (goesBy wanted) with
  | [] => (.error ("Process " ++ wanted ++ " is not running"), desk)
  | found => (.ok (found.filter countsAsKilled).length, desk.didAll (found.flatMap killEffects))

end Deskhand.Program
