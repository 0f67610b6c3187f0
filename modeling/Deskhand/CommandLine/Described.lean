import Deskhand.Action.Described
import Deskhand.CommandLine.Console

/-!
# Described consoles

A record can describe what there is around a console: the files below the root of the project by their names,
the processes that are there, and the time.
-/

namespace Deskhand.Console

/-- A console with the files, processes and time of a record in place of its own. -/
def changedBy (c : Console) (fs : Fields) : Console :=
  let files := (fs.fields "files").filterMap fun f => f.2.text?.map fun text => (f.1, text)
  let machine := files.foldl (fun (m : Machine) f => m.write (m.inRoot f.1) f.2) c.machine
  let alive := if fs.has "alive" then (fs.list "alive").filterMap Value.int? else machine.alive
  { c with machine := { machine with alive := alive }
           engine := { c.engine with around := c.engine.around.setNow (fs.instant? "now") } }

end Deskhand.Console
