import Deskhand.Daemon.Machine
import Deskhand.Fields

/-!
# Detaching

A program detaches by forking twice: the first child leaves the session of its parent, and the second one can
never get a terminal again. Each parent ends at once. The last child goes on with its input closed and its
output in the log file, which is made if it is missing.
-/

namespace Deskhand

/-- What a fork answers. -/
inductive Fork where
  /-- The program is the child. -/
  | child
  /-- The program is the parent of this process. -/
  | parent (process : Int)
  | fails (reason : String)
  deriving DecidableEq, Repr, Inhabited

/-- The answer that a value describes: a reason to fail, zero for the child, or another process. -/
def Fork.ofValue : Value → Fork
  | .text reason => fails reason
  | v => if v.int? == some 0 then child else parent (v.int?.getD 1)

/-- What became of a program that detaches. -/
structure Detachment where
  /-- The status with which it ended, if it did. -/
  exit : Option Nat := none
  /-- What it did. -/
  calls : List Effect := []
  /-- What it printed. -/
  output : String := ""
  /-- The forks that were not needed. -/
  forks : List Fork := []
  machine : Machine
  deriving Inhabited

namespace Detachment

/-- The log file where none is named. -/
def defaultLog : String := ".tmp/flexauto.log"

/-- Do something without arguments. -/
def did (t : Detachment) (name : String) (arguments : List Value) : Detachment :=
  { t with calls := t.calls ++ [.call name arguments] }

/-- Fork for the first or second time. With no answer left the program is the child. -/
def fork (t : Detachment) (turn : Nat) : Detachment :=
  let t := t.did "fork" []
  let (answer, forks) := (t.forks.headD .child, t.forks.drop 1)
  let t := { t with forks := forks }
  match answer with
  | .child => t
  | .parent process => if 0 < process then { t with exit := some 0 } else t
  | .fails reason =>
    { t with exit := some 1, output := t.output ++ "Fork #" ++ toString turn ++ " failed: " ++ reason ++ "\n" }

/-- Leave the session. -/
def leaveSession (t : Detachment) : Detachment :=
  ((t.did "chdir" [.text t.machine.root.text]).did "setsid" []).did "umask" [.int 0]

/-- Close the input and lead the output to the log file. -/
def redirect (t : Detachment) (logFile : String) : Detachment :=
  let t := { t with machine := t.machine.touch logFile }
  ((t.did "dup2" [.text "stdin"]).did "dup2" [.text "stdout"]).did "dup2" [.text "stderr"]

end Detachment

/-- Detach, with the output in a log file. A log file that cannot be named is a fault, met by the last child.
-/
def detach (machine : Machine) (forks : List Fork) (logFile : Option String) :
    Except Fault Unit × Detachment :=
  let t := Detachment.fork { forks := forks, machine := machine } 1
  if t.exit.isSome then (.ok (), t)
  else
    let t := t.leaveSession.fork 2
    if t.exit.isSome then (.ok (), t)
    else
      match machine.resolve ((logFile.filter (· != "")).getD Detachment.defaultLog) with
      | .ok path => (.ok (), t.redirect path)
      | .error fault => (.error fault, t)

end Deskhand
