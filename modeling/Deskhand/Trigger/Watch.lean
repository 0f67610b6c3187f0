import Deskhand.Block.Basic
import Deskhand.Device.Desk
import Deskhand.Path
import Deskhand.Text.Case

/-!
# Watching files

A `Watch` is the state of a trigger that fires when a file or a directory changes. An observer on the
directory reports changes in it; a second one on its parent reports when the directory is renamed, so that the
watch can follow it, or removed. Restarts and teardowns after such reports are queued as jobs (`Watch.runJob`)
and do nothing if the watch was started or stopped anew in the meantime, which its generation tells.

The watch holds the observers that it knows of; those that run are kept apart from them. An observer may fail
when it is started, and then does not run, and may fail when it is stopped, after which it does not run either
(`ObserverFaults`).

`Watch.record` takes a change note of a path, unless the same path was noted less than `Watch.debounce`
seconds before.
-/

namespace Deskhand

/-- What happened to a file. -/
inductive ChangeKind where
  | created
  | changed
  | deleted
  | renamed
  deriving DecidableEq, Repr, Inhabited

namespace ChangeKind

/-- The name of a kind of change in parameters. -/
def name : ChangeKind → String
  | created => "Created"
  | changed => "Changed"
  | deleted => "Deleted"
  | renamed => "Renamed"

/-- The kind of change that a report names. -/
def ofReport? : String → Option ChangeKind
  | "created" => some created
  | "modified" => some changed
  | "deleted" => some deleted
  | "moved" => some renamed
  | _ => none

end ChangeKind

/-- A report of an observer: what happened, where, where to, and whether to a directory. -/
structure ChangeReport where
  type : String
  source : String
  destination : Option String := none
  isDirectory : Bool := false
  deriving DecidableEq, Repr, Inhabited

/-- Which of the two observers of a watch one is. -/
inductive ObserverRole where
  | main
  | parent
  deriving DecidableEq, Repr, Inhabited

/-- The name of a role in lists of observers. -/
def ObserverRole.name : ObserverRole → String
  | main => "main"
  | parent => "parent"

/-- An observer of a directory. -/
structure Observer where
  number : Nat
  role : ObserverRole
  directory : String
  recursive : Bool
  deriving DecidableEq, Repr, Inhabited

/-- The observers, by number, that fail when they are started, and when they are stopped. -/
structure ObserverFaults where
  atStart : Nat → Bool := fun _ => false
  atStop : Nat → Bool := fun _ => false
  deriving Inhabited

/-- Work that a report has queued, with the generation at that time. -/
inductive WatchJob where
  | restart (generation : Nat)
  | teardown (generation : Nat)
  deriving DecidableEq, Repr, Inhabited

/-- The state of a watch. -/
structure Watch where
  /-- What is watched, as the watch has followed it. -/
  target : String := ""
  directory : String := ""
  /-- The file in the directory, where a single one is watched. -/
  fileName : Option String := none
  main : Option Observer := none
  parent : Option Observer := none
  /-- The observers that run, whether or not the watch knows of them. -/
  running : List Observer := []
  /-- How many observers were made. -/
  made : Nat := 0
  generation : Nat := 0
  isStopped : Bool := true
  /-- The queued jobs while there is a worker to run them. -/
  jobs : Option (List WatchJob) := none
  /-- Whether a change was noted that no check has seen. -/
  isRaised : Bool := false
  /-- The change noted last: the seconds on the meter and the path. -/
  lastEvent : Option (Float × String) := none
  /-- The path of the change noted last, until it is taken. -/
  detected : Option String := none
  deriving DecidableEq, Repr, Inhabited

namespace Watch

/-- The seconds within which a change of the same path counts as the same change. -/
def debounce : Float := 0.3

/-- Whether a trigger is interested in a kind of change. -/
def acceptsName (b : Block) (kind : String) : Bool :=
  let wanted := Text.lower (b.param "Event" "All")
  wanted == "all" || wanted == Text.lower kind

/-- Whether a trigger is interested in a kind of change. -/
def accepts (b : Block) (kind : ChangeKind) : Bool :=
  acceptsName b kind.name

/-- Whether a trigger watches the directories below its own as well. -/
def isRecursive (b : Block) : Bool :=
  Text.lower (Text.trim (b.param "Recursive" "")) == "true"

/-- The observers that the watch holds, the one on the directory first. -/
def observers (w : Watch) : List Observer :=
  w.main.toList ++ w.parent.toList

/-- Whether the watch runs. -/
def isWatching (w : Watch) : Bool :=
  w.main.isSome

/-- Make an observer and start it; there is none if it fails to start. -/
def launch (faults : ObserverFaults) (w : Watch) (role : ObserverRole) (directory : String) (recursive : Bool) :
    Option Observer × Watch :=
  let o : Observer := ⟨w.made, role, directory, recursive⟩
  let w := { w with made := w.made + 1 }
  if faults.atStart o.number then (none, w) else (some o, { w with running := w.running ++ [o] })

/-- Stop an observer: whether it failed, which it does when it runs no more, and the watch afterwards. -/
def halt (faults : ObserverFaults) (w : Watch) (o : Observer) : Bool × Watch :=
  (faults.atStop o.number, { w with running := w.running.filter (·.number != o.number) })

/-- Let go of the observers and stop them. One that fails does not keep the next one from being stopped. -/
def teardown (faults : ObserverFaults) (w : Watch) : Watch :=
  w.observers.foldl (fun w o => (halt faults w o).2) { w with main := none, parent := none }

/-- The path that a trigger watches, without slashes at its end unless it has nothing else. -/
def pathOf? (b : Block) : Option String :=
  (b.param? "Path").map fun raw =>
    let path := Text.trimEnd (fun c => c == '/' || c == '\\') raw
    if path == "" then raw else path

/-- Start an observer on a directory, and one on its parent if it has one. When one of them fails none is left. -/
def observe (faults : ObserverFaults) (w : Watch) (directory : Path) (recursive : Bool) : Bool × Watch :=
  match launch faults w .main directory.text recursive with
  | (none, w) => (false, w.teardown faults)
  | (some main, w) =>
    let w := { w with main := some main }
    let above := directory.parent.text
    if above == directory.text then (true, w)
    else
      match launch faults w .parent above false with
      | (none, w) => (false, w.teardown faults)
      | (some parent, w) => (true, { w with parent := some parent })

/-- Watch a path, if there is anything. -/
def setup (b : Block) (tree : FileTree) (faults : ObserverFaults) (w : Watch) (path : String) : Bool × Watch :=
  let p := Path.ofText path
  if !tree.isThere p then (false, w)
  else
    let isDirectory := tree.isDirectory p
    let directory := if isDirectory then p else p.parent
    let w := { w with
      target := p.text
      directory := directory.text
      fileName := if isDirectory then none else some p.name }
    observe faults w directory (isDirectory && isRecursive b)

/-- Begin a new generation of the watch. -/
def renew (faults : ObserverFaults) (w : Watch) (isStopped : Bool) : Watch :=
  { w.teardown faults with isStopped := isStopped, generation := w.generation + 1 }

/-- Start watching, or start anew. -/
def start (b : Block) (tree : FileTree) (faults : ObserverFaults) (w : Watch) : Bool × Watch :=
  let w := { w.renew faults false with jobs := some (w.jobs.getD []) }
  match pathOf? b with
  | none => (false, w)
  | some path => setup b tree faults w path

/-- Stop watching; queued jobs are dropped. -/
def stop (faults : ObserverFaults) (w : Watch) : Watch :=
  { w.renew faults true with jobs := none }

/-- Queue a job, if there is a worker. -/
def submit (w : Watch) (job : WatchJob) : Watch :=
  { w with jobs := w.jobs.map (· ++ [job]) }

/-- Whether work of a generation is still wanted. -/
def isCurrent (w : Watch) (generation : Nat) : Bool :=
  !w.isStopped && generation == w.generation

/-- Run one job. -/
def runJob (b : Block) (tree : FileTree) (faults : ObserverFaults) (w : Watch) : WatchJob → Watch
  | .restart generation =>
    if w.isCurrent generation then (setup b tree faults (w.teardown faults) w.target).2 else w
  | .teardown generation => if w.isCurrent generation then w.teardown faults else w

/-- Take a job from the queue, if it is there. -/
def dequeue (w : Watch) (job : WatchJob) : Watch :=
  { w with jobs := w.jobs.map (·.erase job) }

/-- Run the queued jobs in order; how many there were. -/
def runJobs (b : Block) (tree : FileTree) (faults : ObserverFaults) (w : Watch) : Nat × Watch :=
  let queued := w.jobs.getD []
  (queued.length, queued.foldl (fun w job => (w.dequeue job).runJob b tree faults job) w)

/-- Whether a change of a path repeats the change noted last. -/
def isRepeat (w : Watch) (path : String) (now : Float) : Bool :=
  w.lastEvent.any fun last => now - last.1 < debounce && Path.same last.2 path

/-- Take note of a change of a path, unless it repeats the last one. -/
def record (w : Watch) (path : String) (now : Float) : Bool × Watch :=
  if w.isRepeat path now then (false, w)
  else (true, { w with lastEvent := some (now, path), detected := some path, isRaised := true })

/-- The path that a report on the directory is about, if the trigger is interested in it. -/
def reportedPath? (b : Block) (w : Watch) (r : ChangeReport) : Option String := do
  let kind ← ChangeKind.ofReport? r.type
  let destination := r.destination.filter (· != "")
  if !accepts b kind || (r.isDirectory && kind == .changed) then none
  else
    let paths := (r.source :: destination.toList).filter (· != "")
    let names := paths.map fun p => Text.lower (Path.baseName p)
    if w.fileName.any fun name => !names.contains (Text.lower name) then none
    else if kind == .renamed then some (destination.getD r.source) else some r.source

/-- What is watched once the directory has been renamed. -/
def movedTarget (w : Watch) (destination : String) : String :=
  match w.fileName with
  | some name => Path.joinText destination name
  | none => destination

/-- The path that a report on the parent is about, if the trigger is interested in it. -/
def parentPath? (b : Block) (w : Watch) (r : ChangeReport) : Option String :=
  let named := fun (kind : ChangeKind) (path : String) =>
    if accepts b kind && path != "" then some path else none
  if !Path.same r.source w.directory then none
  else
    match ChangeKind.ofReport? r.type, r.destination.filter (· != "") with
    | some .renamed, some destination => named .renamed (w.movedTarget destination)
    | some .deleted, _ => named .deleted r.source
    | _, _ => none

/-- Follow the directory when a report on the parent says that it was renamed, and let go of it when it says that
it was removed. -/
def follow (w : Watch) (r : ChangeReport) : Watch :=
  if !Path.same r.source w.directory then w
  else
    match ChangeKind.ofReport? r.type, r.destination.filter (· != "") with
    | some .renamed, some destination =>
      { w with target := w.movedTarget destination }.submit (.restart w.generation)
    | some .deleted, _ => w.submit (.teardown w.generation)
    | _, _ => w

/-- The path that a report of an observer is about, if the trigger is interested in it. -/
def offered? (b : Block) (w : Watch) (role : ObserverRole) (r : ChangeReport) : Option String :=
  match role with
  | .main => reportedPath? b w r
  | .parent => parentPath? b w r

/-- Handle a report of an observer. -/
def hear (b : Block) (w : Watch) (role : ObserverRole) (r : ChangeReport) (now : Float) : Watch :=
  let followed :=
    match role with
    | .main => w
    | .parent => w.follow r
  match w.offered? b role r with
  | some path => (followed.record path now).2
  | none => followed

/-- Deliver a report on a directory to the observers that run on it: how many there are, and the watch afterwards.
-/
def deliver (b : Block) (w : Watch) (directory : String) (r : ChangeReport) (now : Float) : Nat × Watch :=
  let hearing := w.running.filter (·.directory == directory)
  (hearing.length, hearing.foldl (fun w o => w.hear b o.role r now) w)

/-- The observers that run as they are listed: the directory, which of the two it is, and whether it looks below. -/
def listed (w : Watch) : List Value :=
  w.running.map fun o => .list [.text o.directory, .text o.role.name, .bool o.recursive]

/-- Whether the trigger fires: whether a change was noted since the last check. -/
def check (w : Watch) : Bool × Watch :=
  (w.isRaised, { w with isRaised := false })

/-- Forget the path of the change noted last. -/
def takeDetected (w : Watch) : Watch :=
  { w with detected := none }

end Watch

end Deskhand
