import Deskhand.Config.Lenient
import Deskhand.Path
import Deskhand.Yaml.Reader

/-!
# The configuration

A `Config` says how fast the program polls, where it keeps its files and which of its parts are on. It is read
from a record (`Config.ofValue`) or from YAML (`Config.ofYaml`); what is not given keeps its default, and
names that mean nothing are kept with their values. `Config.databasePath` is where the store lies.
-/

namespace Deskhand

/-- A value with the complaints about what it was read from, each with the names that lead to it. -/
structure Checked (α : Type) where
  value : α
  complaints : List (List String × Config.Complaint) := []
  deriving Inhabited

/-- How often the scheduler looks, in seconds. -/
structure SchedulerTimes where
  poll : Float := 1.0
  /-- The wait after a check that failed. -/
  backOff : Float := 5.0
  /-- The wait for loops and runs to end. -/
  drain : Float := 1.0
  /-- The wait before scenarios are loaded anew. -/
  settle : Float := 0.2
  /-- The least and the greatest wait before a loop starts. -/
  jitterMin : Float := 0.1
  jitterMax : Float := 1.0
  extras : Entries String Value := []
  deriving Inhabited

/-- The files of a running program and its times in seconds. -/
structure RunnerChoices where
  pidFile : String := ".tmp/flexauto.pid"
  statusFile : String := ".tmp/flexauto_status.json"
  logFile : Option String := some ".tmp/flexauto.log"
  reloadCheck : Float := 2.0
  shutdown : Float := 5.0
  extras : Entries String Value := []
  deriving Inhabited

/-- Where the store lies. -/
structure StorageChoices where
  path : Option String := none
  extras : Entries String Value := []
  deriving Inhabited

/-- How the chat is used. -/
structure ChatChoices where
  enabled : Bool := true
  pairingSeconds : Int := 120
  windowSeconds : Int := 10
  extras : Entries String Value := []
  deriving Inhabited

/-- Whether hotkeys are used. -/
structure HotkeyChoices where
  enabled : Bool := true
  extras : Entries String Value := []
  deriving Inhabited

/-- How the web is asked. -/
structure WebChoices where
  timeout : Float := 15.0
  language : String := "uk-UA"
  extras : Entries String Value := []
  deriving Inhabited

/-- The configuration of the program. -/
structure Config where
  scheduler : SchedulerTimes := {}
  runner : RunnerChoices := {}
  storage : StorageChoices := {}
  chat : ChatChoices := {}
  hotkeys : HotkeyChoices := {}
  web : WebChoices := {}
  extras : Entries String Value := []
  deriving Inhabited

namespace Config

/-- Read a setting of a record; one that is not there keeps its default. -/
def setting {α : Type} (fields : Entries String Value) (name : String) (default : α)
    (reader : Value → Except Complaint α) : Checked α :=
  match Entries.find? fields name with
  | none => ⟨default, []⟩
  | some v =>
    match reader v with
    | .ok a => ⟨a, []⟩
    | .error complaint => ⟨default, [([name], complaint)]⟩

/-- A value as a number above zero. -/
def positive (v : Value) : Except Complaint Float := do
  let x ← Lenient.number v
  if x > 0.0 then return x else throw .notAbove

/-- A value as a number from zero on. -/
def notNegative (v : Value) : Except Complaint Float := do
  let x ← Lenient.number v
  if x ≥ 0.0 then return x else throw .tooSmall

/-- A value as an integer from one on. -/
def atLeastOne (v : Value) : Except Complaint Int := do
  let n ← Lenient.integer v
  if 1 ≤ n then return n else throw .tooSmall

/-- The fields of a record that have none of these names. -/
def extrasOf (fields : Entries String Value) (names : List String) : Entries String Value :=
  fields.filter fun f => !names.contains f.1

/-- The names of the scheduler's settings. -/
def schedulerNames : List String :=
  ["poll_interval_seconds", "error_backoff_seconds", "drain_timeout_seconds", "settle_delay_seconds",
   "start_jitter_min_seconds", "start_jitter_max_seconds"]

/-- The scheduler's settings of a record. -/
def readScheduler (fields : Entries String Value) : Checked SchedulerTimes :=
  let d : SchedulerTimes := {}
  let poll := setting fields "poll_interval_seconds" d.poll positive
  let backOff := setting fields "error_backoff_seconds" d.backOff notNegative
  let drain := setting fields "drain_timeout_seconds" d.drain notNegative
  let settle := setting fields "settle_delay_seconds" d.settle notNegative
  let jitterMin := setting fields "start_jitter_min_seconds" d.jitterMin notNegative
  let jitterMax := setting fields "start_jitter_max_seconds" d.jitterMax notNegative
  ⟨⟨poll.value, backOff.value, drain.value, settle.value, jitterMin.value, jitterMax.value,
    extrasOf fields schedulerNames⟩,
   poll.complaints ++ backOff.complaints ++ drain.complaints ++ settle.complaints ++ jitterMin.complaints
    ++ jitterMax.complaints⟩

/-- The names of the runner's settings. -/
def runnerNames : List String :=
  ["pid_file", "status_file", "log_file", "reload_check_interval_seconds", "shutdown_timeout_seconds"]

/-- The runner's settings of a record. -/
def readRunner (fields : Entries String Value) : Checked RunnerChoices :=
  let d : RunnerChoices := {}
  let pidFile := setting fields "pid_file" d.pidFile Lenient.text
  let statusFile := setting fields "status_file" d.statusFile Lenient.text
  let logFile := setting fields "log_file" d.logFile Lenient.textOrNothing
  let reloadCheck := setting fields "reload_check_interval_seconds" d.reloadCheck positive
  let shutdown := setting fields "shutdown_timeout_seconds" d.shutdown notNegative
  ⟨⟨pidFile.value, statusFile.value, logFile.value, reloadCheck.value, shutdown.value,
    extrasOf fields runnerNames⟩,
   pidFile.complaints ++ statusFile.complaints ++ logFile.complaints ++ reloadCheck.complaints
    ++ shutdown.complaints⟩

/-- The storage's settings of a record. -/
def readStorage (fields : Entries String Value) : Checked StorageChoices :=
  let path := setting fields "db_path" none Lenient.textOrNothing
  ⟨⟨path.value, extrasOf fields ["db_path"]⟩, path.complaints⟩

/-- The names of the chat's settings. -/
def chatNames : List String :=
  ["enabled", "pairing_timeout_seconds", "command_window_seconds"]

/-- The chat's settings of a record. -/
def readChat (fields : Entries String Value) : Checked ChatChoices :=
  let d : ChatChoices := {}
  let enabled := setting fields "enabled" d.enabled Lenient.switch
  let pairing := setting fields "pairing_timeout_seconds" d.pairingSeconds atLeastOne
  let window := setting fields "command_window_seconds" d.windowSeconds atLeastOne
  ⟨⟨enabled.value, pairing.value, window.value, extrasOf fields chatNames⟩,
   enabled.complaints ++ pairing.complaints ++ window.complaints⟩

/-- The hotkeys' settings of a record. -/
def readHotkeys (fields : Entries String Value) : Checked HotkeyChoices :=
  let enabled := setting fields "enabled" true Lenient.switch
  ⟨⟨enabled.value, extrasOf fields ["enabled"]⟩, enabled.complaints⟩

/-- The web's settings of a record. -/
def readWeb (fields : Entries String Value) : Checked WebChoices :=
  let d : WebChoices := {}
  let timeout := setting fields "timeout_seconds" d.timeout positive
  let language := setting fields "tmdb_language" d.language Lenient.text
  ⟨⟨timeout.value, language.value, extrasOf fields ["timeout_seconds", "tmdb_language"]⟩,
   timeout.complaints ++ language.complaints⟩

/-- Read a group of settings; one that is not there has its defaults. -/
def readSection {α : Type} [Inhabited α] (fields : Entries String Value) (name : String)
    (reader : Entries String Value → Checked α) : Checked α :=
  match Entries.find? fields name with
  | none => reader []
  | some (.record inner) =>
    let r := reader inner
    ⟨r.value, r.complaints.map fun c => (name :: c.1, c.2)⟩
  | some _ => ⟨(reader []).value, [([name], .noSection)]⟩

/-- The names of the groups of settings. -/
def sectionNames : List String :=
  ["scheduler", "runner", "storage", "telegram", "hotkeys", "http"]

/-- Read the configuration of a record, with all complaints about it. -/
def check (fields : Entries String Value) : Checked Config :=
  let scheduler := readSection fields "scheduler" readScheduler
  let runner := readSection fields "runner" readRunner
  let storage := readSection fields "storage" readStorage
  let chat := readSection fields "telegram" readChat
  let hotkeys := readSection fields "hotkeys" readHotkeys
  let web := readSection fields "http" readWeb
  ⟨⟨scheduler.value, runner.value, storage.value, chat.value, hotkeys.value, web.value,
    extrasOf fields sectionNames⟩,
   scheduler.complaints ++ runner.complaints ++ storage.complaints ++ chat.complaints ++ hotkeys.complaints
    ++ web.complaints⟩

/-- The configuration of a value, or what is wrong with it. -/
def ofValue : Value → Except (List (List String × Complaint)) Config
  | .record fields =>
    let c := check fields
    if c.complaints.isEmpty then .ok c.value else .error c.complaints
  | _ => .error [([], .noSection)]

/-- A configuration as a record, with the names that mean nothing. -/
def record (c : Config) : Entries String Value :=
  [("scheduler", .record ([("poll_interval_seconds", .float c.scheduler.poll),
      ("error_backoff_seconds", .float c.scheduler.backOff),
      ("drain_timeout_seconds", .float c.scheduler.drain),
      ("settle_delay_seconds", .float c.scheduler.settle),
      ("start_jitter_min_seconds", .float c.scheduler.jitterMin),
      ("start_jitter_max_seconds", .float c.scheduler.jitterMax)] ++ c.scheduler.extras)),
   ("runner", .record ([("pid_file", .text c.runner.pidFile), ("status_file", .text c.runner.statusFile),
      ("log_file", .ofText? c.runner.logFile), ("reload_check_interval_seconds", .float c.runner.reloadCheck),
      ("shutdown_timeout_seconds", .float c.runner.shutdown)] ++ c.runner.extras)),
   ("storage", .record (("db_path", .ofText? c.storage.path) :: c.storage.extras)),
   ("telegram", .record ([("enabled", .bool c.chat.enabled),
      ("pairing_timeout_seconds", .int c.chat.pairingSeconds),
      ("command_window_seconds", .int c.chat.windowSeconds)] ++ c.chat.extras)),
   ("hotkeys", .record (("enabled", .bool c.hotkeys.enabled) :: c.hotkeys.extras)),
   ("http", .record ([("timeout_seconds", .float c.web.timeout), ("tmdb_language", .text c.web.language)]
      ++ c.web.extras))]
    ++ c.extras

/-- Whether the names of all settings of a document are texts. -/
def hasNames (d : Yaml.Datum) : Bool :=
  d.hasTextKeys && sectionNames.all fun name => (d.field? name).all Yaml.Datum.hasTextKeys

/-- The configuration of a YAML text. One that is no mapping, or has anything wrong, gives the defaults; a
scalar without a value is a fault. -/
def ofYaml (text : String) : Except Fault Config :=
  match Yaml.read text with
  | .error (.fault reason) => .error reason
  | .error .malformed | .ok none => .ok {}
  | .ok (some d) => .ok (if hasNames d then ((ofValue d.value).toOption).getD {} else {})

/-! ## Where the store lies -/

/-- The path of the store below the root of the project, if none is chosen. -/
def defaultStore : String := "data/flexauto.db"

/-- A path in which a home directory is written out; none if the name of its owner means nothing. -/
def expand? (home : String) (p : Path) : Option Path :=
  match p.names with
  | name :: rest =>
    if p.root == "" && name.startsWith "~" then
      if name == "~" then some ((Path.ofText home).below ⟨"", rest⟩)
      else if name == "~root" then some ⟨"/", "root" :: rest⟩
      else none
    else some p
  | [] => some p

/-- Where the store lies: where the environment says, or else the configuration, or else at the default place.
-/
def databasePath (c : Config) (root : Path) (home : String) (chosen : Option String) : Except Fault Path :=
  let raw := ((chosen.filter (· != "")).orElse fun _ => c.storage.path).filter (· != "")
  match raw with
  | none => .ok (root.below (Path.ofText defaultStore))
  | some raw =>
    match expand? home (Path.ofText raw) with
    | some p => .ok (root.below p)
    | none => .error (.refused "Could not determine home directory.")

end Config

end Deskhand
