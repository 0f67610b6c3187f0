import Deskhand.Log.Placeholder
import Deskhand.Log.Record

/-!
# The log buffer

A `LogBuffer` keeps the newest records up to a number of them. `LogSetup` says which messages are recorded at
all and whether they are shown as JSON; it is made from what was asked for and from the environment.
-/

namespace Deskhand

/-- The newest records, the earliest first. -/
structure LogBuffer where
  capacity : Nat := 1000
  records : List LogRecord := []
  deriving DecidableEq, Repr, Inhabited

namespace LogBuffer

/-- Take a record in, and drop the earliest one if there are too many. -/
def add (b : LogBuffer) (r : LogRecord) : LogBuffer :=
  let records := b.records ++ [r]
  { b with records := records.drop (records.length - b.capacity) }

/-- The records, or those of a level that is named in any case. -/
def entries (b : LogBuffer) (level : Option String) : List LogRecord :=
  match level.filter (· != "") with
  | some name => b.records.filter fun r => r.level.name == Text.upper name
  | none => b.records

/-- A buffer without records. -/
def clear (b : LogBuffer) : LogBuffer :=
  { b with records := [] }

end LogBuffer

namespace LogRecord

/-- A message with its arguments filled in, or as it stands where they do not fit. -/
def messageOf (message : String) (args : List Value) : String :=
  (Placeholder.fill? message args).getD message

/-- A record as it is listed. -/
def entry (r : LogRecord) : Value :=
  .record [("timestamp", .text r.time.text), ("level", .text r.level.name), ("logger", .text r.source),
    ("message", .text r.message)]

/-- A record as a line of JSON, without its time. -/
def line (r : LogRecord) : Value :=
  .record [("event", .text r.message), ("level", .text (Text.lower r.level.name)), ("logger", .text r.source)]

end LogRecord

/-- Which messages are recorded and how they are shown. -/
structure LogSetup where
  /-- The weight that a message needs. -/
  threshold : Nat := 20
  asJson : Bool := false
  deriving DecidableEq, Repr, Inhabited

namespace LogSetup

/-- The weights of names in capitals. -/
def weights : List (String × Nat) :=
  LogLevel.all.map (fun l => (l.name, l.weight)) ++ [("WARN", 30), ("FATAL", 50), ("NOTSET", 0)]

/-- The name of a weight. -/
def nameOf (weight : Nat) : String :=
  ((LogLevel.all.find? fun l => l.weight == weight).map LogLevel.name).getD "NOTSET"

/-- The setup for what is asked for, or else for what the environment says. Unknown names mean messages that
inform. -/
def of (level : Option String) (asJson : Option Bool) (envLevel envFormat : Option String) : LogSetup :=
  let name := level.getD (envLevel.getD "INFO")
  ⟨(weights.lookup (Text.upper name)).getD 20, asJson.getD (Text.lower (envFormat.getD "") == "json")⟩

/-- Whether a message of a level is recorded. -/
def admits (s : LogSetup) (level : LogLevel) : Bool :=
  s.threshold ≤ level.weight

/-- How many lines a message has. -/
def lineCount (message : String) : Nat :=
  (Text.splitOn '\n' message).length

/-- The lines that a record is shown as: one of JSON, or as many as its message has, each of which counts as
`plain`. -/
def shown (s : LogSetup) (plain : Value) (r : LogRecord) : List Value :=
  if !s.admits r.level then []
  else if s.asJson then [r.line]
  else List.replicate (lineCount r.message) plain

/-- What is recorded of a record: its level, its source and its message. -/
def recorded (s : LogSetup) (r : LogRecord) : List Value :=
  if s.admits r.level then [.list [.text r.level.name, .text r.source, .text r.message]] else []

end LogSetup

end Deskhand
