import Deskhand.Value

/-!
# Faults

A `Fault` is the cause of a failure that is not an answer of its own: a number beyond its range, a value of an
unsuitable kind, a device or a service that refuses. `Fault.message` is the one place that words them.
-/

namespace Deskhand

namespace Value

/-- The name of the kind of a value, as it appears in messages. -/
def kindName : Value → String
  | null => "NoneType"
  | bool _ => "bool"
  | int _ => "int"
  | float _ => "float"
  | text _ => "str"
  | date _ => "datetime.date"
  | list _ => "list"
  | record _ => "dict"

end Value

/-- Why a file cannot be read. -/
inductive FileRefusal where
  | missing
  | isDirectory
  /-- Something that is no directory would have to hold it. -/
  | notInDirectory
  deriving DecidableEq, Repr, Inhabited

/-- The wording of a refusal. -/
def FileRefusal.message : FileRefusal → String
  | missing => "[Errno 2] No such file or directory"
  | isDirectory => "[Errno 21] Is a directory"
  | notInDirectory => "[Errno 20] Not a directory"

/-- The cause of a failure. -/
inductive Fault where
  /-- A number, a span or a date lies beyond its range. -/
  | overflow (reason : String)
  /-- A text should be an integer and is not. -/
  | notInteger (refusal : Integer.Refusal)
  /-- A text should be a number and is not. -/
  | notNumber (text : String)
  /-- A number is outside what an operation takes. -/
  | outOfRange (reason : String)
  /-- A record has no such key. -/
  | missingKey (key : Value)
  /-- A value has no such member, being of another kind. -/
  | missingMember (value : Value) (member : String)
  /-- A value is of a kind that an operation does not take. -/
  | unsuited (reason : String)
  /-- A service was reached and did not answer with success. -/
  | badStatus (status : Nat)
  /-- A service could not be reached, for a reason of this name. -/
  | unreachable (kind reason : String)
  /-- An answer of a service is not JSON. -/
  | notJson
  /-- A device, a bot or a store refuses. -/
  | refused (reason : String)
  /-- The operating system refuses. -/
  | system (reason : String)
  /-- A file cannot be read. -/
  | unreadable (refusal : FileRefusal) (path : String)
  /-- A column of the store that must hold a value would be empty. -/
  | emptyColumn (column : String)
  /-- A value of a kind that the store cannot hold. -/
  | unstorable (kind : String)
  deriving Inhabited

namespace Integer

/-- The wording of a refusal. -/
def Refusal.message : Refusal → String
  | malformed s => "invalid literal for int() with base 10: " ++ Text.quoted s
  | tooLong n =>
    "Exceeds the limit (4300 digits) for integer string conversion: value has " ++ toString n
      ++ " digits; use sys.set_int_max_str_digits() to increase the limit"

end Integer

namespace Fault

/-- The wording of a fault. -/
def message : Fault → String
  | overflow reason => reason
  | notInteger refusal => refusal.message
  | notNumber s => "could not convert string to float: " ++ Text.quoted s
  | outOfRange reason => reason
  | missingKey key => key.nested
  | missingMember v m => "'" ++ v.kindName ++ "' object has no attribute '" ++ m ++ "'"
  | unsuited reason => reason
  | badStatus status => "status " ++ toString status
  | unreachable _ reason => reason
  | notJson => "Expecting value"
  | refused reason => reason
  | system reason => reason
  | unreadable refusal path => refusal.message ++ ": " ++ Text.quoted path
  | emptyColumn column => "NOT NULL constraint failed: scenarios." ++ column
  | unstorable kind => "type '" ++ kind ++ "' is not supported"

/-- The fault of a date beyond the calendar. -/
def dateOverflow : Fault := overflow "date value out of range"

end Fault

end Deskhand
