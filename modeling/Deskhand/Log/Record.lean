import Deskhand.Calendar.Instant

/-!
# Log records

A `LogRecord` is one message of a part of the program, with its level and the instant at which it was given.
-/

namespace Deskhand

/-- How much a message matters. -/
inductive LogLevel where
  | debug
  | info
  | warning
  | error
  | critical
  deriving DecidableEq, Repr, Inhabited

namespace LogLevel

/-- The name of a level in records. -/
def name : LogLevel → String
  | debug => "DEBUG"
  | info => "INFO"
  | warning => "WARNING"
  | error => "ERROR"
  | critical => "CRITICAL"

/-- The weight of a level. -/
def weight : LogLevel → Nat
  | debug => 10
  | info => 20
  | warning => 30
  | error => 40
  | critical => 50

/-- Every level, the lightest first. -/
def all : List LogLevel := [debug, info, warning, error, critical]

/-- The level of a name. -/
def ofName? (name : String) : Option LogLevel :=
  all.find? (·.name == name)

end LogLevel

/-- One message of a part of the program. -/
structure LogRecord where
  time : Instant
  level : LogLevel
  /-- The part of the program that speaks. -/
  source : String
  message : String
  deriving DecidableEq, Repr, Inhabited

end Deskhand
