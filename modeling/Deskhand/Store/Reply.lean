import Deskhand.Store.Basic

/-!
# Answers of the store as records

Whoever asks the store for a change gets a record: whether it was made, and then what became of it, or else
why not.
-/

namespace Deskhand.Store

/-- A change that was made, with what there is to say of it. -/
def success (fs : Fields) : Fields :=
  ("success", .bool true) :: fs

/-- A change that was declined. -/
def declined (reason : String) : Fields :=
  [("success", .bool false), ("error", .text reason)]

/-- The record of an answer. -/
def reply {α : Type} (f : α → Fields) : Answer α → Except Fault Fields
  | .error fault => .error fault
  | .ok (.error refusal) => .ok (declined refusal.message)
  | .ok (.ok a) => .ok (success (f a))

/-- What there is to say of a scenario that was changed. -/
def changed (s : Scenario) : Fields :=
  [("data", .record s.record)]

/-- What there is to say of a scenario that was made. -/
def created (s : Scenario) : Fields :=
  changed s ++ [("message", .text ("Scenario created with ID " ++ s.id))]

/-- What there is to say of a scenario that was dropped. -/
def deleted (id : String) (_ : Unit) : Fields :=
  [("message", .text ("Scenario " ++ id ++ " deleted"))]

end Deskhand.Store
