/-!
# Notices

A `NoticeBoard` tells its subscribers of every event, in the order in which they subscribed, each once. What a
subscriber makes of it does not matter to the others: one may leave when it is told, and one that fails is noted
in the log.
-/

namespace Deskhand

/-- What a subscriber does when it is told of an event. -/
inductive Reaction where
  | stays
  | leaves
  /-- It fails, for a reason, and stays. -/
  | fails (reason : String)
  deriving DecidableEq, Repr, Inhabited

/-- The subscribers to events, by name. -/
structure NoticeBoard where
  subscribers : List (String × Reaction) := []
  deriving DecidableEq, Repr, Inhabited

namespace NoticeBoard

/-- The part of the program that speaks for notices. -/
def source : String := "flexauto.automation.events"

/-- Add a subscriber, once. -/
def subscribe (b : NoticeBoard) (name : String) (reaction : Reaction := .stays) : NoticeBoard :=
  if b.subscribers.any (·.1 == name) then b else ⟨b.subscribers ++ [(name, reaction)]⟩

/-- Drop a subscriber. -/
def unsubscribe (b : NoticeBoard) (name : String) : NoticeBoard :=
  ⟨b.subscribers.filter (·.1 != name)⟩

/-- Tell one subscriber of an event. -/
def tell (b : NoticeBoard) (subscriber : String × Reaction) : NoticeBoard :=
  match subscriber.2 with
  | .leaves => b.unsubscribe subscriber.1
  | .stays | .fails _ => b

/-- Tell of an event: who is told, in order, and the board afterwards. Those are told who were subscribers at
the beginning. -/
def publish (b : NoticeBoard) : List String × NoticeBoard :=
  b.subscribers.foldl (fun (told, board) subscriber => (told ++ [subscriber.1], board.tell subscriber)) ([], b)

/-- What is noted of a subscriber that is told of an event. -/
def complaint? (subscriber : String × Reaction) : Option String :=
  match subscriber.2 with
  | .fails reason => some ("Event subscriber " ++ subscriber.1 ++ " failed: " ++ reason)
  | .stays | .leaves => none

/-- What is noted when subscribers are told of an event, in order. -/
def complaints (b : NoticeBoard) : List String :=
  b.subscribers.filterMap complaint?

end NoticeBoard

end Deskhand
