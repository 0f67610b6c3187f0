import Deskhand.Calendar.Instant
import Deskhand.Chat.Command

/-!
# Recent commands

Accepted commands are kept for a minute after they came, measured against the newest one. `Recent.add` takes a
command in and drops what is too old, and `Recent.hasSince` asks whether a command came after an instant.
-/

namespace Deskhand

/-- Commands in their normal form with the instants at which they came, the earliest first. -/
abbrev Recent := List (String × Instant)

namespace Recent

/-- How long a command is kept, in microseconds. -/
def lifetime : Nat := 60 * 1000000

/-- Whether a command came so long before an instant that it is dropped. -/
def isOld (now : Instant) (entry : String × Instant) : Bool :=
  entry.2.micros + lifetime < now.micros

/-- Take a message in and drop the commands at the front that are too old. -/
def add (recent : Recent) (text : String) (now : Instant) : Recent :=
  (recent ++ [(Chat.normalCommand text, now)]).dropWhile (isOld now)

/-- Whether a command came after an instant. -/
def hasSince (recent : Recent) (command : String) (since : Instant) : Bool :=
  recent.any fun entry => entry.1 == Chat.normalCommand command && since < entry.2

end Recent

end Deskhand
