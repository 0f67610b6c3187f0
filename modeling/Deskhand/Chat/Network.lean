import Deskhand.Fault

/-!
# The chat network

The network carries messages and command menus out, and decides which calls of a bot fail. A `ChatNetwork`
keeps what was sent and published, the earliest first.
-/

namespace Deskhand

/-- A message to a chat. -/
structure ChatMessage where
  chat : Int
  text : String
  parseMode : Option String := none
  deriving DecidableEq, Repr, Inhabited

namespace ChatMessage

/-- A message as a record. -/
def record (m : ChatMessage) : Value :=
  .record [("chat_id", .int m.chat), ("text", .text m.text), ("parse_mode", .ofText? m.parseMode)]

end ChatMessage

/-- A command menu: commands with their descriptions. -/
abbrev ChatMenu := List (String × String)

namespace ChatMenu

/-- A menu as it is listed. -/
def listed (m : ChatMenu) : Value :=
  .list (m.map fun c => .list [.text c.1, .text c.2])

end ChatMenu

/-- The calls that can fail. -/
inductive NetworkCall where
  | send
  | publishMenu
  | build
  | connect
  | startPolling
  | stop
  deriving DecidableEq, Repr, Inhabited

/-- The chat network as a bot meets it. -/
structure ChatNetwork where
  /-- The calls that fail at present. -/
  failing : List NetworkCall := []
  /-- The seconds that it takes to stop polling. -/
  stopSeconds : Float := 0.0
  /-- The tokens that the network knows, with the names of their bots. -/
  identities : List (String × String) := []
  sent : List ChatMessage := []
  menus : List ChatMenu := []
  deriving DecidableEq, Repr, Inhabited

namespace ChatNetwork

/-- Whether a call fails. -/
def fails (n : ChatNetwork) (call : NetworkCall) : Bool :=
  n.failing.contains call

/-- Whether a token is that of a bot with a name. -/
def recognises (n : ChatNetwork) (token : String) : Bool :=
  (n.identities.lookup token).any (· != "")

/-- The fault of a call that fails. -/
def fault : Fault := .refused "network"

end ChatNetwork

end Deskhand
