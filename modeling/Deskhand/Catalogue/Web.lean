import Deskhand.Fault
import Deskhand.Json.Reader

/-!
# Requests and answers

A catalogue is asked over the web. `Web` holds the answers that are still to come and the requests that were
made; `Web.send` makes one. `Answer.json` is what a catalogue makes of an answer: a success with a JSON body,
or the fault that stands in its way.
-/

namespace Deskhand

/-- A request: an address and named values in order. -/
structure Request where
  url : String
  query : List (String × String)
  deriving DecidableEq, Repr, Inhabited

namespace Request

/-- A request as it is listed: its address and its named values. -/
def listed (r : Request) : Value :=
  .list [.text r.url, .list (r.query.map fun q => .list [.text q.1, .text q.2])]

end Request

/-- What comes of a request. -/
inductive Answer where
  /-- A reply with a status and a body. -/
  | reply (status : Nat) (body : String)
  /-- No reply, for a reason of this name. -/
  | broken (kind reason : String)
  deriving DecidableEq, Repr, Inhabited

namespace Answer

/-- The body of a successful reply. A byte order mark in front is not part of it. -/
def json : Answer → Except Fault Value
  | broken kind reason => .error (.unreachable kind reason)
  | reply status body =>
    if 200 ≤ status && status < 300 then
      match Json.read (if body.startsWith "\ufeff" then Text.drop 1 body else body) with
      | .ok v => .ok v
      | .error .malformed => .error .notJson
      | .error (.tooLong n) => .error (.notInteger (.tooLong n))
    else .error (.badStatus status)

end Answer

/-- The answers to come and the requests made. -/
structure Web where
  answers : List Answer := []
  requests : List Request := []
  deriving DecidableEq, Repr, Inhabited

namespace Web

/-- Make a request. When no answer is left nothing is reached. -/
def send (w : Web) (r : Request) : Answer × Web :=
  match w.answers with
  | [] => (.broken "ConnectError" "no route", { w with requests := w.requests ++ [r] })
  | a :: rest => (a, ⟨rest, w.requests ++ [r]⟩)

end Web

/-- Whether a check that meets this fault on its request reports nothing instead of failing. -/
def Fault.isFailedRequest : Fault → Bool
  | badStatus _ | unreachable _ _ | notJson | notInteger _ => true
  | _ => false

namespace Value

/-- A member that only records have: the value under a name, or nothing. -/
def member (name : String) (v : Value) : Except Fault (Option Value) :=
  match v with
  | record fields => .ok (Entries.find? fields name)
  | _ => .error (.missingMember v "get")

end Value

end Deskhand
