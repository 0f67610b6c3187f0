import Deskhand.Catalogue.Web

/-!
# New videos of a channel

A check of a channel asks for the newest upload and reports it once: `VideoMemory` holds the id that was last
seen of each channel, and `Videos.commit` reports a video whose id differs from it. `Videos.latest` reads the
id out of an answer.
-/

namespace Deskhand

/-- The id last seen of each channel. -/
abbrev VideoMemory := Entries String Value

namespace Videos

/-- Where uploads are listed. -/
def listUrl : String := "https://www.googleapis.com/youtube/v3/playlistItems"

/-- The playlist of a channel's uploads. -/
def uploadsOf (channel : String) : String :=
  "UU" ++ Text.drop 2 channel

/-- The request for the newest upload of a channel. -/
def request (channel key : String) : Request :=
  ⟨listUrl, [("part", "snippet"), ("playlistId", uploadsOf channel), ("maxResults", "1"), ("key", key)]⟩

/-- The first item of a list of uploads that is not empty. -/
def firstItem : Value → Except Fault Value
  | .list (v :: _) => .ok v
  | .text s => .ok (.text (Text.take 1 s))
  | .record _ => .error (.missingKey (.int 0))
  | v => .error (.unsuited ("'" ++ v.kindName ++ "' object is not subscriptable"))

/-- The id of the newest upload that an answer lists, if it lists one. -/
def latest (answer : Answer) : Except Fault (Option Value) := do
  let body ← answer.json
  match ← body.member "items" with
  | none => return none
  | some items =>
    if !items.isTruthy then return none
    let first ← firstItem items
    let snippet := (← first.member "snippet").getD (.record [])
    let resource := (← snippet.member "resourceId").getD (.record [])
    return (← resource.member "videoId").filter Value.isTruthy

/-- The address of a video. -/
def address (id : Value) : String :=
  "https://youtube.com/watch?v=" ++ id.toText

/-- Whether a channel can be asked for at all. -/
def isChannel (channel : String) : Bool :=
  3 ≤ channel.length

/-- Take note of the newest id of a channel; the address of the video if the id is new. -/
def commit (memory : VideoMemory) (channel : String) (id : Value) : Option String × VideoMemory :=
  if (memory.find? channel).any fun last => last.equal id then (none, memory)
  else (some (address id), memory.put channel id)

/-- Check a channel: the address of its newest video if it was not reported last. A request that fails reports
nothing; an answer of another shape is a fault. -/
def check (web : Web) (memory : VideoMemory) (channel key : String) :
    Except Fault (Option String) × Web × VideoMemory :=
  if isChannel channel then
    let (answer, web) := web.send (request channel key)
    match latest answer with
    | .ok none => (.ok none, web, memory)
    | .ok (some id) =>
      let (found, memory) := commit memory channel id
      (.ok found, web, memory)
    | .error fault => (if fault.isFailedRequest then .ok none else .error fault, web, memory)
  else (.ok none, web, memory)

end Videos

end Deskhand
