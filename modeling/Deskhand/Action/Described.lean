import Deskhand.Action.Perform
import Deskhand.Device.Described
import Deskhand.Json.Writer

/-!
# Described surroundings

The collaborators of a run can be described by a record, like the desk: a bot, a catalogue with the answers
that the web will give, or one with a prepared answer, and the settings. What is not described is missing.
-/

namespace Deskhand

namespace Answer

/-- The answer of the web that a record describes: a failure, or a status with a body. -/
def ofFields (fs : Fields) : Answer :=
  if fs.has "raise" then broken (fs.text "raise") "failed"
  else
    match fs.get "json" with
    | .null => reply (fs.nat "status" 200) (fs.text "text")
    | v => reply (fs.nat "status" 200) (Json.compact v)

end Answer

namespace Web

/-- The web that a record describes. -/
def ofFields (fs : Fields) : Web :=
  { answers := (fs.list "responses").map fun v => .ofFields v.fields }

/-- The requests that were made, as they are listed. -/
def listed (w : Web) : Value :=
  .list (w.requests.map Request.listed)

end Web

namespace Prepared

/-- The prepared answer that a record describes, if it does. -/
def ofFields? (fs : Fields) : Option Prepared :=
  (fs.fields? "stub").map fun stub =>
    if stub.has "raise" then .fails (stub.text "raise") else .answers (stub.get "return")

end Prepared

namespace ChatNetwork

/-- The calls that fail in a network that a record describes. -/
def failuresOf (fs : Fields) : List NetworkCall :=
  let fails := fun (group name : String) (call : NetworkCall) =>
    if (fs.texts group).contains name then [call] else []
  fails "bot" "send_message" .send ++ fails "bot" "set_my_commands" .publishMenu
    ++ (if fs.flag "build" then [.build] else []) ++ fails "app" "initialize" .connect
    ++ fails "app" "start_polling" .startPolling ++ fails "app" "stop" .stop

/-- The network with the failures that a record describes. -/
def disturbedBy (n : ChatNetwork) (fs : Fields) : ChatNetwork :=
  { n with failing := failuresOf fs, stopSeconds := fs.float "stop_seconds" }

/-- The network with the bots that a record describes: their names by token. -/
def withBots (n : ChatNetwork) (fs : Fields) : ChatNetwork :=
  { n with identities := fs.filterMap fun f => f.2.text?.map fun name => (f.1, name) }

end ChatNetwork

namespace CodeDice

/-- The dice that a list of throws describes. -/
def ofValues (vs : List Value) : CodeDice :=
  { throws := vs.filterMap fun v => v.int?.map fun n => (n % 32).toNat }

end CodeDice

namespace ChatService

/-- The bot that a record describes; one that is not configured has no chat. -/
def botOf (fs : Fields) : ChatBot :=
  let configured := fs.flag "configured" true
  { pairingSeconds := fs.int "pairing_timeout_seconds" 120
    windowSeconds := fs.int "command_window_seconds" 10
    isConfigured := configured, chatId := if configured then fs.int? "chat_id" else none }

/-- The chat that a record describes, if it does. -/
def ofFields? (fs : Fields) : Option ChatService :=
  (fs.fields? "telegram").map fun t =>
    match t.text? "stub_raise" with
    | some reason => .failing reason
    | none => .bot (botOf t)

/-- The bot, if the chat is one. -/
def bot? : ChatService → Option ChatBot
  | bot b => some b
  | failing _ => none

end ChatService

namespace VideoService

/-- The catalogue of videos that a record describes, if it does. -/
def ofFields? (fs : Fields) : Option VideoService :=
  (fs.fields? "youtube").map fun v =>
    match Prepared.ofFields? v with
    | some p => .prepared p
    | none => .live (.ofFields v) []

/-- The requests that were made of a live catalogue. -/
def requests : VideoService → Fields
  | live web _ => [("youtube", web.listed)]
  | prepared _ => []

end VideoService

namespace FilmService

/-- The catalogue of films that a record describes, if it does. -/
def ofFields? (fs : Fields) : Option FilmService :=
  (fs.fields? "tmdb").map fun v =>
    match Prepared.ofFields? v with
    | some p => .prepared p
    | none => .live (v.text "language" "uk-UA") (.ofFields v) []

/-- The requests that were made of a live catalogue. -/
def requests : FilmService → Fields
  | live _ web _ => [("tmdb", web.listed)]
  | prepared _ => []

end FilmService

namespace Surroundings

/-- The surroundings that a record describes, with its collaborators under `services`. -/
def ofFields (fs : Fields) : Except Fault Surroundings := do
  let services := fs.fields "services"
  let settings ← (services.fields? "settings").mapM (Settings.withFields {})
  let isCutOff := (services.fields "telegram").flag "fail"
  return { clock := { origin := Clock.start }, desk := .ofFields fs, input := .ofFields services,
           chat := ChatService.ofFields? services, network := { failing := if isCutOff then [.send] else [] },
           videos := VideoService.ofFields? services, films := FilmService.ofFields? services
           settings := settings }

/-- The surroundings with another wall time, if there is one. -/
def setNow (w : Surroundings) (wall : Option Instant) : Surroundings :=
  { w with clock := w.clock.setNow wall }

/-- The requests that were made of live catalogues. -/
def requests (w : Surroundings) : Value :=
  .record ((w.videos.map VideoService.requests).getD [] ++ (w.films.map FilmService.requests).getD [])

/-- What was sent to the chat and asked of the web, and what was done to the desk, under their names. -/
def traces (w : Surroundings) : Fields :=
  [("effects", w.desk.listed), ("sent", .list (w.network.sent.map ChatMessage.record)),
   ("requests", w.requests)]

end Surroundings

namespace ActionResult

/-- An answer as a record. -/
def record : ActionResult → Fields
  | ok v => [("success", .bool true), ("error_message", .null), ("value", v)]
  | failed reason => [("success", .bool false), ("error_message", .ofText? reason), ("value", .null)]

end ActionResult

namespace Action

/-- Perform an action block to its end, letting the clock move through its wait. -/
def complete (b : Block) (c : Context) (w : Surroundings) :
    Except Fault ActionResult × Context × Surroundings :=
  let p := perform b c w
  let w := p.surroundings
  match p.progress with
  | .finished r => (.ok r, p.context, w)
  | .waiting seconds => (.ok (.ok .null), p.context, { w with clock := w.clock.wait seconds })
  | .raised fault => (.error fault, p.context, w)

end Action

end Deskhand
