import Deskhand.Block.Basic
import Deskhand.Catalogue.Films
import Deskhand.Catalogue.Videos
import Deskhand.Chat.Bot
import Deskhand.Clock
import Deskhand.Device.Program
import Deskhand.Log.Record
import Deskhand.Store.Settings

/-!
# What actions act on

The `Surroundings` of a run are the clock, the desk with its devices, the chat, the two catalogues, the
settings, the supply of ids and the log. Each collaborator may be missing, and each may be replaced by one
with a prepared answer, which notes on the desk what it was asked.
-/

namespace Deskhand

/-- The chat as actions meet it. -/
inductive ChatService where
  | bot (b : ChatBot)
  /-- A connection that fails to send, for a reason. -/
  | failing (reason : String)
  deriving DecidableEq, Repr, Inhabited

/-- What a prepared collaborator does when it is asked. -/
inductive Prepared where
  | answers (v : Value)
  | fails (reason : String)
  deriving Inhabited

namespace Prepared

/-- The outcome of asking. -/
def outcome : Prepared → Except Fault Value
  | answers v => .ok v
  | fails reason => .error (.refused reason)

end Prepared

/-- The catalogue of videos. -/
inductive VideoService where
  | live (web : Web) (memory : VideoMemory)
  | prepared (p : Prepared)
  deriving Inhabited

/-- The catalogue of films, which answers in a language. -/
inductive FilmService where
  | live (language : String) (web : Web) (memory : FilmMemory)
  | prepared (p : Prepared)
  deriving Inhabited

/-- What the actions of a run act on. -/
structure Surroundings where
  clock : Clock
  desk : Desk := {}
  input : InputDevices := .real none
  chat : Option ChatService := none
  network : ChatNetwork := {}
  videos : Option VideoService := none
  films : Option FilmService := none
  settings : Option Settings := none
  ids : IdSupply := {}
  log : List LogRecord := []
  deriving Inhabited

namespace Surroundings

/-- The wall time. -/
def now (w : Surroundings) : Instant :=
  w.clock.now

/-- Note a message in the log. -/
def report (w : Surroundings) (level : LogLevel) (source message : String) : Surroundings :=
  { w with log := w.log ++ [⟨w.now, level, source, message⟩] }

/-- The bot, if the chat is one. -/
def bot? (w : Surroundings) : Option ChatBot :=
  match w.chat with
  | some (.bot b) => some b
  | _ => none

/-- Replace the bot. -/
def setBot (w : Surroundings) (b : ChatBot) : Surroundings :=
  { w with chat := some (.bot b) }

/-- The part of the program that speaks for the bot. -/
def botSource : String := "flexauto.channels.telegram_adapter"

/-- Send a message to the bound chat. A failing network is noted in the log. -/
def sendChat (w : Surroundings) (b : ChatBot) (text : String) (parseMode : Option String) :
    Bool × Surroundings :=
  let (sent, network) := b.send w.network text parseMode
  let w := { w with network := network }
  if !sent && b.isConfigured && b.chatId.isSome then
    (false, w.report .error botSource ("Failed to send Telegram message: " ++ ChatNetwork.fault.message))
  else (sent, w)

/-- Ask the catalogue of videos. -/
def checkVideos (w : Surroundings) (service : VideoService) (channel key : String) :
    Except Fault Value × Surroundings :=
  match service with
  | .live web memory =>
    let (outcome, web, memory) := Videos.check web memory channel key
    (outcome.map Value.ofText?, { w with videos := some (.live web memory) })
  | .prepared p =>
    (p.outcome, { w with desk := w.desk.did (.call "check_for_new_video" [.text channel, .text key]) })

/-- Ask the catalogue of films. -/
def checkFilms (w : Surroundings) (service : FilmService) (genre period region key : String) :
    Except Fault Value × Surroundings :=
  match service with
  | .live language web memory =>
    let (outcome, web, memory) := Films.check language web memory w.now genre period region key
    (outcome.map fun found => (found.map fun lines => Value.list (lines.map .text)).getD .null,
      { w with films := some (.live language web memory) })
  | .prepared p =>
    let asked := Effect.call "check_for_new_movies" [.text genre, .text period, .text region, .text key]
    (p.outcome, { w with desk := w.desk.did asked })

end Surroundings

end Deskhand
