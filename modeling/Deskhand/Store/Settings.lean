import Deskhand.Fault
import Deskhand.Fields
import Deskhand.Number.Integer
import Deskhand.Text.Blank
import Deskhand.Text.Case
import Deskhand.Text.Pieces
import Deskhand.Value

/-!
# Settings

The `Settings` hold the keys of the catalogues and what is known of the chat: the token of the bot, the chat
it is bound to, a pairing code that waits to be used, and whether the chat is used at all. `SettingName` names
the fields; `Settings.change` reads a field from text, and `Settings.masked` hides the secret ones for
display.
-/

namespace Deskhand

/-- The settings of the program. -/
structure Settings where
  videoKey : String := ""
  filmKey : String := ""
  botToken : String := ""
  chatId : Option Int := none
  pairingCode : String := ""
  chatEnabled : Bool := false
  deriving DecidableEq, Repr, Inhabited

/-- The fields of the settings. -/
inductive SettingName where
  | videoKey
  | filmKey
  | botToken
  | chatId
  | pairingCode
  | chatEnabled
  deriving DecidableEq, Repr, Inhabited

namespace SettingName

/-- Every field, in the order in which they are listed. -/
def all : List SettingName :=
  [videoKey, filmKey, botToken, chatId, pairingCode, chatEnabled]

/-- The name under which a field is known outside. -/
def name : SettingName → String
  | videoKey => "youtube_api_key"
  | filmKey => "tmdb_api_key"
  | botToken => "telegram_bot_token"
  | chatId => "telegram_chat_id"
  | pairingCode => "pairing_code"
  | chatEnabled => "telegram_enabled"

/-- The field of a name. -/
def ofName? (s : String) : Option SettingName :=
  all.find? fun f => f.name == s

/-- Whether a field is not to be shown. -/
def isSecret : SettingName → Bool
  | videoKey | filmKey | botToken => true
  | _ => false

end SettingName

namespace Settings

/-- The value of a field. -/
def get (s : Settings) : SettingName → Value
  | .videoKey => .text s.videoKey
  | .filmKey => .text s.filmKey
  | .botToken => .text s.botToken
  | .chatId => .ofInt? s.chatId
  | .pairingCode => .text s.pairingCode
  | .chatEnabled => .bool s.chatEnabled

/-- The settings as a record. -/
def record (s : Settings) : Entries String Value :=
  SettingName.all.map fun f => (f.name, s.get f)

/-- The settings with the fields of a record in place of their own. A name that is none of theirs is a fault.
-/
def withFields (s : Settings) (fs : Fields) : Except Fault Settings :=
  if fs.any fun f => (SettingName.ofName? f.1).isNone then .error (.unsuited "unexpected argument")
  else
    .ok { videoKey := fs.text "youtube_api_key" s.videoKey
          filmKey := fs.text "tmdb_api_key" s.filmKey
          botToken := fs.text "telegram_bot_token" s.botToken
          chatId := if fs.has "telegram_chat_id" then fs.int? "telegram_chat_id" else s.chatId
          pairingCode := fs.text "pairing_code" s.pairingCode
          chatEnabled := fs.flag "telegram_enabled" s.chatEnabled }

/-- The words that switch the chat on. -/
def onWords : List String := ["1", "true", "yes", "on"]

/-- Whether a text switches something on. -/
def isOn (text : String) : Bool :=
  onWords.contains (Text.lower (Text.trim text))

/-- The chat that a text names: none when it is blank. -/
def readChatId (text : String) : Except Integer.Refusal (Option Int) :=
  if Text.isBlankText text then .ok none else (Integer.read text).map some

/-- Read a field from text. -/
def change (s : Settings) (field : SettingName) (text : String) : Except Integer.Refusal Settings :=
  match field with
  | .videoKey => .ok { s with videoKey := text }
  | .filmKey => .ok { s with filmKey := text }
  | .botToken => .ok { s with botToken := text }
  | .pairingCode => .ok { s with pairingCode := text }
  | .chatEnabled => .ok { s with chatEnabled := isOn text }
  | .chatId => (readChatId text).map fun chat => { s with chatId := chat }

/-- The settings once a chat is bound. -/
def bound (s : Settings) (chat : Int) : Settings :=
  { s with chatId := some chat, pairingCode := "" }

/-- The settings without what is known of the chat. -/
def disconnected (s : Settings) : Settings :=
  { s with botToken := "", chatId := none, pairingCode := "", chatEnabled := false }

/-- The settings with a code that waits to be used. -/
def offering (s : Settings) (code : String) : Settings :=
  { s with pairingCode := code, chatEnabled := true }

/-- A secret with all but its ends hidden; short ones are hidden whole. -/
def mask : Value → Value
  | .text s =>
    if s.length > 8 then .text (Text.take 4 s ++ "…" ++ Text.drop (s.length - 4) s)
    else if s == "" then .text s
    else .text "***"
  | v => if v.isTruthy then .text "***" else v

/-- The settings as a record in which secrets are hidden. -/
def masked (s : Settings) : Entries String Value :=
  SettingName.all.map fun f => (f.name, if f.isSecret then mask (s.get f) else s.get f)

end Settings

end Deskhand
