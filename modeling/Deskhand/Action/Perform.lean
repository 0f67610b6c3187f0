import Deskhand.Action.Surroundings
import Deskhand.Block.Basic
import Deskhand.Run.Template

/-!
# Performing actions

`Action.perform` performs one action block. It answers with an `ActionResult`, asks to wait before its answer
counts (`Progress.waiting`), or meets a fault that is not answered for (`Progress.raised`). What an action
records goes into the context under its own id.
-/

namespace Deskhand

/-- The answer of an action. -/
inductive ActionResult where
  /-- The action was performed, with a value if it has one. -/
  | ok (value : Value)
  /-- The action failed, for a reason that may go unnamed. -/
  | failed (reason : Option String)
  deriving Inhabited

namespace ActionResult

/-- Whether the action was performed. -/
def isOk : ActionResult → Bool
  | ok _ => true
  | failed _ => false

end ActionResult

/-- How far an action has come. -/
inductive Progress where
  | finished (result : ActionResult)
  /-- The action is performed after some seconds. -/
  | waiting (seconds : Float)
  | raised (fault : Fault)
  deriving Inhabited

/-- What an action leaves: how far it has come, the context and the surroundings. -/
structure Performance where
  progress : Progress
  context : Context
  surroundings : Surroundings
  deriving Inhabited

namespace Action

/-- The beginning of a text that is long, for display. -/
def preview (text : String) : String :=
  if text.length ≤ 100 then text else Text.take 100 text ++ "..."

/-- Whether a parameter says yes. -/
def isTrue (value : String) : Bool :=
  Text.lower (Text.trim value) == "true"

/-- A failure with a reason. -/
def fail (reason : String) : ActionResult :=
  .failed (some reason)

/-- The answer of an action for the reply of a device. -/
def ofReply (what : String) : Except Fault Reply → Progress
  | .ok .done => .finished (.ok .null)
  | .ok (.refused reason) => .finished (.failed reason)
  | .error fault =>
    match fault with
    | .missingMember _ _ => .raised fault
    | _ => .finished (fail (what ++ " failed: " ++ fault.message))

/-- Wait for a number of milliseconds. -/
def delay (b : Block) : Progress :=
  match b.param? "Milliseconds" with
  | none => .finished (fail "Delay duration is not set")
  | some raw =>
    match (Integer.read? raw).filter (0 ≤ ·) with
    | none => .finished (fail ("Invalid delay duration: " ++ raw))
    | some millis =>
      match Binary.ofRatio? millis.toNat 1000 with
      | some seconds => .waiting seconds
      | none => .raised (.overflow "integer division result too large for a float")

/-- Click at a place on the screen. -/
def click (b : Block) (w : Surroundings) : Progress × Surroundings :=
  match Integer.read? (b.param "X" ""), Integer.read? (b.param "Y" "") with
  | none, _ => (.finished (fail "Invalid X coordinate"), w)
  | some _, none => (.finished (fail "Invalid Y coordinate"), w)
  | some x, some y =>
    let (reply, desk) := w.input.click w.desk x y (b.param "Button" "Left")
    (ofReply "Mouse click" reply, { w with desk := desk })

/-- Whether a typing action types key by key. -/
def isKeyByKey (b : Block) : Bool :=
  Text.lower (b.param "InputMethod" "Type") != "paste"
    && Text.lower (b.param "InputMode" "CharByChar") == "charbychar"

/-- The text that a typing action types, made from the text of its template. -/
def typedText (b : Block) (text : String) : String :=
  if isTrue (b.param "EscapeBackslashes" "") then Text.replaceChar '\\' "\\\\" text else text

/-- Type a text. -/
def typeText (b : Block) (c : Context) (w : Surroundings) : Progress × Surroundings :=
  match b.param? "Text" with
  | none => (.finished (fail "Text is not set"), w)
  | some template =>
    match Template.render template c (.ofName (b.param "ListFormat" "Space")) with
    | .skip => (.finished (.ok .null), w)
    | .text text =>
      if text == "" then (.finished (.ok .null), w)
      else
        let (reply, desk) := w.input.typeText w.desk (typedText b text) (isKeyByKey b)
        (ofReply "Keyboard input" reply, { w with desk := desk })

/-- The answer of closing programs. -/
def ofClosing : Except String Nat → Progress
  | .ok _ => .finished (.ok .null)
  | .error reason => .finished (fail reason)

/-- Open or close a program. -/
def process (b : Block) (w : Surroundings) : Progress × Surroundings :=
  match b.param? "Action" with
  | none => (.finished (fail "Process action is not set"), w)
  | some action =>
    let path := b.param? "Path"
    let name := b.param? "ProcessName"
    if path.isNone && name.isNone then (.finished (fail "Neither Path nor ProcessName is set"), w)
    else
      match Text.lower (Text.trim action) with
      | "open" =>
        match path with
        | none => (.finished (fail "Open requires a Path"), w)
        | some path =>
          let (reply, desk) := Program.openPath w.desk path
          (ofReply "Process action" reply, { w with desk := desk })
      | "close" =>
        let target := name.getD (Path.ofText (path.getD "")).stem
        let (outcome, desk) := Program.closeName w.desk target
        (ofClosing outcome, { w with desk := desk })
      | other => (.finished (fail ("Unknown process action: " ++ other)), w)

/-- The key of a catalogue: the parameter, or else what the settings hold, unless that is empty. -/
def catalogueKey? (b : Block) (w : Surroundings) (stored : Settings → String) : Option String :=
  (b.param? "ApiKey").orElse fun _ => (w.settings.map stored).filter (· != "")

/-- Check a channel for a new video. -/
def checkVideo (b : Block) (c : Context) (w : Surroundings) : Performance :=
  match b.param? "ChannelId", catalogueKey? b w Settings.videoKey, w.videos with
  | none, _, _ => ⟨.finished (fail "ChannelId is not set"), c, w⟩
  | some _, none, _ => ⟨.finished (fail "YouTube API key is not set"), c, w⟩
  | some _, some _, none => ⟨.finished (fail "YouTube service is not available"), c, w⟩
  | some channel, some key, some service =>
    match w.checkVideos service channel key with
    | (.error fault, w) => ⟨.finished (fail ("YouTube check failed: " ++ fault.message)), c, w⟩
    | (.ok .null, w) => ⟨.finished (.ok .null), c, w⟩
    | (.ok url, w) => ⟨.finished (.ok url), c.record b.id url, w⟩

/-- Whether a value has a number of items to report. -/
def isCountable : Value → Bool
  | .text _ | .list _ | .record _ => true
  | _ => false

/-- Check a genre for new films. -/
def checkFilms (b : Block) (c : Context) (w : Surroundings) : Performance :=
  match b.param? "Genre", catalogueKey? b w Settings.filmKey, w.films with
  | none, _, _ => ⟨.finished (fail "Genre is not set"), c, w⟩
  | some _, none, _ => ⟨.finished (fail "TMDb API key is not set"), c, w⟩
  | some _, some _, none => ⟨.finished (fail "TMDb service is not available"), c, w⟩
  | some genre, some key, some service =>
    match w.checkFilms service genre (b.param "Period" "Week") (b.param "Region" "UA") key with
    | (.error fault, w) => ⟨.finished (fail ("TMDb check failed: " ++ fault.message)), c, w⟩
    | (.ok films, w) =>
      if !films.isTruthy then ⟨.finished (.ok .null), c, w⟩
      else if isCountable films then ⟨.finished (.ok films), c.record b.id films, w⟩
      else
        let fault : Fault := .unsuited ("object of type '" ++ films.kindName ++ "' has no len()")
        ⟨.raised fault, c.record b.id films, w⟩

/-- Send a message to the chat. -/
def sendChat (b : Block) (c : Context) (w : Surroundings) : Progress × Surroundings :=
  match b.param? "Message" with
  | none => (.finished (fail "Message is not set"), w)
  | some template =>
    match Template.render template c (.ofName (b.param "ListFormat" "NewLine")) with
    | .skip => (.finished (.ok .null), w)
    | .text text =>
      if Text.isBlankText text then (.finished (.ok .null), w)
      else
        match w.chat with
        | none => (.finished (fail "Telegram bot is not configured"), w)
        | some (.failing reason) => (.finished (fail ("Telegram send failed: " ++ reason)), w)
        | some (.bot bot) =>
          if !bot.isConfigured then (.finished (fail "Telegram bot is not configured"), w)
          else
            let (sent, w) := w.sendChat bot text none
            if sent then (.finished (.ok .null), w)
            else (.finished (fail "Telegram message was not delivered"), w)

/-- Perform an action block. -/
def perform (b : Block) (c : Context) (w : Surroundings) : Performance :=
  match b.kind with
  | .delay => ⟨delay b, c, w⟩
  | .mouseClick =>
    let (p, w) := click b w
    ⟨p, c, w⟩
  | .keyboardInput =>
    let (p, w) := typeText b c w
    ⟨p, c, w⟩
  | .processAction =>
    let (p, w) := process b w
    ⟨p, c, w⟩
  | .videoCheck => checkVideo b c w
  | .filmCheck => checkFilms b c w
  | .chatSend =>
    let (p, w) := sendChat b c w
    ⟨p, c, w⟩
  | _ => ⟨.finished (.ok .null), c, w⟩

end Action

end Deskhand
