import Deskhand.Chat.Bot
import Deskhand.Clock
import Deskhand.Proofs.Text.Blank

/-!
# Who can bind a bot and command it

A `ChatBot.Scene` is a bot with what lies around it, and an `Event` is one thing that happens there: a code is
announced or given up, a message comes from some chat, the clock moves, the network changes. A run is any list
of events from any scene, and `Scene.course` is each of its events with the scene in which it came. Main
statements:

* `handle_cases`: the three ways of a message;
* `countP_binds_le`: no more messages bind a chat than codes were announced;
* `mem_recent_afterAll`, `of_mem_deliveries`: what is recorded, and what is delivered, came from the bound chat;
* `guarded`: all of this, of every run.
-/

namespace Deskhand

namespace ChatBot

/-- A bot, the network and the wall clock. -/
structure Scene where
  bot : ChatBot
  network : ChatNetwork := {}
  clock : Instant
  deriving DecidableEq, Repr, Inhabited

/-- What happens to a bot. -/
inductive Event where
  | startPairing (given : Option String)
  | stopPairing
  /-- A message of a chat, which counts as coming at an instant other than that of the clock if one is given. -/
  | message (text : String) (chat : Int) (now : Option Instant)
  | clock (now : Instant)
  | network (network : ChatNetwork)
  deriving DecidableEq, Repr

/-- Whether a code is announced. -/
def Event.isStart : Event → Bool
  | .startPairing _ => true
  | _ => false

namespace Scene

/-- What becomes of a message. -/
def handle (s : Scene) (text : String) (chat : Int) (now : Option Instant) : Receipt :=
  s.bot.receive s.network s.clock (now.getD s.clock) text chat

/-- The scene after an event. -/
def after (s : Scene) : Event → Scene
  | .startPairing given => { s with bot := (s.bot.startPairing s.clock given).2 }
  | .stopPairing => { s with bot := s.bot.stopPairing }
  | .message text chat now =>
    let r := s.handle text chat now
    { s with bot := r.bot, network := r.network }
  | .clock now => { s with clock := now }
  | .network network => { s with network := network }

/-- What is delivered to subscribers when an event comes. -/
def deliveries (s : Scene) : Event → List Delivery
  | .message text chat now => (s.handle text chat now).deliveries
  | _ => []

/-- The scene after several events. -/
def afterAll (s : Scene) (events : List Event) : Scene :=
  events.foldl after s

/-- Several events, each with the scene in which it comes. -/
def course (s : Scene) : List Event → List (Scene × Event)
  | [] => []
  | e :: rest => (s, e) :: (s.after e).course rest

@[simp] theorem afterAll_nil (s : Scene) : s.afterAll [] = s := rfl

@[simp] theorem afterAll_cons (s : Scene) (e : Event) (rest : List Event) :
    s.afterAll (e :: rest) = (s.after e).afterAll rest := rfl

/-- Whether a message is the code in force, trimmed and without regard to letter case, before it expires. -/
def IsPairing (s : Scene) (text : String) : Prop :=
  ∃ p, s.bot.pairing = some p ∧ s.clock < p.expires ∧
    Text.lower (Text.trim text) = Text.lower ("/pair " ++ p.code)

/-- Whether an event is a message that binds its chat. -/
def Binds (s : Scene) : Event → Prop
  | .message text _ _ => s.IsPairing text
  | _ => False

/-! ## One message -/

theorem isPairing_iff {s : Scene} {text : String} :
    ((s.bot.pairingAt s.clock).any (·.accepts (Text.trim text))) = true ↔ s.IsPairing text := by
  simp [IsPairing, pairingAt, Pairing.isValid, Pairing.accepts, Text.trim_trim, Option.any_eq_true]

instance (s : Scene) (text : String) : Decidable (s.IsPairing text) :=
  decidable_of_iff _ isPairing_iff

instance (s : Scene) : (e : Event) → Decidable (s.Binds e)
  | .message text _ _ => inferInstanceAs (Decidable (s.IsPairing text))
  | .startPairing _ | .stopPairing | .clock _ | .network _ => inferInstanceAs (Decidable False)

/-- The message that binds its chat uses the code up, and subscribers are told of the chat only. -/
theorem handle_of_isPairing {s : Scene} {text : String} (h : s.IsPairing text) (chat : Int) (now : Option Instant) :
    (s.handle text chat now).bot = { s.bot with chatId := some chat, pairing := none } ∧
      (s.handle text chat now).deliveries = s.bot.pairedSubscribers.map fun name => .paired name chat := by
  simp [handle, receive, isPairing_iff.mpr h]

/-- Any other message of a chat that is not bound changes nothing. -/
theorem handle_of_stranger {s : Scene} {text : String} {chat : Int} (h : ¬s.IsPairing text)
    (hchat : s.bot.chatId ≠ some chat) (now : Option Instant) :
    s.handle text chat now = ⟨false, s.bot, s.network, [], false⟩ := by
  rw [handle, receive, if_neg (mt isPairing_iff.mp h), if_pos hchat]

/-- Any other message of the bound chat asks for the commands, or is recorded and delivered. -/
theorem handle_of_bound {s : Scene} {text : String} {chat : Int} (h : ¬s.IsPairing text)
    (hchat : s.bot.chatId = some chat) (now : Option Instant) :
    ((s.handle text chat now).bot = s.bot ∧ (s.handle text chat now).deliveries = []) ∨
      ((s.handle text chat now).bot =
          { s.bot with recent := s.bot.recent.add (Text.trim text) (now.getD s.clock) } ∧
        (s.handle text chat now).deliveries =
          s.bot.subscribers.map fun name => .command name (Text.trim text) chat) := by
  rw [handle, receive, if_neg (mt isPairing_iff.mp h), if_neg (not_not.mpr hchat)]
  split
  · exact .inl ⟨rfl, rfl⟩
  · exact .inr ⟨rfl, rfl⟩

/-- The three ways of a message: it binds its chat, it is recorded and delivered, or the bot stays as it is. -/
theorem handle_cases (s : Scene) (text : String) (chat : Int) (now : Option Instant) :
    (s.IsPairing text ∧ (s.handle text chat now).bot = { s.bot with chatId := some chat, pairing := none } ∧
        (s.handle text chat now).deliveries = s.bot.pairedSubscribers.map fun name => .paired name chat) ∨
      (¬s.IsPairing text ∧ s.bot.chatId = some chat ∧
        (s.handle text chat now).bot =
          { s.bot with recent := s.bot.recent.add (Text.trim text) (now.getD s.clock) } ∧
        (s.handle text chat now).deliveries =
          s.bot.subscribers.map fun name => .command name (Text.trim text) chat) ∨
      (¬s.IsPairing text ∧ (s.handle text chat now).bot = s.bot ∧ (s.handle text chat now).deliveries = []) := by
  by_cases hpairing : s.IsPairing text
  · exact .inl ⟨hpairing, handle_of_isPairing hpairing chat now⟩
  · refine .inr ?_
    by_cases hchat : s.bot.chatId = some chat
    · obtain hsame | hadded := handle_of_bound hpairing hchat now
      · exact .inr ⟨hpairing, hsame⟩
      · exact .inl ⟨hpairing, hchat, hadded⟩
    · rw [handle_of_stranger hpairing hchat]
      exact .inr ⟨hpairing, rfl, rfl⟩

/-! ## One event -/

/-- An announcement leaves the chat and what is recorded alone. -/
theorem startPairing_frame (b : ChatBot) (now : Instant) (given : Option String) :
    (b.startPairing now given).2.chatId = b.chatId ∧ (b.startPairing now given).2.recent = b.recent := by
  rw [startPairing]
  cases now.shift? (b.pairingSeconds * Span.second) <;> exact ⟨rfl, rfl⟩

/-- The chat after an event is the one before it, or that of the message that binds it. -/
theorem chatId_after (s : Scene) (e : Event) :
    (s.after e).bot.chatId = s.bot.chatId ∨
      ∃ text chat now, e = .message text chat now ∧ s.IsPairing text ∧ (s.after e).bot.chatId = some chat := by
  cases e with
  | message text chat now =>
    obtain ⟨hpairing, hbot, -⟩ | ⟨-, -, hbot, -⟩ | ⟨-, hbot, -⟩ := handle_cases s text chat now
    · exact .inr ⟨text, chat, now, rfl, hpairing, by rw [after, hbot]⟩
    · exact .inl (by rw [after, hbot])
    · exact .inl (by rw [after, hbot])
  | startPairing given => exact .inl (startPairing_frame ..).1
  | stopPairing | clock _ | network _ => exact .inl rfl

/-- What is recorded after an event was so before it, or is the message of the bound chat. -/
theorem mem_recent_after {s : Scene} {e : Event} {entry : String × Instant} (h : entry ∈ (s.after e).bot.recent) :
    entry ∈ s.bot.recent ∨
      ∃ text chat now, e = .message text chat now ∧ ¬s.IsPairing text ∧ s.bot.chatId = some chat ∧
        entry = (Chat.normalCommand (Text.trim text), now.getD s.clock) := by
  cases e with
  | message text chat now =>
    rw [after] at h
    obtain ⟨-, hbot, -⟩ | ⟨hpairing, hchat, hbot, -⟩ | ⟨-, hbot, -⟩ := handle_cases s text chat now
    all_goals rw [hbot] at h
    · exact .inl h
    · have hadded := (List.dropWhile_sublist _).subset h
      refine (List.mem_append.mp hadded).imp_right fun hnew => ?_
      exact ⟨text, chat, now, rfl, hpairing, hchat, List.mem_singleton.mp hnew⟩
    · exact .inl h
  | startPairing given => exact .inl (by rwa [after, (startPairing_frame ..).2] at h)
  | stopPairing | clock _ | network _ => exact .inl h

/-- A command that is delivered is a message of the bound chat. -/
theorem of_mem_deliveries {s : Scene} {e : Event} {name command : String} {chat : Int}
    (h : .command name command chat ∈ s.deliveries e) :
    ∃ text now, e = .message text chat now ∧ ¬s.IsPairing text ∧ s.bot.chatId = some chat ∧
      command = Text.trim text := by
  cases e with
  | message text sender now =>
    rw [deliveries] at h
    obtain ⟨-, -, hpaired⟩ | ⟨hpairing, hchat, -, hcommands⟩ | ⟨-, -, hnone⟩ := handle_cases s text sender now
    · rw [hpaired] at h
      obtain ⟨_, -, hdelivery⟩ := List.mem_map.mp h
      cases hdelivery
    · rw [hcommands] at h
      obtain ⟨_, -, hdelivery⟩ := List.mem_map.mp h
      cases hdelivery
      exact ⟨text, now, rfl, hpairing, hchat, rfl⟩
    · rw [hnone] at h
      cases h
  | startPairing _ | stopPairing | clock _ | network _ => cases h

/-! ## A run -/

/-- How many codes are in force: one or none. -/
def codes (s : Scene) : Nat :=
  if s.bot.pairing.isSome then 1 else 0

/-- A message that binds a chat uses the code in force up. -/
theorem codes_of_binds {s : Scene} {e : Event} (h : s.Binds e) : s.codes = 1 ∧ (s.after e).codes = 0 := by
  cases e with
  | message text chat now =>
    obtain ⟨p, hp, -⟩ := id h
    rw [codes, codes, hp, after, (handle_of_isPairing h chat now).1]
    exact ⟨rfl, rfl⟩
  | startPairing _ | stopPairing | clock _ | network _ => cases h

/-- Only an announcement brings a code into force. -/
theorem codes_after_le (s : Scene) (e : Event) : (s.after e).codes ≤ s.codes + if e.isStart then 1 else 0 := by
  cases e with
  | message text chat now =>
    rw [after, codes, codes]
    obtain ⟨-, hbot, -⟩ | ⟨-, -, hbot, -⟩ | ⟨-, hbot, -⟩ := handle_cases s text chat now <;> simp [hbot]
  | startPairing given =>
    rw [codes]
    split <;> simp [Event.isStart]
  | stopPairing => exact Nat.zero_le _
  | clock _ | network _ => exact Nat.le_add_right _ _

/-- No more messages of a run bind a chat than codes are announced in it, and one more if a code was in force. -/
theorem countP_binds_le (s : Scene) (events : List Event) :
    (s.course events).countP (fun c => c.1.Binds c.2) ≤ events.countP Event.isStart + s.codes := by
  induction events generalizing s with
  | nil => simp [course]
  | cons e rest ih =>
    have hrest := ih (s.after e)
    rw [course, List.countP_cons, List.countP_cons]
    by_cases hbinds : s.Binds e
    · obtain ⟨hbefore, hafter⟩ := codes_of_binds hbinds
      simp only [hbinds, decide_true, if_true]
      omega
    · have hcodes := codes_after_le s e
      simp only [hbinds, decide_false, Bool.false_eq_true, if_false]
      omega

/-- The chat after a run is the one before it, or that of a message of the run that binds it. -/
theorem chatId_afterAll (s : Scene) (events : List Event) :
    (s.afterAll events).bot.chatId = s.bot.chatId ∨
      ∃ t text chat now, (t, .message text chat now) ∈ s.course events ∧ t.IsPairing text ∧
        (s.afterAll events).bot.chatId = some chat := by
  induction events generalizing s with
  | nil => exact .inl rfl
  | cons e rest ih =>
    rw [afterAll_cons]
    obtain hsame | ⟨t, text, chat, now, hmem, hbinds⟩ := ih (s.after e)
    · rw [hsame]
      refine (chatId_after s e).imp_right fun ⟨text, chat, now, he, hbinds⟩ => ?_
      exact ⟨s, text, chat, now, he ▸ List.mem_cons_self, hbinds⟩
    · exact .inr ⟨t, text, chat, now, List.mem_cons_of_mem _ hmem, hbinds⟩

/-- What is recorded after a run was so before it, or is a message of the chat that was bound when it came. -/
theorem mem_recent_afterAll {s : Scene} {events : List Event} {entry : String × Instant}
    (h : entry ∈ (s.afterAll events).bot.recent) :
    entry ∈ s.bot.recent ∨
      ∃ t text chat now, (t, .message text chat now) ∈ s.course events ∧ ¬t.IsPairing text ∧
        t.bot.chatId = some chat ∧ entry = (Chat.normalCommand (Text.trim text), now.getD t.clock) := by
  induction events generalizing s with
  | nil => exact .inl h
  | cons e rest ih =>
    obtain hbefore | ⟨t, text, chat, now, hmem, hbound⟩ := ih h
    · refine (mem_recent_after hbefore).imp_right fun ⟨text, chat, now, he, hbound⟩ => ?_
      exact ⟨s, text, chat, now, he ▸ List.mem_cons_self, hbound⟩
    · exact .inr ⟨t, text, chat, now, List.mem_cons_of_mem _ hmem, hbound⟩

/-- In every run, from any state of the bot: a message changes the chat only if it is the code in force, which it
then uses up, binding its sender, and there are no more such messages than codes. Any other message of a chat
that is not bound changes nothing at all and is delivered to nobody. The chat changes by such messages only, and
what is recorded or delivered as a command came from the chat that was bound then. -/
theorem guarded (s : Scene) (events : List Event) :
    (∀ t text chat now, (t, .message text chat now) ∈ s.course events →
      ((t.after (.message text chat now)).bot.chatId ≠ t.bot.chatId → t.IsPairing text) ∧
      (t.IsPairing text → (t.after (.message text chat now)).bot.chatId = some chat ∧
        (t.after (.message text chat now)).bot.pairing = none) ∧
      (¬t.IsPairing text → t.bot.chatId ≠ some chat →
        t.after (.message text chat now) = t ∧ t.deliveries (.message text chat now) = [])) ∧
    (s.course events).countP (fun c => c.1.Binds c.2) ≤
      events.countP Event.isStart + (if s.bot.pairing.isSome then 1 else 0) ∧
    ((s.afterAll events).bot.chatId = s.bot.chatId ∨
      ∃ t text chat now, (t, .message text chat now) ∈ s.course events ∧ t.IsPairing text ∧
        (s.afterAll events).bot.chatId = some chat) ∧
    (∀ entry ∈ (s.afterAll events).bot.recent, entry ∈ s.bot.recent ∨
      ∃ t text chat now, (t, .message text chat now) ∈ s.course events ∧ ¬t.IsPairing text ∧
        t.bot.chatId = some chat ∧ entry = (Chat.normalCommand (Text.trim text), now.getD t.clock)) ∧
    (∀ t e, (t, e) ∈ s.course events → ∀ name command chat, .command name command chat ∈ t.deliveries e →
      ∃ text now, e = .message text chat now ∧ ¬t.IsPairing text ∧ t.bot.chatId = some chat ∧
        command = Text.trim text) := by
  refine ⟨fun t text chat now _ => ⟨fun hchanged => ?_, fun hpairing => ?_, fun hpairing hchat => ?_⟩,
    countP_binds_le s events, chatId_afterAll s events, fun _ => mem_recent_afterAll,
    fun _ _ _ _ _ _ => of_mem_deliveries⟩
  · obtain hsame | ⟨text', chat', now', he, hpairing, -⟩ := chatId_after t (.message text chat now)
    · exact absurd hsame hchanged
    · obtain ⟨rfl, -⟩ := Event.message.inj he
      exact hpairing
  · simp [after, handle_of_isPairing hpairing]
  · simp [after, deliveries, handle_of_stranger hpairing hchat]

/-- A new bot with one subscriber. -/
def listened : Scene :=
  { bot := { subscribers := ["log"] }, clock := Clock.start }

/-- A code is announced and used, too late and by a stranger as well, and another one expires. -/
def visits : List Event :=
  [.startPairing (some " abc "), .message "/go" 7 none, .message " /PAIR abc" 5 none, .message "/pair ABC" 7 none,
    .message "/go@desk" 5 none, .startPairing (some "x"), .clock (Clock.start.shift (120 * Span.second)),
    .message "/pair x" 7 none]

theorem guarded_visits :
    (listened.afterAll visits).bot.chatId = some 5 ∧
      ("go", Clock.start) ∈ (listened.afterAll visits).bot.recent ∧
      (listened.course visits).countP (fun c => c.1.Binds c.2) ≤ 2 ∧
      ∃ t text chat now, (t, .message text chat now) ∈ listened.course visits ∧ ¬t.IsPairing text ∧
        t.bot.chatId = some chat ∧
        ("go", Clock.start) = (Chat.normalCommand (Text.trim text), now.getD t.clock) := by
  have hrecorded : ("go", Clock.start) ∈ (listened.afterAll visits).bot.recent := by decide +kernel
  obtain ⟨-, hbinds, -, hrecent, -⟩ := guarded listened visits
  exact ⟨by decide +kernel, hrecorded, hbinds, (hrecent _ hrecorded).resolve_left (by decide)⟩

end Scene

end ChatBot

end Deskhand
