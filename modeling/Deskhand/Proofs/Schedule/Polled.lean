import Deskhand.Proofs.Chat.Recent
import Deskhand.Proofs.Schedule.Messages

/-!
# Commands that are polled and commands that are dispatched

A scenario that is led by a command trigger can learn of a message in two ways. The scheduler looks the message up in
its roster, where the scenario stands under its command; or the trigger is polled, and asks the bot whether the
command came. The roster compares the normal form of the message with the command, which is in normal form; the bot
normalises the command that it is asked for again. So the two ways agree iff that leaves the command as it is, which
is so iff its first word holds no mark of a bot. Main statements:

* `Roster.mem_onCommand_iff`, `Scenario.command?_of_lead`: to which scenarios a message is dispatched;
* `Trigger.check_of_asked`: when a polled trigger fires;
* `Trigger.polled_iff_dispatched`: for which commands the two ways agree.
-/

namespace Deskhand

/-! ## Dispatch -/

/-- A command is dispatched to those of the scenarios that wait for it. -/
theorem Roster.mem_onCommand_iff {scenarios : List Scenario} (hnodup : (scenarios.map Scenario.id).Nodup)
    {s : Scenario} (hs : s ∈ scenarios) {name : String} :
    s.id ∈ (enterAll {} scenarios).onCommand name ↔ s.command? = some name := by
  rw [enterAll_eq hnodup, onCommand, ofScenarios, find?_lists, mem_idsFor]
  constructor
  · rintro ⟨s', hs', hcommand, hid⟩
    rwa [← List.inj_on_of_nodup_map hnodup hs' hs hid]
  · exact fun hcommand => ⟨s, hs, hcommand, rfl⟩

/-- A scenario that is led by a command trigger waits for its command, if that is not empty. -/
theorem Scenario.command?_of_lead {s : Scenario} {b : Block} (hlead : s.lead? = some b.bare)
    (hkind : b.kind = .chatCommandTrigger) {name : String} :
    s.command? = some name ↔ Trigger.command b ≠ "" ∧ name = Trigger.command b := by
  have hcommand : Trigger.command b.bare = Trigger.command b := rfl
  have hbare : b.bare.kind = .chatCommandTrigger := hkind
  rw [command?_eq_some_iff_waitsFor, waitsFor, hlead, Option.any_some, hbare, hcommand, beq_self_eq_true, Bool.true_and,
    Bool.and_eq_true, beq_iff_eq, bne_iff_ne]
  generalize Trigger.command b = command
  constructor
  · rintro ⟨rfl, hne⟩
    exact ⟨hne, rfl⟩
  · rintro ⟨hne, rfl⟩
    exact ⟨rfl, hne⟩

namespace Trigger

/-! ## Polling -/

variable {b : Block} {bot : ChatBot} {ops : List ChatBot.Operation} {last : Option Instant} {now cutoff : Instant}

/-- A bot that kept nothing took messages in the order of their times in the course of operations, is configured after
them, and is asked for a command that came after an instant: that of the last execution, or else the start of the
window before now. -/
structure IsAsked (bot : ChatBot) (ops : List ChatBot.Operation) (last : Option Instant) (now cutoff : Instant) :
    Prop where
  isNew : bot.recent = []
  inOrder : Recent.AreInOrder (bot.taken ops)
  isConfigured : (bot.performAll ops).isConfigured = true
  since : (bot.performAll ops).cutoff? last now = some cutoff

theorem fst_check_chatCommand (b : Block) (bot : Option ChatBot) (last : Option Instant) (now : Instant) :
    (check ⟨b, .chatCommand⟩ bot last now).1 = commandCame b bot last now := rfl

/-- A polled command trigger fires iff its command is not empty and one of the messages of the last minute came late
enough and asks for what the bot makes of the command. -/
theorem check_of_asked (h : IsAsked bot ops last now cutoff) (b : Block) :
    ∃ fires, (check ⟨b, .chatCommand⟩ (some (bot.performAll ops)) last now).1 = .ok fires ∧
      (fires = true ↔ command b ≠ "" ∧ ∃ m ∈ Recent.lately (bot.taken ops),
        cutoff < m.2 ∧ Chat.normalCommand m.1 = Chat.normalCommand (command b)) := by
  rw [fst_check_chatCommand, commandCame]
  by_cases hempty : command b = ""
  · rw [Option.filter_some, if_neg (by simp [hempty])]
    exact ⟨false, rfl, by simp [hempty]⟩
  · rw [Option.filter_some, if_pos (by simp [hempty, h.isConfigured])]
    refine ⟨_, ChatBot.hasCommandSince_of_cutoff h.since _, ?_⟩
    rw [ChatBot.recent_of_new h.isNew, Recent.hasSince_ofMessages_iff h.inOrder, and_iff_right hempty]
    exact exists_congr fun m => and_congr_right fun _ => and_comm

/-! ## Where the two ways part -/

/-- A configured bot that is bound to a chat and has taken nothing. -/
def listening : ChatBot :=
  { isConfigured := true, chatId := some 0 }

/-- A message with a mark of a bot in its normal form is taken as a command. -/
theorem receive_listening {text : String} (hmark : '@' ∈ (Chat.normalCommand text).toList) (now : Instant) :
    (listening.receive {} now now text 0).accepted = true ∧
      (listening.receive {} now now text 0).bot.isConfigured = true := by
  have hother : Text.lower (Text.trim text) ≠ ChatBot.listCommand := by
    intro hlist
    have hkept : '@' ∈ (Text.lower (Text.trim text)).toList := by
      rw [Text.toList_lower]
      exact Text.mem_lowerFrom_of_mark (Chat.of_mem_normalCommand hmark (by decide)).2 (by decide)
    rw [hlist] at hkept
    exact absurd hkept (by decide)
  have hpairing : (listening.pairingAt now).any (·.accepts (Text.trim text)) = false := rfl
  rw [ChatBot.receive, if_neg (by simp [hpairing]), if_neg (by simp [listening]), if_neg (by simpa using hother)]
  exact ⟨rfl, rfl⟩

theorem taken_listening {text : String} (hmark : '@' ∈ (Chat.normalCommand text).toList) (now : Instant) :
    listening.taken [.message {} now now text 0] = [(text, now)] := by
  rw [ChatBot.taken, ChatBot.taken, ChatBot.taken?, if_pos (receive_listening hmark now).1]
  rfl

/-- A bot is asked just after it took one message. -/
theorem isAsked_listening {text : String} (hmark : '@' ∈ (Chat.normalCommand text).toList) :
    IsAsked listening [.message {} (ChatBot.tick 1) (ChatBot.tick 1) text 0] (some (ChatBot.tick 0)) (ChatBot.tick 2)
      (ChatBot.tick 0) := by
  refine ⟨rfl, ?_, ?_, rfl⟩
  · rw [taken_listening hmark]
    exact List.pairwise_singleton _ _
  · rw [ChatBot.performAll, List.foldl_cons, List.foldl_nil, ChatBot.perform]
    exact (receive_listening hmark _).2

/-- The bot is sent a command with a mark in its first word just as the trigger has it: the polled trigger declines. -/
theorem exists_unfired {b : Block} (hmark : '@' ∈ (Chat.firstWord (command b)).toList) :
    command b ≠ "" ∧ ∃ bot ops last now cutoff, IsAsked bot ops last now cutoff ∧
      (check ⟨b, .chatCommand⟩ (some (bot.performAll ops)) last now).1 ≠ .ok true ∧
      ∃ m ∈ Recent.lately (bot.taken ops), cutoff < m.2 ∧ Chat.normalCommand m.1 = command b := by
  have hcommand : '@' ∈ (command b).toList := by
    rw [Chat.firstWord, Text.fst_cutAt, String.toList_ofList] at hmark
    exact (List.takeWhile_sublist _).subset hmark
  refine ⟨fun hempty => by simp [hempty] at hcommand, _, _, _, _, _, isAsked_listening hcommand, fun hfired => ?_, ?_⟩
  · obtain ⟨fires, hfires, hiff⟩ := check_of_asked (isAsked_listening hcommand) b
    rw [hfires, Except.ok.injEq] at hfired
    obtain ⟨-, m, hm, -, hm'⟩ := hiff.mp hfired
    rw [taken_listening hcommand] at hm
    rw [List.mem_singleton.mp (List.mem_of_mem_filter hm)] at hm'
    exact (Chat.normalCommand_normalCommand_iff _).mp hm'.symm hmark
  · have hlate : ChatBot.tick 0 < ChatBot.tick 1 := by decide
    rw [taken_listening hcommand]
    exact ⟨_, Recent.mem_lately_of_getLast rfl, hlate, rfl⟩

/-- A command trigger leads one of several scenarios. Polled, it fires iff its command is not empty and a message of
the last minute that came late enough asks for the normal form of the command. A message is dispatched to its scenario
iff the message asks for the command, and that is not empty. So the polled trigger fires iff some such message is
dispatched to the scenario, whatever came to the bot, iff the first word of the command holds no mark of a bot; and
just these commands have themselves as their normal form. -/
theorem polled_iff_dispatched {scenarios : List Scenario} (hnodup : (scenarios.map Scenario.id).Nodup) {s : Scenario}
    (hs : s ∈ scenarios) {b : Block} (hlead : s.lead? = some b.bare) (hkind : b.kind = .chatCommandTrigger) :
    (∀ bot ops last now cutoff, IsAsked bot ops last now cutoff →
      ∃ fires, (check ⟨b, .chatCommand⟩ (some (bot.performAll ops)) last now).1 = .ok fires ∧
        (fires = true ↔ command b ≠ "" ∧ ∃ m ∈ Recent.lately (bot.taken ops),
          cutoff < m.2 ∧ Chat.normalCommand m.1 = Chat.normalCommand (command b))) ∧
    (∀ text, s.id ∈ (Roster.enterAll {} scenarios).onCommand (Chat.normalCommand text) ↔
      command b ≠ "" ∧ Chat.normalCommand text = command b) ∧
    ((∀ bot ops last now cutoff, IsAsked bot ops last now cutoff →
      ((check ⟨b, .chatCommand⟩ (some (bot.performAll ops)) last now).1 = .ok true ↔
        ∃ m ∈ Recent.lately (bot.taken ops),
          cutoff < m.2 ∧ s.id ∈ (Roster.enterAll {} scenarios).onCommand (Chat.normalCommand m.1))) ↔
      '@' ∉ (Chat.firstWord (command b)).toList) ∧
    (Chat.normalCommand (command b) = command b ↔ '@' ∉ (Chat.firstWord (command b)).toList) := by
  have hsame : Chat.normalCommand (command b) = command b ↔ '@' ∉ (Chat.firstWord (command b)).toList :=
    Chat.normalCommand_normalCommand_iff _
  have hdispatch : ∀ text, s.id ∈ (Roster.enterAll {} scenarios).onCommand (Chat.normalCommand text) ↔
      command b ≠ "" ∧ Chat.normalCommand text = command b := fun text => by
    rw [Roster.mem_onCommand_iff hnodup hs, Scenario.command?_of_lead hlead hkind]
  refine ⟨fun _ _ _ _ _ h => check_of_asked h b, hdispatch, ⟨fun hagree hmark => ?_, fun hmark => ?_⟩, hsame⟩
  · -- where the first word has a mark, a message is dispatched for which the trigger does not fire
    obtain ⟨hne, bot, ops, last, now, cutoff, hasked, hdeclines, m, hm, hlate, hcommand⟩ := exists_unfired hmark
    exact hdeclines ((hagree bot ops last now cutoff hasked).mpr ⟨m, hm, hlate, (hdispatch _).mpr ⟨hne, hcommand⟩⟩)
  · intro bot ops last now cutoff hasked
    obtain ⟨fires, hfires, hiff⟩ := check_of_asked hasked b
    rw [hfires, Except.ok.injEq, hiff, hsame.mpr hmark, ← exists_and_left]
    refine exists_congr fun m => ?_
    rw [hdispatch]
    constructor
    · rintro ⟨hne, hm, hlate, hm'⟩
      exact ⟨hm, hlate, hne, hm'⟩
    · rintro ⟨hm, hlate, hne, hm'⟩
      exact ⟨hne, hm, hlate, hm'⟩

/-- A command trigger with a command. -/
def waiting (command : String) : Block :=
  { kind := .chatCommandTrigger, id := "t", parameters := [("Command", command)] }

/-- A scenario that is led by it. -/
def led (command : String) : Scenario :=
  { id := "a", name := "Led"
    blocks := "[\x7b\"Type\":\"TelegramCommandTrigger\",\"Id\":\"t\"," ++
      "\"Parameters\":\x7b\"Command\":\"" ++ command ++ "\"\x7d\x7d]" }

theorem polled_iff_dispatched_plain :
    ([led "/Go@desk Now"].map Scenario.id).Nodup ∧
      (led "/Go@desk Now").lead? = some (waiting "/Go@desk Now").bare ∧
      command (waiting "/Go@desk Now") = "go now" ∧
      ∀ bot ops last now cutoff, IsAsked bot ops last now cutoff →
        ((check ⟨waiting "/Go@desk Now", .chatCommand⟩ (some (bot.performAll ops)) last now).1 = .ok true ↔
          ∃ m ∈ Recent.lately (bot.taken ops), cutoff < m.2 ∧
            "a" ∈ (Roster.enterAll {} [led "/Go@desk Now"]).onCommand (Chat.normalCommand m.1)) := by
  have hnodup : ([led "/Go@desk Now"].map Scenario.id).Nodup := List.nodup_singleton _
  have hlead : (led "/Go@desk Now").lead? = some (waiting "/Go@desk Now").bare := by decide +kernel
  obtain ⟨-, -, hagree, -⟩ := polled_iff_dispatched hnodup (List.mem_singleton_self _) hlead rfl
  exact ⟨hnodup, hlead, by decide +kernel, hagree.mpr (by decide +kernel)⟩

/-- A command that has a mark of a bot in its first word only where what stood before it was dropped. -/
theorem marked_dispatched_unpolled :
    (led "/ me@home").lead? = some (waiting "/ me@home").bare ∧
      IsAsked listening [.message {} (ChatBot.tick 1) (ChatBot.tick 1) "/ me@home" 0] (some (ChatBot.tick 0))
        (ChatBot.tick 2) (ChatBot.tick 0) ∧
      listening.taken [.message {} (ChatBot.tick 1) (ChatBot.tick 1) "/ me@home" 0] =
        [("/ me@home", ChatBot.tick 1)] ∧
      "a" ∈ (Roster.enterAll {} [led "/ me@home"]).onCommand (Chat.normalCommand "/ me@home") ∧
      (check ⟨waiting "/ me@home", .chatCommand⟩
          (some (listening.performAll [.message {} (ChatBot.tick 1) (ChatBot.tick 1) "/ me@home" 0]))
          (some (ChatBot.tick 0)) (ChatBot.tick 2)).1.toOption = some false := by
  have hmark : '@' ∈ (Chat.normalCommand "/ me@home").toList := by decide +kernel
  exact ⟨by decide +kernel, isAsked_listening hmark, taken_listening hmark _, by decide +kernel, by decide +kernel⟩

end Trigger

end Deskhand
