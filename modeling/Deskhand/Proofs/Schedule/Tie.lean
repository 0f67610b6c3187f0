import Deskhand.Proofs.Schedule.Connection

/-!
# What the bot is bound to

The `Tie` of a scheduler is the pairing code that it remembers and the `BotBinding` of its bot: whether that is
configured, the chat, and the pairing that it accepts. Runs, loops and keys leave the tie as it is, a message may bind
the bot to a chat and end the pairing, and a load changes it where it follows the settings. Main statements:

* `follows_followCode`: what following the code of the settings does;
* `followToken_cases`: what following the token and the code does;
* `Tie.Heeds.of_enters`, `Tie.Heeds.code_eq`, `Tie.Heeds.chatId_eq`: what there is after that;
* `tie_wakeCall`, `heeds_wakeCall`: what going on with a call makes of the tie.
-/

namespace Deskhand

/-! ## The binding of a bot -/

/-- What a bot is bound to. -/
structure BotBinding where
  isConfigured : Bool
  chatId : Option Int
  pairing : Option Pairing

namespace BotBinding

/-- A bot that is configured is bound to a chat. -/
def boundTo (chat : Option Int) (b : BotBinding) : BotBinding :=
  if b.isConfigured then { b with chatId := chat } else b

/-- A connection for a token is built, as far as the network lets it. -/
def dialled (network : ChatNetwork) (token : String) (chat : Option Int) (b : BotBinding) : BotBinding :=
  if Text.isBlankText token then b
  else if network.fails .build then { b with isConfigured := false }
  else ⟨true, chat, none⟩

end BotBinding

namespace ChatBot

variable (b : ChatBot)

/-- What a bot is bound to. -/
def binding : BotBinding :=
  ⟨b.isConfigured, b.chatId, b.pairing⟩

@[simp] theorem binding_subscribe (name : String) : (b.subscribe name).binding = b.binding := by
  rw [subscribe]
  split <;> rfl

@[simp] theorem binding_onPaired (name : String) : (b.onPaired name).binding = b.binding := by
  rw [onPaired]
  split <;> rfl

theorem binding_publish (network : ChatNetwork) (commands : ChatMenu) :
    (b.publish network commands).2.1.binding = b.binding := by
  simp only [publish]
  repeat' split
  all_goals rfl

theorem binding_startPolling (network : ChatNetwork) : (b.startPolling network).2.binding = b.binding := by
  rw [startPolling]
  repeat' split
  all_goals rfl

theorem binding_beginStop : b.beginStop.binding = b.binding := by
  rw [beginStop]
  split <;> rfl

theorem binding_stopWithin (network : ChatNetwork) (limit : Option Float) :
    (b.stopWithin network limit).2.binding = b.binding := by
  simp only [stopWithin]
  repeat' split
  all_goals first | rfl | exact b.binding_beginStop

theorem binding_build (network : ChatNetwork) (token : String) (chat : Option Int) :
    (b.build network token chat).2.binding = b.binding.dialled network token chat := by
  rw [build, BotBinding.dialled]
  repeat' split
  all_goals rfl

/-- A message leaves the pairing as it is, or ends it. -/
theorem binding_receive (network : ChatNetwork) (clock now : Instant) (text : String) (chat : Int) :
    ∃ chatId pairing, (b.receive network clock now text chat).bot.binding = ⟨b.isConfigured, chatId, pairing⟩ ∧
      (pairing = b.pairing ∨ pairing = none) := by
  simp only [receive]
  repeat' split
  · exact ⟨_, _, rfl, .inr rfl⟩
  all_goals exact ⟨_, _, rfl, .inl rfl⟩

/-- Pairing for a code is pairing for it in upper case, also where it cannot be said until when. -/
theorem binding_startPairing (now : Instant) {code : String} (hcode : Text.isBlankText code = false) :
    ∃ pairing, (b.startPairing now (some code)).2.binding = ⟨b.isConfigured, b.chatId, pairing⟩ ∧
      ∀ p, pairing = some p → p.code = Text.upper (Text.trim code) := by
  have hgiven : Pairing.codeOr (some code) b.dice = (Text.upper (Text.trim code), b.dice) := by
    simp [Pairing.codeOr, Option.filter_some, hcode]
  rw [startPairing, hgiven]
  dsimp only
  split
  · refine ⟨_, rfl, fun p hp => ?_⟩
    rw [← Option.some.inj hp]
  · refine ⟨_, rfl, fun p hp => ?_⟩
    obtain ⟨old, -, rfl⟩ := Option.map_eq_some_iff.mp hp
    rfl

end ChatBot

namespace Scheduler

/-! ## The tie of a scheduler -/

/-- How a scheduler is tied to what its bot is bound to. -/
structure Tie where
  /-- The code that pairing was last started for. -/
  code : String
  binding : Option BotBinding

/-- The bot is bound to something else. -/
def Tie.onBot (t : Tie) (f : BotBinding → BotBinding) : Tie :=
  { t with binding := t.binding.map f }

/-- How a scheduler is tied to what its bot is bound to. -/
def tie (s : Scheduler) : Tie :=
  ⟨s.pairingCode, s.around.bot?.map ChatBot.binding⟩

variable (s : Scheduler)

/-! ## What leaves the tie as it is -/

@[simp] theorem tie_appoint (seconds : Float) (rank : Rank) (alarm : Alarm) :
    (s.appoint seconds rank alarm).tie = s.tie := rfl

@[simp] theorem tie_setStage (n : Nat) (stage : Stage) : (s.setStage n stage).tie = s.tie := rfl

@[simp] theorem tie_endDrained : s.endDrained.tie = s.tie := rfl

variable {s} in
/-- The tie is made of the frame. -/
theorem tie_congr {t : Scheduler} (h : t.frame = s.frame) : t.tie = s.tie := by
  obtain ⟨-, hchat, -, hcode, -⟩ := Frame.mk.injEq .. |>.mp h
  rw [tie, hcode, Surroundings.bot?_congr hchat, tie]

theorem tie_withBot (b : ChatBot) :
    { s with around := s.around.setBot b }.tie = { s.tie with binding := some b.binding } := rfl

variable {s} in
theorem binding_of_bot {b : ChatBot} (hb : s.around.bot? = some b) : s.tie.binding = some b.binding :=
  congrArg (Option.map ChatBot.binding) hb

variable {s} in
/-- A bot that is bound to the same makes no difference. -/
theorem tie_setBot {b b' : ChatBot} (hb : s.around.bot? = some b) (h : b'.binding = b.binding) :
    { s with around := s.around.setBot b' }.tie = s.tie := by
  rw [tie_withBot, h, ← binding_of_bot hb]

@[simp] theorem tie_publishMenu : s.publishMenu.tie = s.tie := by
  rcases publishMenu_cases s with h | ⟨b, hb, h⟩ <;> rw [h]
  exact tie_setBot (s := { s with around := { s.around with network := _ } }) hb (b.binding_publish _ _)

@[simp] theorem tie_subscribe : s.subscribe.tie = s.tie := by
  rw [subscribe]
  split
  · next b hb => exact tie_setBot hb (by rw [ChatBot.binding_onPaired, ChatBot.binding_subscribe])
  · rfl

theorem tie_opened : s.opened.tie = s.tie :=
  (tie_congr (frame_startHook _)).trans (tie_subscribe _)

@[simp] theorem tie_load : s.load.tie = s.tie := by
  cases hask : s.ask .list (s.store.list true) with
  | ok scenarios =>
    rw [load_of_ok hask]
    exact (tie_publishMenu _).trans (foldl_keep tie (fun t scenario => tie_congr (frame_setUp t _ scenario)) _ _)
  | error fault => rw [load_of_error hask]; rfl

/-! ### Runs and messages -/

@[simp] theorem tie_wakeRun (n : Nat) : (s.wakeRun n).tie = s.tie := by
  have hkeeps := keepsCalls_wakeRun s n
  rw [tie, hkeeps.pairingCode, Surroundings.bot?_congr hkeeps.chat, tie]

@[simp] theorem tie_onPaired (chat : Int) : (s.onPaired chat).tie = s.tie := by
  rcases onPaired_cases s chat with ⟨_, h⟩ | ⟨_, h⟩ <;> rw [h] <;> rfl

@[simp] theorem tie_take (d : Delivery) : (s.take d).tie = s.tie := by
  rcases take_cases s d with h | ⟨_, h⟩ | ⟨chat, h⟩ <;> rw [h]
  · exact tie_congr (frame_startAll s _)
  · exact tie_onPaired s chat

/-- What a message makes of the tie: the bot may be bound to another chat, and pairing may be over. -/
inductive Tie.Hears (t : Tie) : Tie → Prop
  | nothing : Hears t t
  | binds {b : BotBinding} {pairing : Option Pairing} (chat : Option Int) : t.binding = some b →
      (pairing = b.pairing ∨ pairing = none) → Hears t { t with binding := some ⟨b.isConfigured, chat, pairing⟩ }

theorem hears_onMessage (text : String) (chat : Int) : s.tie.Hears (s.onMessage text chat).2.tie := by
  rcases onMessage_cases s text chat with h | ⟨b, around, hb, hchat, h⟩ <;> rw [h]
  · exact .nothing
  · obtain ⟨chatId, pairing, hbinding, hpairing⟩ := b.binding_receive s.around.network s.now s.now text chat
    rw [foldl_keep tie tie_take, tie_congr (frame_around { s with around := s.around.setBot _ } hchat), tie_withBot,
      hbinding]
    exact .binds chatId (binding_of_bot hb) hpairing

theorem hears_onFetched (connection : Nat) (text : String) (chat : Int) :
    s.tie.Hears (s.onFetched connection text chat).tie := by
  rcases onFetched_cases s connection text chat with h | h <;> rw [h]
  · exact .nothing
  · exact hears_onMessage s text chat

/-! ### Calls -/

@[simp] theorem tie_release : s.release.tie = s.tie :=
  tie_congr (frame_release s)

@[simp] theorem tie_beginDraining (n : Nat) : (s.beginDraining n).tie = s.tie := by
  rw [beginDraining]
  split <;> rfl

@[simp] theorem tie_leaveClearing (n : Nat) (kind : CallKind) : (s.leaveClearing n kind).tie = s.tie := by
  cases kind with
  | load => rfl
  | stop => exact (tie_beginDraining _ n).trans (tie_release _)

@[simp] theorem tie_beginClearing (n : Nat) (kind : CallKind) : (s.beginClearing n kind).tie = s.tie := by
  rcases beginClearing_cases s n kind with h | h <;> rw [h]
  · rw [tie_leaveClearing, tie_congr (frame_clear _)]
  · rw [tie_appoint, tie_setStage, tie_congr (frame_clear _)]

@[simp] theorem tie_followClearing : s.followClearing.tie = s.tie := by
  rcases followClearing_cases s with h | ⟨c, -, -, h⟩ <;> rw [h]
  exact tie_leaveClearing s _ _

theorem tie_finishLoading (n : Nat) : (s.finishLoading n).tie = s.tie :=
  (tie_release _).trans (tie_load s)

/-- Letting pairing follow the settings is all that then changes. -/
theorem tie_finishSettings (n : Nat) (settings : Settings) :
    (s.finishSettings n settings).tie = (s.followCode settings).2.tie := by
  rcases finishSettings_cases s n settings with h | ⟨_, h⟩ <;> rw [h]
  · exact tie_beginClearing _ n .load
  · exact tie_release _

/-! ## Following the settings -/

theorem Tie.onBot_of_none {t : Tie} (h : t.binding = none) (f : BotBinding → BotBinding) : t.onBot f = t := by
  rcases t with ⟨code, binding⟩
  obtain rfl : binding = none := h
  rfl

theorem Tie.onBot_of_some {t : Tie} {b : BotBinding} (h : t.binding = some b) (f : BotBinding → BotBinding) :
    t.onBot f = { t with binding := some (f b) } := by
  rw [onBot, h, Option.map_some]

theorem binding_of_none (hb : s.around.bot? = none) : s.tie.binding = none :=
  congrArg (Option.map ChatBot.binding) hb

theorem tie_bindChat (settings : Settings) :
    (s.bindChat settings).tie = s.tie.onBot (·.boundTo settings.chatId) := by
  rcases bindChat_cases s settings with ⟨h, hkeeps⟩ | ⟨b, hb, hconfigured, h⟩ <;> rw [h]
  · cases hb : s.around.bot? with
    | none => rw [Tie.onBot_of_none (binding_of_none s hb)]
    | some b =>
      have hsame : b.binding.boundTo settings.chatId = b.binding := by
        rw [BotBinding.boundTo]
        split
        · next hconfigured =>
          rw [← hkeeps b hb hconfigured]
          rfl
        · rfl
      rw [Tie.onBot_of_some (binding_of_bot hb), hsame, ← binding_of_bot hb]
  · have hconfigured : b.binding.isConfigured = true := hconfigured
    rw [Tie.onBot_of_some (binding_of_bot hb), BotBinding.boundTo, if_pos hconfigured]
    rfl

theorem tie_startPolling (b : ChatBot) : (s.startPolling b).tie = { s.tie with binding := some b.binding } := by
  rw [← b.binding_startPolling s.around.network]
  rcases startPolling_cases s b with h | h | ⟨_, h⟩ <;> rw [h]
  · rfl
  · exact tie_congr (frame_expectMessages _)
  · rfl

theorem tie_connect (settings : Settings) :
    (s.connect settings).tie = s.tie.onBot (·.dialled s.around.network s.token settings.chatId) := by
  rcases connect_cases s settings with ⟨h, hidle⟩ | ⟨b, built, b', hb, hbuild, h⟩ <;> rw [h]
  · rcases hidle with hb | htoken
    · rw [Tie.onBot_of_none (binding_of_none s hb)]
    · -- the empty token is blank, and nothing is dialled for it
      rw [htoken]
      exact (congrArg (Tie.mk s.tie.code) (congrFun Option.map_id _)).symm
  · have hbinding := b.binding_build s.around.network s.token settings.chatId
    rw [hbuild] at hbinding
    rw [Tie.onBot_of_some (binding_of_bot hb), ← hbinding]
    cases built with
    | false => exact tie_congr (frame_reportBuild _ false)
    | true => exact tie_startPolling _ b'

/-- A code is followed: a bot that is configured starts pairing for it if it is a new one. -/
structure Tie.Follows (wanted : String) (t t' : Tie) : Prop where
  code : ∀ b, t'.binding = some b → b.isConfigured = true → t'.code = wanted
  binding : ∀ b', t'.binding = some b' → ∃ b, t.binding = some b ∧ b'.isConfigured = b.isConfigured ∧
    b'.chatId = b.chatId ∧ (b'.pairing = b.pairing ∨ b.isConfigured = true ∧ wanted ≠ "" ∧ wanted ≠ t.code ∧
      ∀ p, b'.pairing = some p → p.code = Text.upper wanted)

theorem follows_followCode (settings : Settings) :
    s.tie.Follows settings.wantedCode (s.followCode settings).2.tie := by
  have hkeeps : ∀ b', s.tie.binding = some b' → ∃ b, s.tie.binding = some b ∧ b'.isConfigured = b.isConfigured ∧
      b'.chatId = b.chatId ∧ (b'.pairing = b.pairing ∨ b.isConfigured = true ∧ settings.wantedCode ≠ "" ∧
        settings.wantedCode ≠ s.tie.code ∧ ∀ p, b'.pairing = some p → p.code = Text.upper settings.wantedCode) :=
    fun b' hb' => ⟨b', hb', rfl, rfl, .inl rfl⟩
  rcases followCode_cases s settings with ⟨h, hsame⟩ | ⟨hempty, h⟩ | ⟨b, hb, hconfigured, hcode, hnew, h⟩ <;> rw [h]
  · refine ⟨fun b' hb' hconfigured => ?_, hkeeps⟩
    obtain ⟨b, hb, rfl⟩ := Option.map_eq_some_iff.mp hb'
    exact (hsame b hb hconfigured).symm
  · exact ⟨fun _ _ _ => hempty.symm, hkeeps⟩
  · have hblank : Text.isBlankText settings.wantedCode = false := by
      rw [Settings.wantedCode, Text.isBlankText_trim]
      exact Bool.eq_false_iff.mpr fun h => hcode (Text.trim_eq_empty_iff.mpr h)
    obtain ⟨pairing, hbinding, hupper⟩ := b.binding_startPairing s.now hblank
    refine ⟨fun _ _ _ => rfl, fun b' hb' => ⟨b.binding, binding_of_bot hb, ?_⟩⟩
    obtain rfl : (⟨b.isConfigured, b.chatId, pairing⟩ : BotBinding) = b' :=
      hbinding.symm.trans (Option.some.inj hb')
    refine ⟨rfl, rfl, .inr ⟨hconfigured, hcode, hnew, fun p hp => ?_⟩⟩
    rw [hupper p hp, Settings.wantedCode, Text.trim_trim]

/-- Connecting anew starts from a bot that is bound to nothing. -/
theorem follows_reconnect (n : Nat) (settings : Settings) (b : ChatBot) :
    Tie.Follows settings.wantedCode
      ⟨s.pairingCode, some (BotBinding.dialled s.around.network s.token settings.chatId ⟨false, none, none⟩)⟩
      (s.reconnect n settings b).tie := by
  have hfollows := follows_followCode ({ s with around := s.around.setBot b.disconnect }.connect settings) settings
  rw [tie_connect] at hfollows
  rw [reconnect, tie_finishSettings]
  exact hfollows

/-- What a load makes of the tie once the bot has followed its settings: with the token that is remembered the bot is
bound to the chat of the settings, and otherwise, or when the load waited for the bot to stop, it is connected anew. -/
inductive Tie.Heeds (l : Link) (n : Nat) (settings : Settings) (t : Tie) : Tie → Prop
  | keeps {t' : Tie} : settings.wantedToken = l.token →
      Tie.Follows settings.wantedCode (t.onBot (·.boundTo settings.chatId)) t' → Heeds l n settings t t'
  | renews {network : ChatNetwork} {token code : String} {b base : BotBinding} {t' : Tie} :
      settings.wantedToken ≠ l.token ∨ n ∈ l.waiting → t.binding = some b → base.isConfigured = false →
      base.pairing = b.pairing ∨ base.pairing = none →
      Tie.Follows settings.wantedCode ⟨code, some (base.dialled network token settings.chatId)⟩ t' →
      Heeds l n settings t t'

variable {s} in
/-- A load waits for the bot to stop, or the bot follows its settings at once. -/
theorem followToken_cases {b : ChatBot} (hb : s.around.bot? = some b) (n : Nat) (settings : Settings) :
    (settings.wantedToken ≠ s.token ∧ (s.followToken n settings b).tie = ⟨"", s.tie.binding⟩ ∧
        (s.followToken n settings b).calls = (s.setStage n (.disconnecting settings)).calls) ∨
      n ∉ (s.followToken n settings b).link.waiting ∧
        s.tie.Heeds s.link n settings (s.followToken n settings b).tie := by
  have hdone : ∀ l : Link, n ∉ (l.without n).waiting := fun l h => h.2 rfl
  rw [followToken]
  split
  · next hsame =>
    rw [link_finishSettings, tie_finishSettings]
    refine .inr ⟨hdone _, .keeps (beq_iff_eq.mp hsame) ?_⟩
    rw [← tie_bindChat]
    exact follows_followCode _ settings
  · next hother =>
    have hother : settings.wantedToken ≠ s.token := fun h => hother (beq_iff_eq.mpr h)
    dsimp only
    split
    · next hbare =>
      have hbare : b.binding.isConfigured = false := by simpa [ChatBot.binding] using hbare
      have hfollows := follows_followCode
        ({ s with token := settings.wantedToken, pairingCode := "" }.connect settings) settings
      have hbinding : ({ s with token := settings.wantedToken, pairingCode := "" } : Scheduler).tie.binding =
          some b.binding := binding_of_bot hb
      rw [tie_connect, Tie.onBot_of_some hbinding] at hfollows
      rw [link_finishSettings, tie_finishSettings]
      exact .inr ⟨hdone _, .renews (.inl hother) (binding_of_bot hb) hbare (.inl rfl) hfollows⟩
    · split
      · refine .inl ⟨hother, ?_, rfl⟩
        exact tie_setBot (s := { s with token := settings.wantedToken, pairingCode := "" }) hb b.binding_beginStop
      · rw [link_reconnect]
        exact .inr ⟨hdone _, .renews (.inl hother) (binding_of_bot hb) rfl (.inr rfl)
          (follows_reconnect { s with token := settings.wantedToken, pairingCode := "" } n settings _)⟩

/-! ### What there is after the settings are followed -/

/-- The bot accepts a pairing that it did not accept before. -/
def Tie.Enters (t t' : Tie) (p : Pairing) : Prop :=
  (∃ b, t'.binding = some b ∧ b.pairing = some p) ∧ ∀ b, t.binding = some b → b.pairing ≠ some p

namespace Tie

variable {t t' : Tie} {p : Pairing} {l : Link} {n : Nat} {settings : Settings} {wanted : String}

theorem not_enters (h : t'.binding = t.binding) : ¬t.Enters t' p :=
  fun ⟨⟨b, hb, hp⟩, hnew⟩ => hnew b (h ▸ hb) hp

/-- No message makes the bot pair. -/
theorem Hears.not_enters (h : t.Hears t') : ¬t.Enters t' p := by
  cases h with
  | nothing => exact Tie.not_enters rfl
  | binds _ hb hpairing =>
    rintro ⟨⟨b', hb', hp⟩, hnew⟩
    obtain rfl := Option.some.inj hb'
    rcases hpairing with hsame | hover
    · exact hnew _ hb (hsame.symm.trans hp)
    · cases hover.symm.trans hp

theorem Hears.code_eq (h : t.Hears t') : t'.code = t.code := by
  cases h <;> rfl

/-- Following a code makes the bot pair only for it, where it is a new one, and not empty. -/
theorem Follows.of_enters (h : Follows wanted t t') (henters : t.Enters t' p) :
    (∃ b, t.binding = some b ∧ b.isConfigured = true) ∧ wanted ≠ "" ∧ wanted ≠ t.code ∧
      p.code = Text.upper wanted := by
  obtain ⟨⟨b', hb', hp⟩, hnew⟩ := henters
  obtain ⟨b, hb, -, -, hsame | ⟨hconfigured, hcode, hother, hupper⟩⟩ := h.binding b' hb'
  · exact absurd (hsame.symm.trans hp) (hnew b hb)
  · exact ⟨⟨b, hb, hconfigured⟩, hcode, hother, hupper p hp⟩

theorem isConfigured_boundTo (chat : Option Int) (b : BotBinding) :
    (b.boundTo chat).isConfigured = b.isConfigured := by
  rw [BotBinding.boundTo]
  split <;> rfl

theorem pairing_boundTo (chat : Option Int) (b : BotBinding) : (b.boundTo chat).pairing = b.pairing := by
  rw [BotBinding.boundTo]
  split <;> rfl

/-- Binding the bot to a chat first makes no difference to pairing. -/
theorem Enters.onBot_boundTo (h : t.Enters t' p) (chat : Option Int) : (t.onBot (·.boundTo chat)).Enters t' p := by
  refine ⟨h.1, fun b hb => ?_⟩
  obtain ⟨old, hold, rfl⟩ := Option.map_eq_some_iff.mp hb
  rw [pairing_boundTo]
  exact h.2 old hold

/-- Applying the settings makes the bot pair only for the code that they want. -/
theorem Heeds.of_enters (h : t.Heeds l n settings t') (henters : t.Enters t' p) :
    settings.wantedCode ≠ "" ∧ p.code = Text.upper settings.wantedCode := by
  cases h with
  | keeps _ hfollows =>
    obtain ⟨-, hcode, -, hupper⟩ := hfollows.of_enters (henters.onBot_boundTo settings.chatId)
    exact ⟨hcode, hupper⟩
  | @renews network token code b base _ _ hb _ hbase hfollows =>
    have hnew : ∀ b', some (base.dialled network token settings.chatId) = some b' → b'.pairing ≠ some p := by
      rintro b' hb' hp
      obtain rfl := Option.some.inj hb'
      have hdialled : (base.dialled network token settings.chatId).pairing = base.pairing ∨
          (base.dialled network token settings.chatId).pairing = none := by
        rw [BotBinding.dialled]
        repeat' split
        all_goals first | exact .inl rfl | exact .inr rfl
      rcases hdialled with hsame | hnone
      · rcases hbase with hbase | hbase
        · exact henters.2 b hb (hbase.symm.trans (hsame.symm.trans hp))
        · cases hbase.symm.trans (hsame.symm.trans hp)
      · cases hnone.symm.trans hp
    obtain ⟨-, hcode, -, hupper⟩ := hfollows.of_enters ⟨henters.1, hnew⟩
    exact ⟨hcode, hupper⟩

/-- Once the settings are applied to a bot that is configured, their code is remembered. -/
theorem Heeds.code_eq (h : t.Heeds l n settings t') {b : BotBinding} (hb : t'.binding = some b)
    (hconfigured : b.isConfigured = true) : t'.code = settings.wantedCode := by
  cases h with
  | keeps _ hfollows => exact hfollows.code b hb hconfigured
  | renews _ _ _ _ hfollows => exact hfollows.code b hb hconfigured

/-- Once the settings are applied to a bot that is configured, it is bound to their chat. -/
theorem Heeds.chatId_eq (h : t.Heeds l n settings t') {b : BotBinding} (hb : t'.binding = some b)
    (hconfigured : b.isConfigured = true) : b.chatId = settings.chatId := by
  cases h with
  | keeps _ hfollows =>
    obtain ⟨old, hold, hsame, hchat, -⟩ := hfollows.binding b hb
    obtain ⟨first, -, rfl⟩ := Option.map_eq_some_iff.mp hold
    rw [hsame, isConfigured_boundTo] at hconfigured
    rw [hchat, BotBinding.boundTo, if_pos hconfigured]
  | @renews network token _ _ base _ _ _ hbare _ hfollows =>
    obtain ⟨old, hold, hsame, hchat, -⟩ := hfollows.binding b hb
    obtain rfl := Option.some.inj hold
    rw [hsame, BotBinding.dialled] at hconfigured
    rw [hchat, BotBinding.dialled]
    -- a bot that was not configured is so only over a connection that was built for the chat
    split at hconfigured
    · cases hbare.symm.trans hconfigured
    · next hblank =>
      split at hconfigured
      · cases hconfigured
      · next hbuilt => rw [if_neg hblank, if_neg hbuilt]

end Tie

/-! ## Calls that take turns -/

@[simp] theorem tie_leaveBot {c : Call} (hkind : c.kind = .stop) : (s.leaveBot c).tie = s.tie := by
  rw [leaveBot, enqueue]
  dsimp only
  split
  · rw [begin, hkind]
    exact tie_beginClearing _ c.number .stop
  · rfl

@[simp] theorem tie_closeBot {c : Call} (hkind : c.kind = .stop) : (s.closeBot c).tie = s.tie := by
  rw [closeBot]
  split
  · exact tie_leaveBot s hkind
  · next b hb =>
    dsimp only
    split
    · exact tie_setBot hb (b.unsubscribe ownName).binding_beginStop
    · exact (tie_leaveBot _ hkind).trans (tie_setBot hb ((b.unsubscribe ownName).binding_stopWithin _ _))

theorem tie_stop : s.stop.2.tie = s.tie := by
  rw [stop]
  split
  · rfl
  · exact tie_closeBot _ rfl

/-- A load that is asked for while the lock is not free changes nothing yet. -/
theorem tie_reload_of_busy (hbusy : s.lock ≠ []) : s.reload.2.tie = s.tie := by
  have hfree : (s.addCall .load).2.lock.isEmpty = false := by simpa [addCall, draw] using hbusy
  simp only [reload, enqueue, hfree, if_neg Bool.false_ne_true]
  rfl

/-- Going on with a call that does not wait for the bot changes the tie only where it is a load that begins. -/
theorem tie_wakeCall (hs : s.core.Sound) {n : Nat} (hn : n ∉ s.link.waiting) :
    (s.wakeCall n).tie = s.tie ∨ ⟨n, .load, .queued⟩ ∈ s.calls ∧ s.lock.head? = some n := by
  rw [wakeCall]
  split
  · exact .inl rfl
  · next c hfind =>
    have hcall : c ∈ s.calls := List.mem_of_find?_eq_some hfind
    have hnumber : c.number = n := by simpa using List.find?_some hfind
    have hkind := hs.kinds c hcall
    rcases c with ⟨m, kind, stage⟩
    obtain rfl : m = n := hnumber
    cases stage with
    | queued =>
      dsimp only
      split
      · next hhead =>
        cases kind with
        | load => exact .inr ⟨hcall, beq_iff_eq.mp hhead⟩
        | stop => exact .inl (tie_beginClearing s m .stop)
      · exact .inl rfl
    | disconnecting settings => exact absurd ⟨_, hcall, rfl, rfl⟩ hn
    | clearing told => exact .inl (tie_leaveClearing _ m kind)
    | settling => exact .inl (tie_finishLoading s m)
    | closing inTime =>
      obtain rfl : kind = .stop := beq_iff_eq.mp hkind
      dsimp only
      split
      · next b hb => exact .inl ((tie_leaveBot _ rfl).trans (tie_setBot hb rfl))
      · exact .inl (tie_leaveBot s rfl)
    | draining numbers => exact .inl rfl

variable {s} in
/-- Going on with a load that waited for the bot lets the bot follow the settings that the load has. -/
theorem heeds_wakeCall (hs : s.core.Sound) {c : Call} (hcall : c ∈ s.calls) {settings : Settings}
    (hstage : c.stage = .disconnecting settings) {b : ChatBot} (hb : s.around.bot? = some b) :
    s.tie.Heeds s.link c.number settings (s.wakeCall c.number).tie := by
  have hwaits : c.number ∈ s.link.waiting := ⟨c, hcall, rfl, by rw [hstage]; rfl⟩
  have hfind : s.calls.find? (·.number == c.number) = some c := find?_number hs.callNumbers hcall
  rw [wakeCall, hfind]
  dsimp only
  rw [hstage, hb]
  exact .renews (.inr hwaits) (binding_of_bot hb) rfl (.inr rfl)
    (follows_reconnect s c.number settings b.finishStop)

end Scheduler

end Deskhand
