import Deskhand.Proofs.Schedule.Sound
import Deskhand.Proofs.Schedule.Standing
import Mathlib.Order.BooleanAlgebra.Set

/-!
# The connection of the bot

The `Link` of a scheduler is how it stands with its bot: the token that it remembers, the `BotLine` of the bot (its
connection, and whether it polls), and the calls that wait for the bot to stop before they connect it anew. Runs,
loops, keys and messages leave it as it is, and so do the calls except where they let the bot go, connect it or hang
up. Main statements:

* `link_connect`, `link_reconnect`: what connecting makes of the line;
* `heeds_followSettings`: a load whose settings can be read connects the bot iff they want another token;
* `link_stop`: stopping hangs up;
* `link_wakeCall`: going on with a call.
-/

namespace Deskhand

/-! ## The line of a bot -/

/-- How a bot stands with the network. -/
structure BotLine where
  isConfigured : Bool
  /-- The token of the connection that is built. -/
  token : Option String
  isPolling : Bool
  deriving DecidableEq, Repr

namespace BotLine

/-- Nothing was built yet. -/
def off : BotLine := ⟨false, none, false⟩

/-- The bot polls over a connection for a token. -/
def on (token : String) : BotLine := ⟨true, some token, true⟩

/-- A bot with a connection no longer polls. -/
def hungUp (l : BotLine) : BotLine :=
  if l.token.isSome then { l with isPolling := false } else l

/-- The connection is dropped. -/
def dropped (l : BotLine) : BotLine :=
  { l with isConfigured := false, token := none }

/-- A connection for a token is built and polled, as far as the network lets it. -/
def dialled (l : BotLine) (network : ChatNetwork) (token : String) : BotLine :=
  if Text.isBlankText token then l
  else if network.fails .build then l.dropped
  else ⟨true, some (Text.trim token), l.isPolling || !(network.fails .connect || network.fails .startPolling)⟩

/-- A connection for a token takes the place of the one that there may be. -/
def renewed (l : BotLine) (network : ChatNetwork) (token : String) : BotLine :=
  if l.isConfigured then l.hungUp.dropped.dialled network token else l.dialled network token

end BotLine

/-- A network that builds connections and lets them be polled. -/
def ChatNetwork.Serves (network : ChatNetwork) : Prop :=
  network.fails .build = false ∧ network.fails .connect = false ∧ network.fails .startPolling = false

instance (network : ChatNetwork) : Decidable network.Serves :=
  inferInstanceAs (Decidable (_ ∧ _))

theorem BotLine.dialled_of_serves {network : ChatNetwork} (h : network.Serves) {token : String}
    (htoken : Text.isBlankText token = false) (l : BotLine) : l.dialled network token = on (Text.trim token) := by
  obtain ⟨hbuild, hconnect, hpoll⟩ := h
  simp [dialled, on, htoken, hbuild, hconnect, hpoll]

theorem BotLine.renewed_of_serves {network : ChatNetwork} (h : network.Serves) {token : String}
    (htoken : Text.isBlankText token = false) (l : BotLine) : l.renewed network token = on (Text.trim token) := by
  rw [renewed]
  split <;> exact dialled_of_serves h htoken _

namespace ChatBot

variable (b : ChatBot)

/-- The line of a bot. -/
def line : BotLine :=
  ⟨b.isConfigured, b.application.map (·.token), b.isPolling⟩

@[simp] theorem line_subscribe (name : String) : (b.subscribe name).line = b.line := by
  rw [subscribe]
  split <;> rfl

@[simp] theorem line_onPaired (name : String) : (b.onPaired name).line = b.line := by
  rw [onPaired]
  split <;> rfl

theorem line_startPairing (now : Instant) (given : Option String) : (b.startPairing now given).2.line = b.line := by
  simp only [startPairing]
  split <;> rfl

theorem line_publish (network : ChatNetwork) (commands : ChatMenu) :
    (b.publish network commands).2.1.line = b.line := by
  simp only [publish]
  repeat' split
  all_goals rfl

theorem line_receive (network : ChatNetwork) (clock now : Instant) (text : String) (chat : Int) :
    (b.receive network clock now text chat).bot.line = b.line := by
  simp only [receive]
  repeat' split
  all_goals rfl

theorem line_finishStop : b.finishStop.line = b.line := by
  simp [finishStop, line, Option.map_map, Function.comp_def]

theorem line_beginStop : b.beginStop.line = b.line.hungUp := by
  simp only [beginStop, BotLine.hungUp, line, Option.isSome_map]
  split <;> rfl

/-- Stopping without a limit hangs up, and so it does within one: the bot may only go on fetching. -/
theorem line_stopWithin (network : ChatNetwork) (limit : Option Float) :
    (b.stopWithin network limit).2.line = b.line.hungUp := by
  simp only [stopWithin]
  split
  · next hpoll =>
    have hpoll : b.isPolling = false := by simpa using hpoll
    simp only [BotLine.hungUp, line, hpoll]
    split <;> rfl
  · split
    · exact b.line_beginStop
    · exact b.beginStop.line_finishStop.trans b.line_beginStop

/-- The connection that is built, before it is polled. -/
theorem build_eq (network : ChatNetwork) (token : String) (chat : Option Int) :
    (b.build network token chat).1 = (!Text.isBlankText token && !network.fails .build) ∧
      (b.build network token chat).2.line =
        if Text.isBlankText token then b.line
        else if network.fails .build then b.line.dropped
        else ⟨true, some (Text.trim token), b.isPolling⟩ := by
  rw [build]
  split
  · next hblank => simp [hblank]
  · next hblank =>
    split
    · next hfails => simp [hblank, hfails, BotLine.dropped, line]
    · next hfails => simp [hblank, hfails, line]

theorem line_startPolling (network : ChatNetwork) {token : String} (h : b.line.token = some token) :
    (b.startPolling network).2.line =
      { b.line with isPolling := b.isPolling || !(network.fails .connect || network.fails .startPolling) } := by
  obtain ⟨app, happ, -⟩ := Option.map_eq_some_iff.mp h
  rw [startPolling, happ]
  dsimp only
  split
  · next hpoll => simp [line, hpoll]
  · next hpoll =>
    split
    · next hfails => simp [line, hpoll, hfails]
    · next hfails => simp [line, hpoll, hfails, happ]

end ChatBot

/-- The line of the bot, if there is one. -/
def Surroundings.line? (w : Surroundings) : Option BotLine :=
  w.bot?.map ChatBot.line

theorem Surroundings.line?_congr {w w' : Surroundings} (h : w'.chat = w.chat) : w'.line? = w.line? := by
  rw [line?, bot?_congr h, line?]

/-- Whether a call waits for the bot to stop before it connects it anew. -/
def Stage.isHangingUp : Stage → Bool
  | disconnecting _ => true
  | _ => false

theorem Stage.isInside_of_isHangingUp {stage : Stage} (h : stage.isHangingUp = true) : stage.isInside = true := by
  cases stage <;> first | rfl | cases h

namespace Scheduler

/-- How a scheduler stands with its bot. -/
@[ext] structure Link where
  /-- The token that is remembered. -/
  token : String
  line : Option BotLine
  /-- The calls that wait for the bot to stop before they connect it anew. -/
  waiting : Set Nat

/-- Another line. -/
def Link.withLine (l : Link) (line : Option BotLine) : Link :=
  { l with line := line }

/-- A call no longer waits for the bot. -/
def Link.without (l : Link) (n : Nat) : Link :=
  { l with waiting := l.waiting \ {n} }

theorem Link.without_of_not_mem {l : Link} {n : Nat} (h : n ∉ l.waiting) : l.without n = l := by
  rw [without, Set.sdiff_singleton_eq_self h]

@[simp] theorem Link.without_without (l : Link) (n : Nat) : (l.without n).without n = l.without n :=
  Link.without_of_not_mem (by simp [without])

/-- The calls of a list that wait for the bot. -/
def waitingOf (calls : List Call) : Set Nat :=
  {n | ∃ call ∈ calls, call.number = n ∧ call.stage.isHangingUp = true}

/-- How a scheduler stands with its bot. -/
def link (s : Scheduler) : Link :=
  ⟨s.token, s.around.line?, waitingOf s.calls⟩

variable (s : Scheduler)

/-! ## What leaves the link as it is -/

@[simp] theorem link_appoint (seconds : Float) (rank : Rank) (alarm : Alarm) :
    (s.appoint seconds rank alarm).link = s.link := rfl

variable {s} in
/-- The link is made of the frame. -/
theorem link_congr {t : Scheduler} (h : t.frame = s.frame) : t.link = s.link := by
  obtain ⟨-, hchat, htoken, -, hcalls, -⟩ := Frame.mk.injEq .. |>.mp h
  simp only [link, Surroundings.line?_congr hchat, htoken, hcalls]

/-- Surroundings in which the bot has the same line make no difference. -/
theorem link_around {around : Surroundings} (h : around.line? = s.around.line?) :
    { s with around := around }.link = s.link := by
  simp only [link, h]

theorem link_withBot (b : ChatBot) : { s with around := s.around.setBot b }.link = s.link.withLine (some b.line) := rfl

variable {s} in
theorem line_of_bot {b : ChatBot} (hb : s.around.bot? = some b) : s.link.line = some b.line :=
  congrArg (Option.map ChatBot.line) hb

variable {s} in
/-- A bot with the same line makes no difference. -/
theorem link_setBot {b b' : ChatBot} (hb : s.around.bot? = some b) (h : b'.line = b.line) :
    { s with around := s.around.setBot b' }.link = s.link := by
  rw [link_withBot, h, ← line_of_bot hb]
  rfl

/-! ### The bot -/

@[simp] theorem link_bindChat (settings : Settings) : (s.bindChat settings).link = s.link := by
  rcases bindChat_cases s settings with ⟨h, -⟩ | ⟨b, hb, -, h⟩ <;> rw [h]
  exact link_setBot hb rfl

@[simp] theorem link_followCode (settings : Settings) : (s.followCode settings).2.link = s.link := by
  rcases followCode_cases s settings with ⟨h, -⟩ | ⟨-, h⟩ | ⟨b, hb, -, -, -, h⟩ <;> rw [h]
  · rfl
  · exact link_setBot (s := { s with pairingCode := settings.wantedCode }) hb (b.line_startPairing _ _)

@[simp] theorem link_publishMenu : s.publishMenu.link = s.link := by
  rcases publishMenu_cases s with h | ⟨b, hb, h⟩ <;> rw [h]
  exact link_setBot (s := { s with around := { s.around with network := _ } }) hb (b.line_publish _ _)

@[simp] theorem link_subscribe : s.subscribe.link = s.link := by
  rw [subscribe]
  split
  · next b hb => exact link_setBot hb (by rw [ChatBot.line_onPaired, ChatBot.line_subscribe])
  · rfl

@[simp] theorem link_load : s.load.link = s.link := by
  cases hask : s.ask .list (s.store.list true) with
  | ok scenarios =>
    rw [load_of_ok hask]
    exact (link_publishMenu _).trans (foldl_keep link (fun t scenario => link_congr (frame_setUp t _ scenario)) _ _)
  | error fault => rw [load_of_error hask]; rfl

/-! ### Runs and messages -/

@[simp] theorem link_wakeRun (n : Nat) : (s.wakeRun n).link = s.link := by
  have hkeeps := keepsCalls_wakeRun s n
  simp only [link, Surroundings.line?_congr hkeeps.chat, hkeeps.token, hkeeps.calls]

@[simp] theorem link_onPaired (chat : Int) : (s.onPaired chat).link = s.link := by
  rcases onPaired_cases s chat with ⟨_, h⟩ | ⟨_, h⟩ <;> rw [h] <;> rfl

@[simp] theorem link_take (d : Delivery) : (s.take d).link = s.link := by
  rcases take_cases s d with h | ⟨_, h⟩ | ⟨chat, h⟩ <;> rw [h]
  · exact link_congr (frame_startAll s _)
  · exact link_onPaired s chat

@[simp] theorem link_onMessage (text : String) (chat : Int) : (s.onMessage text chat).2.link = s.link := by
  rcases onMessage_cases s text chat with h | ⟨b, around, hb, hchat, h⟩ <;> rw [h]
  rw [foldl_keep link link_take]
  refine (link_congr (frame_around { s with around := s.around.setBot _ } hchat)).trans ?_
  exact link_setBot hb (b.line_receive _ _ _ _ _)

@[simp] theorem link_onFetched (connection : Nat) (text : String) (chat : Int) :
    (s.onFetched connection text chat).link = s.link := by
  rcases onFetched_cases s connection text chat with h | h <;> rw [h]
  exact link_onMessage s text chat

/-! ## Calls -/

theorem waitingOf_setStage (calls : List Call) (n : Nat) {stage : Stage} (h : stage.isHangingUp = false) :
    waitingOf (calls.map fun c => if c.number == n then { c with stage := stage } else c) =
      waitingOf calls \ {n} := by
  ext m
  simp only [waitingOf, List.mem_map, Set.mem_sdiff, Set.mem_ofPred_eq, Set.mem_singleton_iff]
  constructor
  · rintro ⟨_, ⟨call, hcall, rfl⟩, hnumber, hstage⟩
    split at hnumber
    · next hn => simp [hn, h] at hstage
    · next hn =>
      rw [if_neg hn] at hstage
      exact ⟨⟨call, hcall, hnumber, hstage⟩, fun hm => hn (by simp [hnumber, hm])⟩
  · rintro ⟨⟨call, hcall, rfl, hstage⟩, hne⟩
    exact ⟨call, ⟨call, hcall, by simp [hne]⟩, rfl, hstage⟩

theorem waitingOf_hangUp {calls : List Call} {n : Nat} (hn : n ∈ calls.map Call.number) (settings : Settings) :
    waitingOf (calls.map fun c => if c.number == n then { c with stage := .disconnecting settings } else c) =
      insert n (waitingOf calls) := by
  ext m
  simp only [waitingOf, List.mem_map, Set.mem_insert_iff, Set.mem_ofPred_eq]
  constructor
  · rintro ⟨_, ⟨call, hcall, rfl⟩, hnumber, hstage⟩
    split at hnumber
    · next h => exact .inl (hnumber.symm.trans (beq_iff_eq.mp h))
    · next h =>
      rw [if_neg h] at hstage
      exact .inr ⟨call, hcall, hnumber, hstage⟩
  · rintro (rfl | ⟨call, hcall, rfl, hstage⟩)
    · obtain ⟨call, hcall, rfl⟩ := List.mem_map.mp hn
      exact ⟨_, ⟨call, hcall, rfl⟩, by simp, by simp [Stage.isHangingUp]⟩
    · refine ⟨_, ⟨call, hcall, rfl⟩, ?_, ?_⟩
      · split <;> rfl
      · split
        · rfl
        · exact hstage

theorem waitingOf_filter (calls : List Call) (stays : Call → Bool)
    (h : ∀ call ∈ calls, stays call = false → call.stage.isHangingUp = false) :
    waitingOf (calls.filter stays) = waitingOf calls := by
  ext m
  simp only [waitingOf, List.mem_filter, Set.mem_ofPred_eq]
  refine ⟨fun ⟨call, ⟨hcall, _⟩, hspec⟩ => ⟨call, hcall, hspec⟩, fun ⟨call, hcall, hnumber, hstage⟩ => ?_⟩
  refine ⟨call, ⟨hcall, ?_⟩, hnumber, hstage⟩
  by_contra hstays
  rw [h call hcall (by simpa using hstays)] at hstage
  cases hstage

theorem link_setStage (n : Nat) {stage : Stage} (h : stage.isHangingUp = false) :
    (s.setStage n stage).link = s.link.without n := by
  simp only [link, setStage, Link.without, waitingOf_setStage s.calls n h]

@[simp] theorem link_endCall (n : Nat) : (s.endCall n).link = s.link.without n := by
  have hcalls : waitingOf (s.calls.filter (·.number != n)) = waitingOf s.calls \ {n} := by
    ext m
    simp only [waitingOf, List.mem_filter, Set.mem_sdiff, Set.mem_ofPred_eq, Set.mem_singleton_iff]
    constructor
    · rintro ⟨call, ⟨hcall, hne⟩, rfl, hstage⟩
      exact ⟨⟨call, hcall, rfl, hstage⟩, by simpa using hne⟩
    · rintro ⟨⟨call, hcall, rfl, hstage⟩, hne⟩
      exact ⟨call, ⟨hcall, by simpa using hne⟩, rfl, hstage⟩
  simp only [link, endCall, Link.without, hcalls]

@[simp] theorem link_beginDraining (n : Nat) : (s.beginDraining n).link = s.link.without n := by
  rw [beginDraining]
  split
  · exact link_endCall s n
  · exact link_setStage s n rfl

@[simp] theorem link_leaveClearing (n : Nat) (kind : CallKind) :
    (s.leaveClearing n kind).link = s.link.without n := by
  cases kind with
  | load => exact link_setStage s n rfl
  | stop => exact (link_beginDraining _ n).trans (congrArg (Link.without · n) (link_congr (frame_release _)))

@[simp] theorem link_beginClearing (n : Nat) (kind : CallKind) :
    (s.beginClearing n kind).link = s.link.without n := by
  rcases beginClearing_cases s n kind with h | h <;> rw [h]
  · rw [link_leaveClearing, link_congr (frame_clear _)]
  · rw [link_appoint, link_setStage _ n rfl, link_congr (frame_clear _)]

@[simp] theorem link_finishSettings (n : Nat) (settings : Settings) :
    (s.finishSettings n settings).link = s.link.without n := by
  rw [← link_followCode s settings]
  rcases finishSettings_cases s n settings with h | ⟨_, h⟩ <;> rw [h]
  · exact link_beginClearing _ n .load
  · exact (link_congr (frame_release _)).trans (link_endCall _ n)

/-- No call that waits for the bot waits for loops, so going on with the one that does changes nothing. -/
theorem link_followClearing (hs : (s.calls.map Call.number).Nodup) : s.followClearing.link = s.link := by
  rcases followClearing_cases s with h | ⟨c, hc, hcleared, h⟩ <;> rw [h]
  rw [link_leaveClearing, Link.without_of_not_mem]
  rintro ⟨call, hcall, hn, hstage⟩
  obtain rfl := List.inj_on_of_nodup_map hs hcall hc hn
  rcases call with ⟨n, kind, stage⟩
  cases stage <;> simp_all [Stage.isHangingUp, isCleared]

@[simp] theorem link_endDrained : s.endDrained.link = s.link := by
  have hcalls : waitingOf (s.calls.filter fun c => !s.isDrained c) = waitingOf s.calls := by
    refine waitingOf_filter s.calls _ fun call _ hstays => ?_
    rcases call with ⟨n, kind, stage⟩
    cases stage <;> first | rfl | simp [isDrained] at hstays
  simp only [link, endDrained, hcalls]

/-! ## Connecting -/

theorem link_startPolling {b : ChatBot} {token : String} (h : b.line.token = some token) :
    (s.startPolling b).link = s.link.withLine (some { b.line with
      isPolling := b.isPolling || !(s.around.network.fails .connect || s.around.network.fails .startPolling) }) := by
  rw [← b.line_startPolling s.around.network h, ← link_withBot]
  rcases startPolling_cases s b with heq | heq | ⟨_, heq⟩ <;> rw [heq]
  · exact link_congr (frame_expectMessages _)
  · rfl

/-- Connecting dials for the token that is remembered. -/
theorem link_connect (settings : Settings) :
    (s.connect settings).link = s.link.withLine (s.link.line.map (·.dialled s.around.network s.token)) := by
  rcases connect_cases s settings with ⟨h, hidle⟩ | ⟨b, built, b', hb, hbuild, h⟩ <;> rw [h]
  · have hline : s.link.line.map (·.dialled s.around.network s.token) = s.link.line := by
      rcases hidle with hb | htoken
      · rw [show s.link.line = none from congrArg (Option.map ChatBot.line) hb, Option.map_none]
      · -- the empty token is blank, and nothing is dialled for it
        rw [htoken]
        exact congrFun Option.map_id _
    exact Link.ext rfl hline.symm rfl
  · obtain ⟨hbuilt, hline⟩ := b.build_eq s.around.network s.token settings.chatId
    rw [hbuild] at hbuilt hline
    rw [line_of_bot hb, Option.map_some]
    dsimp only at hbuilt hline ⊢
    rw [BotLine.dialled]
    split at hline
    · next hblank =>
      obtain rfl : built = false := by rw [hbuilt, hblank]; rfl
      rw [if_pos hblank, ← hline]
      exact link_congr (frame_reportBuild _ false)
    · next hblank =>
      rw [if_neg hblank]
      split at hline
      · next hfails =>
        obtain rfl : built = false := by rw [hbuilt, hfails]; simp
        rw [if_pos hfails, ← hline]
        exact link_congr (frame_reportBuild _ false)
      · next hfails =>
        obtain rfl : built = true := by rw [hbuilt]; simp [hblank, hfails]
        have hpolls : b'.isPolling = b.isPolling := congrArg BotLine.isPolling hline
        rw [if_neg hfails, if_pos rfl, link_startPolling _ (congrArg BotLine.token hline), hline, hpolls]
        rfl

/-- Connecting anew drops the connection first. -/
theorem link_reconnect (n : Nat) (settings : Settings) (b : ChatBot) :
    (s.reconnect n settings b).link =
      (s.link.withLine (some (b.line.dropped.dialled s.around.network s.token))).without n := by
  rw [reconnect, link_finishSettings, link_connect, link_withBot]
  rfl

/-- What a load makes of the link whose settings want the bot to be connected for a token. -/
inductive Link.Heeds (network : ChatNetwork) (wanted : String) (n : Nat) (l : Link) : Link → Prop
  /-- The token is the one that is remembered. -/
  | keeps : wanted = l.token → Heeds network wanted n l (l.without n)
  /-- The bot is connected for another token. -/
  | renews {line : BotLine} : wanted ≠ l.token → l.line = some line →
      Heeds network wanted n l
        ({ l with token := wanted, line := some (line.renewed network wanted) }.without n)
  /-- The bot hangs up, and the load waits until it has stopped. -/
  | waits {line : BotLine} : wanted ≠ l.token → l.line = some line → line.isConfigured = true →
      Heeds network wanted n l { token := wanted, line := some line.hungUp, waiting := insert n l.waiting }

variable {s} in
theorem heeds_followToken {b : ChatBot} (hb : s.around.bot? = some b) {n : Nat}
    (hn : n ∈ s.calls.map Call.number) (settings : Settings) :
    s.link.Heeds s.around.network settings.wantedToken n (s.followToken n settings b).link := by
  have hline := line_of_bot hb
  rw [followToken]
  split
  · next hsame =>
    rw [link_finishSettings, link_bindChat]
    exact .keeps (beq_iff_eq.mp hsame)
  · next hother =>
    have hother : settings.wantedToken ≠ s.link.token := fun h => hother (beq_iff_eq.mpr h)
    have hrenews : s.link.Heeds s.around.network settings.wantedToken n _ := .renews hother hline
    rw [BotLine.renewed] at hrenews
    dsimp only
    split
    · next hbare =>
      have hbare : b.line.isConfigured = false := by simpa [ChatBot.line] using hbare
      rw [link_finishSettings, link_connect]
      rw [if_neg (by simp [hbare])] at hrenews
      convert hrenews using 2
      exact Link.ext rfl (congrArg (Option.map _) hline) rfl
    · next hconfigured =>
      have hconfigured : b.line.isConfigured = true := by simpa [ChatBot.line] using hconfigured
      rw [if_pos hconfigured] at hrenews
      split
      · next seconds _ =>
        have hwaits : s.link.Heeds s.around.network settings.wantedToken n _ := .waits hother hline hconfigured
        convert hwaits using 1
        refine Link.ext rfl ?_ (waitingOf_hangUp hn settings)
        exact congrArg some b.line_beginStop
      · rw [link_reconnect, ChatBot.line_stopWithin]
        exact hrenews

variable {s} in
/-- A load whose settings can be read follows the token if the scheduler runs and has a bot. -/
theorem followSettings_of_ok {settings : Settings} (hread : s.ask .settings (.ok s.store.settings) = .ok settings)
    (n : Nat) :
    s.followSettings n =
      match s.around.bot?, s.isRunning with
      | some b, true => { s with around := { s.around with settings := some settings } }.followToken n settings b
      | _, _ => { s with around := { s.around with settings := some settings } }.beginClearing n .load := by
  rw [followSettings, hread]
  rfl

variable {s} in
/-- A load whose settings can be read heeds them, if the scheduler runs and has a bot. -/
theorem heeds_followSettings {settings : Settings} (hread : s.ask .settings (.ok s.store.settings) = .ok settings)
    (hrunning : s.isRunning = true) {b : ChatBot} (hb : s.around.bot? = some b) {n : Nat}
    (hn : n ∈ s.calls.map Call.number) :
    s.link.Heeds s.around.network settings.wantedToken n (s.followSettings n).link := by
  rw [followSettings_of_ok hread]
  split
  · next b' hb' _ =>
    exact heeds_followToken (s := { s with around := { s.around with settings := some settings } }) hb' hn settings
  · next hnone => exact absurd hrunning (hnone b hb)

variable {s} in
theorem link_followSettings {n : Nat} (hn : n ∈ s.calls.map Call.number) :
    (s.followSettings n).link = s.link.without n ∨
      ∃ wanted, s.link.Heeds s.around.network wanted n (s.followSettings n).link := by
  cases hread : s.ask .settings (.ok s.store.settings) with
  | error fault =>
    rw [followSettings, hread]
    exact .inl (link_beginClearing _ n .load)
  | ok settings =>
    by_cases hfollows : s.isRunning = true ∧ ∃ b, s.around.bot? = some b
    · obtain ⟨hrunning, b, hb⟩ := hfollows
      exact .inr ⟨_, heeds_followSettings hread hrunning hb hn⟩
    · rw [followSettings_of_ok hread]
      split
      · next b hb hrunning => exact absurd ⟨hrunning, b, hb⟩ hfollows
      · exact .inl (link_beginClearing _ n .load)

/-! ## Calls that take turns -/

theorem not_mem_waiting {s : Scheduler} (hs : (s.calls.map Call.number).Nodup) {c : Call} (hc : c ∈ s.calls)
    (hstage : c.stage.isHangingUp = false) : c.number ∉ s.link.waiting := by
  rintro ⟨call, hcall, hn, hwaits⟩
  rw [List.inj_on_of_nodup_map hs hcall hc hn, hstage] at hwaits
  cases hwaits

/-- One load at most waits for the bot. -/
theorem eq_of_waiting {s : Scheduler} (hs : s.core.Sound) {m n : Nat} (hm : m ∈ s.link.waiting)
    (hn : n ∈ s.link.waiting) : m = n := by
  obtain ⟨call, hcall, rfl, hstage⟩ := hm
  obtain ⟨other, hother, rfl, hstage'⟩ := hn
  rw [hs.eq_of_inside hcall hother (Stage.isInside_of_isHangingUp hstage) (Stage.isInside_of_isHangingUp hstage')]

theorem numbered_not_mem_waiting {s : Scheduler} (hs : s.core.Sound) : s.numbered ∉ s.link.waiting := by
  rintro ⟨call, hcall, hn, -⟩
  exact absurd (hs.calls_lt call hcall) (hn ▸ Nat.lt_irrefl _)

@[simp] theorem link_addCall (kind : CallKind) : (s.addCall kind).2.link = s.link := by
  have hcalls : waitingOf (s.calls ++ [{ number := s.numbered, kind := kind }]) = waitingOf s.calls := by
    ext m
    simp [waitingOf, Stage.isHangingUp, or_and_right, exists_or]
  exact Link.ext rfl rfl hcalls

/-- A call for which the lock is not free waits for it. -/
theorem link_enqueue_of_busy (c : Call) (hbusy : s.lock ≠ []) : (s.enqueue c).link = s.link.without c.number := by
  have hfree : s.lock.isEmpty = false := by simpa using hbusy
  simp only [enqueue, hfree, if_neg Bool.false_ne_true]
  exact link_setStage { s with lock := s.lock ++ [c.number] } c.number rfl

theorem link_begin_stop {c : Call} (hkind : c.kind = .stop) : (s.begin c).link = s.link.without c.number := by
  rw [begin, hkind]
  exact link_beginClearing s c.number .stop

theorem link_leaveBot {c : Call} (hkind : c.kind = .stop) : (s.leaveBot c).link = s.link.without c.number := by
  rw [leaveBot]
  by_cases hfree : s.lock = []
  · simp only [enqueue, hfree, List.isEmpty_nil, if_pos]
    rw [link_begin_stop _ hkind, link_setStage _ _ rfl, Link.without_without]
    rfl
  · exact link_enqueue_of_busy { s with hook := s.hook.map KeyboardHook.stop } c hfree

/-- Stopping hangs up. -/
theorem link_closeBot {c : Call} (hkind : c.kind = .stop) :
    (s.closeBot c).link = (s.link.withLine (s.link.line.map BotLine.hungUp)).without c.number := by
  rw [closeBot]
  split
  · next hb =>
    have hline : s.link.line = none := congrArg (Option.map ChatBot.line) hb
    rw [link_leaveBot _ hkind, hline]
    exact congrArg (Link.without · c.number) (Link.ext rfl hline rfl)
  · next b hb =>
    rw [line_of_bot hb]
    dsimp only
    split
    · rw [link_appoint, link_setStage _ _ rfl, link_withBot, ChatBot.line_beginStop]
      rfl
    · rw [link_leaveBot _ hkind, link_withBot, ChatBot.line_stopWithin]
      rfl

theorem link_stop (hs : s.core.Sound) :
    s.stop.2.link = if s.isRunning then s.link.withLine (s.link.line.map BotLine.hungUp) else s.link := by
  rw [stop]
  cases hrun : s.isRunning with
  | false => rfl
  | true =>
    have hclose := link_closeBot ({ s with isRunning := false }.addCall .stop).2
      (c := ({ s with isRunning := false }.addCall .stop).1) rfl
    rw [link_addCall] at hclose
    exact hclose.trans (Link.without_of_not_mem (numbered_not_mem_waiting hs))

variable {s} in
/-- Going on with a load that waited for the bot connects it anew. -/
theorem link_wakeCall_of_hangingUp (hs : s.core.Sound) {c : Call} (hcall : c ∈ s.calls) {settings : Settings}
    (hstage : c.stage = .disconnecting settings) :
    (s.wakeCall c.number).link =
      (s.link.withLine (s.link.line.map fun line =>
        line.dropped.dialled s.around.network s.token)).without c.number := by
  have hfind : s.calls.find? (·.number == c.number) = some c := find?_number hs.callNumbers hcall
  rw [wakeCall, hfind]
  dsimp only
  rw [hstage]
  dsimp only
  split
  · next b hb =>
    rw [link_reconnect, line_of_bot hb, ChatBot.line_finishStop]
    rfl
  · next hb =>
    have hline : s.link.line = none := congrArg (Option.map ChatBot.line) hb
    rw [link_finishSettings, hline]
    exact congrArg (Link.without · c.number) (Link.ext rfl hline rfl)

/-- Going on with a call changes the link only where it is a load that begins, or one that waited for the bot and
connects it now. -/
theorem link_wakeCall (hs : s.core.Sound) (n : Nat) :
    (s.wakeCall n).link = s.link ∨
      (⟨n, .load, .queued⟩ ∈ s.calls ∧ s.lock.head? = some n) ∨
      n ∈ s.link.waiting ∧ (s.wakeCall n).link =
        (s.link.withLine (s.link.line.map fun line =>
          line.dropped.dialled s.around.network s.token)).without n := by
  rw [wakeCall]
  split
  · exact .inl rfl
  · next c hfind =>
    have hcall : c ∈ s.calls := List.mem_of_find?_eq_some hfind
    have hn : c.number = n := by simpa using List.find?_some hfind
    have hkind := hs.kinds c hcall
    have hsame : c.stage.isHangingUp = false → s.link.without n = s.link := fun hstage =>
      Link.without_of_not_mem (hn ▸ not_mem_waiting hs.callNumbers hcall hstage)
    rcases c with ⟨m, kind, stage⟩
    obtain rfl : m = n := hn
    cases stage with
    | queued =>
      dsimp only
      split
      · next hhead =>
        cases kind with
        | load => exact .inr (.inl ⟨hcall, beq_iff_eq.mp hhead⟩)
        | stop => exact .inl ((link_begin_stop s rfl).trans (hsame rfl))
      · exact .inl rfl
    | disconnecting settings =>
      have hredials := link_wakeCall_of_hangingUp hs hcall rfl
      rw [wakeCall, hfind] at hredials
      exact .inr (.inr ⟨⟨_, hcall, rfl, rfl⟩, hredials⟩)
    | clearing told => exact .inl ((link_leaveClearing _ m kind).trans (hsame rfl))
    | settling =>
      refine .inl ((link_congr (frame_release _)).trans ((link_endCall _ m).trans ?_))
      rw [link_load]
      exact hsame rfl
    | closing inTime =>
      obtain rfl : kind = .stop := beq_iff_eq.mp hkind
      dsimp only
      split
      · next b hb =>
        refine .inl ((link_leaveBot _ rfl).trans ?_)
        rw [link_setBot hb b.line_finishStop]
        exact hsame rfl
      · exact .inl ((link_leaveBot s rfl).trans (hsame rfl))
    | draining numbers => exact .inl ((link_endCall _ m).trans (hsame rfl))

end Scheduler

end Deskhand
