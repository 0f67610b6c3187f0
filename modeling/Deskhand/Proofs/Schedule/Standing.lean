import Deskhand.Proofs.Run.Recorded
import Deskhand.Proofs.Schedule.Frame

/-!
# The standing of a scheduler

The `Standing` of a scheduler is what only a few steps of it change: whether it runs and listens to the bot, the
runs that are over, what was counted and told of them, the rows of the store and the loaded scenarios. What the
actions of a run do, the stages of calls, and the taking of turns leave it as it is, which the simp lemmas of this
module say. Main statements:

* `Execution.chat_start`, `Execution.chat_resume`: runs leave the chat as it is;
* `standing_start`, `standing_stop`: who listens to the bot;
* `standing_wakeCall`: a call changes the loaded scenarios where it loads, and nothing else;
* `step_after`: what every event makes of the standing.
-/

namespace Deskhand

/-! ## The chat in the course of runs -/

namespace Surroundings

/-- Who is told of commands, if there is a bot. -/
def listeners? (w : Surroundings) : Option (List String) :=
  w.bot?.map ChatBot.subscribers

theorem bot?_congr {w w' : Surroundings} (h : w'.chat = w.chat) : w'.bot? = w.bot? := by
  simp only [bot?, h]

theorem listeners?_congr {w w' : Surroundings} (h : w'.chat = w.chat) : w'.listeners? = w.listeners? := by
  rw [listeners?, bot?_congr h, listeners?]

end Surroundings

namespace Execution

/-- Performing actions leaves the chat as it is. -/
theorem chat_perform (name : String) (actions : List Block) (c : Context) (w : Surroundings) :
    (perform name actions c w).2.chat = w.chat := by
  induction actions generalizing c w with
  | nil => rfl
  | cons b rest ih =>
    have hb := Action.chat_perform b c w
    cases hp : (Action.perform b c w).progress with
    | finished result =>
      cases result with
      | ok v =>
        rw [perform_cons_done hp, ih]
        exact hb
      | failed reason =>
        rw [perform_cons_failed hp]
        dsimp only [reportFailure]
        split <;> exact hb
    | waiting seconds =>
      rw [perform_cons_waiting hp]
      exact hb
    | raised fault =>
      rw [perform_cons_raised hp]
      exact hb

theorem chat_resume (run : Execution) (w : Surroundings) : (run.resume w).2.chat = w.chat :=
  chat_perform run.name run.remaining run.context w

theorem chat_start (s : Scenario) (forced : Bool) (bindings : List (String × Value)) (w : Surroundings) :
    (start s forced bindings w).2.chat = w.chat := by
  have hread := (chat_blocksOf s w).1
  rw [start]
  split
  · next hblocks =>
    rw [hblocks] at hread
    exact hread
  · next hblocks =>
    rw [hblocks] at hread
    split
    · exact hread
    · split
      · exact hread
      · split
        · exact hread
        · exact hread
        · exact (chat_perform _ _ _ _).trans hread

end Execution

/-! ## Who listens to the bot -/

namespace ChatBot

theorem subscribers_build (b : ChatBot) (network : ChatNetwork) (token : String) (chat : Option Int) :
    (b.build network token chat).2.subscribers = b.subscribers := by
  rw [build]
  repeat' split
  all_goals rfl

theorem subscribers_startPolling (b : ChatBot) (network : ChatNetwork) :
    (b.startPolling network).2.subscribers = b.subscribers := by
  rw [startPolling]
  repeat' split
  all_goals rfl

theorem subscribers_startPairing (b : ChatBot) (now : Instant) (given : Option String) :
    (b.startPairing now given).2.subscribers = b.subscribers := by
  simp only [startPairing]
  split <;> rfl

theorem subscribers_publish (b : ChatBot) (network : ChatNetwork) (commands : ChatMenu) :
    (b.publish network commands).2.1.subscribers = b.subscribers := by
  simp only [publish]
  repeat' split
  all_goals rfl

theorem subscribers_beginStop (b : ChatBot) : b.beginStop.subscribers = b.subscribers := by
  rw [beginStop]
  split <;> rfl

theorem subscribers_stopWithin (b : ChatBot) (network : ChatNetwork) (limit : Option Float) :
    (b.stopWithin network limit).2.subscribers = b.subscribers := by
  simp only [stopWithin]
  repeat' split
  all_goals first | rfl | exact subscribers_beginStop b

theorem subscribers_receive (b : ChatBot) (network : ChatNetwork) (clock now : Instant) (text : String)
    (chat : Int) : (b.receive network clock now text chat).bot.subscribers = b.subscribers := by
  simp only [receive]
  repeat' split
  all_goals rfl

end ChatBot

namespace Scheduler

/-- What only a few steps of a scheduler change. -/
structure Standing where
  isRunning : Bool
  /-- Who is told of commands, if there is a bot. -/
  listeners : Option (List String)
  executed : Nat
  results : List (Nat × Bool)
  board : NoticeBoard
  announced : List Announcement
  rows : List Row
  loaded : Entries String Scenario
  loads : Nat

/-- The standing of a scheduler. -/
def standing (s : Scheduler) : Standing :=
  { isRunning := s.isRunning, listeners := s.around.listeners?, executed := s.executed, results := s.results
    board := s.board, announced := s.announced, rows := s.store.rows, loaded := s.loaded, loads := s.loads }

variable (s : Scheduler)

/-! ## What leaves the standing as it is -/

@[simp] theorem standing_report (level : LogLevel) (message : String) :
    (s.report level message).standing = s.standing := rfl

@[simp] theorem standing_appoint (seconds : Float) (rank : Rank) (alarm : Alarm) :
    (s.appoint seconds rank alarm).standing = s.standing := rfl

@[simp] theorem standing_setStage (n : Nat) (stage : Stage) : (s.setStage n stage).standing = s.standing := rfl

@[simp] theorem standing_endDrained : s.endDrained.standing = s.standing := rfl

variable {s} in
/-- The standing is made of the frame. -/
theorem standing_congr {t : Scheduler} (h : t.frame = s.frame) : t.standing = s.standing := by
  obtain ⟨hrunning, hchat, -, -, -, hstore, hloaded, hloads, hexecuted, hresults, hboard, hannounced⟩ :=
    Frame.mk.injEq .. |>.mp h
  simp only [standing, hrunning, Surroundings.listeners?_congr hchat, hstore, hloaded, hloads, hexecuted, hresults,
    hboard, hannounced]

/-- Surroundings in which the bot has the same listeners make no difference. -/
theorem standing_around {around : Surroundings} (h : around.listeners? = s.around.listeners?) :
    { s with around := around }.standing = s.standing := by
  simp only [standing, h]

variable {s} in
/-- A bot with the same listeners makes no difference. -/
theorem standing_setBot {b b' : ChatBot} (hb : s.around.bot? = some b) (h : b'.subscribers = b.subscribers) :
    { s with around := s.around.setBot b' }.standing = s.standing := by
  refine standing_around s ?_
  rw [Surroundings.listeners?, Surroundings.listeners?, hb]
  exact congrArg some h

theorem standing_withBot (b : ChatBot) :
    { s with around := s.around.setBot b }.standing = { s.standing with listeners := some b.subscribers } := rfl

/-! ### The bot -/

theorem standing_startPolling {b : ChatBot} (hb : s.around.bot? = some b) {b' : ChatBot}
    (h : b'.subscribers = b.subscribers) : (s.startPolling b').standing = s.standing := by
  have hset := standing_setBot hb ((b'.subscribers_startPolling s.around.network).trans h)
  rcases startPolling_cases s b' with heq | heq | ⟨_, heq⟩ <;> rw [heq]
  · exact hset
  · exact (standing_congr (frame_expectMessages _)).trans hset
  · exact hset

@[simp] theorem standing_connect (settings : Settings) : (s.connect settings).standing = s.standing := by
  rcases connect_cases s settings with ⟨h, -⟩ | ⟨b, built, b', hb, hbuild, h⟩ <;> rw [h]
  have hsame := b.subscribers_build s.around.network s.token settings.chatId
  rw [hbuild] at hsame
  have hset : ({ s with around := s.around.setBot b', connections := s.connections + 1 } : Scheduler).standing
      = s.standing := standing_setBot hb hsame
  cases built with
  | false => exact (standing_congr (frame_reportBuild _ false)).trans hset
  | true => exact (standing_startPolling _ rfl rfl).trans hset

@[simp] theorem standing_bindChat (settings : Settings) : (s.bindChat settings).standing = s.standing := by
  rcases bindChat_cases s settings with ⟨h, -⟩ | ⟨b, hb, -, h⟩ <;> rw [h]
  exact standing_setBot hb rfl

@[simp] theorem standing_followCode (settings : Settings) :
    (s.followCode settings).2.standing = s.standing := by
  rcases followCode_cases s settings with ⟨h, -⟩ | ⟨-, h⟩ | ⟨b, hb, -, -, -, h⟩ <;> rw [h]
  · rfl
  · exact standing_setBot (s := { s with pairingCode := settings.wantedCode }) hb (b.subscribers_startPairing _ _)

@[simp] theorem standing_publishMenu : s.publishMenu.standing = s.standing := by
  rcases publishMenu_cases s with h | ⟨b, hb, h⟩ <;> rw [h]
  exact standing_setBot (s := { s with around := { s.around with network := _ } }) hb (b.subscribers_publish _ _)

/-! ### Loading -/

/-- Loading replaces the loaded scenarios. -/
theorem standing_takeIn (generation : Nat) (scenarios : List Scenario) :
    (s.takeIn generation scenarios).standing =
      { s.standing with loaded := kept scenarios, loads := s.loads + 1 } :=
  (standing_publishMenu _).trans
    (standing_congr (foldl_keep frame (fun s scenario => frame_setUp s generation scenario) _ _))

/-- Loading changes nothing but the loaded scenarios, and not even these where the list cannot be read. -/
theorem standing_load : ∃ loaded loads, s.load.standing = { s.standing with loaded := loaded, loads := loads } := by
  cases hask : s.ask .list (s.store.list true) with
  | ok scenarios =>
    rw [load_of_ok hask, standing_takeIn]
    exact ⟨_, _, rfl⟩
  | error fault =>
    rw [load_of_error hask]
    exact ⟨s.loaded, s.loads, rfl⟩

/-! ### Calls -/

@[simp] theorem standing_beginDraining (n : Nat) : (s.beginDraining n).standing = s.standing := by
  rw [beginDraining]
  split <;> rfl

@[simp] theorem standing_leaveClearing (n : Nat) (kind : CallKind) :
    (s.leaveClearing n kind).standing = s.standing := by
  cases kind with
  | load => rfl
  | stop => exact (standing_beginDraining _ n).trans (standing_congr (frame_release _))

@[simp] theorem standing_beginClearing (n : Nat) (kind : CallKind) :
    (s.beginClearing n kind).standing = s.standing := by
  rcases beginClearing_cases s n kind with h | h <;> rw [h]
  · rw [standing_leaveClearing, standing_congr (frame_clear _)]
  · rw [standing_appoint, standing_setStage, standing_congr (frame_clear _)]

@[simp] theorem standing_followClearing : s.followClearing.standing = s.standing := by
  rcases followClearing_cases s with h | ⟨c, -, -, h⟩ <;> rw [h]
  exact standing_leaveClearing s _ _

@[simp] theorem standing_finishSettings (n : Nat) (settings : Settings) :
    (s.finishSettings n settings).standing = s.standing := by
  rcases finishSettings_cases s n settings with h | ⟨_, h⟩ <;> rw [h]
  · rw [standing_beginClearing, standing_followCode]
  · exact (standing_congr (frame_release _)).trans (standing_followCode s settings)

variable {s} in
theorem standing_reconnect {b b' : ChatBot} (hb : s.around.bot? = some b)
    (h : b'.subscribers = b.subscribers) (n : Nat) (settings : Settings) :
    (s.reconnect n settings b').standing = s.standing := by
  rw [reconnect, standing_finishSettings, standing_connect]
  exact standing_setBot hb h

variable {s} in
theorem standing_followToken {b : ChatBot} (hb : s.around.bot? = some b) (n : Nat) (settings : Settings) :
    (s.followToken n settings b).standing = s.standing := by
  rw [followToken]
  split
  · rw [standing_finishSettings, standing_bindChat]
  · dsimp only
    split
    · rw [standing_finishSettings, standing_connect]
      rfl
    · split
      · rw [standing_appoint, standing_setStage]
        exact standing_setBot hb b.subscribers_beginStop
      · exact standing_reconnect (s := { s with token := settings.wantedToken, pairingCode := "" }) hb
          (b.subscribers_stopWithin _ none) n settings

@[simp] theorem standing_followSettings (n : Nat) : (s.followSettings n).standing = s.standing := by
  rw [followSettings]
  split
  · rw [standing_beginClearing, standing_report]
  · next settings _ =>
    dsimp only
    split
    · next b hb _ =>
      exact standing_followToken (s := { s with around := { s.around with settings := some settings } }) hb
        n settings
    · rw [standing_beginClearing]
      rfl

@[simp] theorem standing_begin (c : Call) : (s.begin c).standing = s.standing := by
  rw [begin]
  split
  · exact standing_followSettings s _
  · exact standing_beginClearing s _ _

@[simp] theorem standing_enqueue (c : Call) : (s.enqueue c).standing = s.standing := by
  simp only [enqueue]
  split
  · rw [standing_begin, standing_setStage]
    rfl
  · rfl

@[simp] theorem standing_leaveBot (c : Call) : (s.leaveBot c).standing = s.standing :=
  standing_enqueue _ c

@[simp] theorem standing_reload : s.reload.2.standing = s.standing :=
  standing_enqueue _ _

/-- Going on with a call leaves the standing as it is, unless the call loads. -/
theorem standing_wakeCall (n : Nat) :
    (s.wakeCall n).standing = s.standing ∨ (s.wakeCall n).standing = s.load.standing := by
  rw [wakeCall]
  split
  · exact .inl rfl
  · next c _ =>
    split
    · split
      · exact .inl (standing_begin s c)
      · exact .inl rfl
    · split
      · next b hb => exact .inl (standing_reconnect hb rfl n _)
      · exact .inl (standing_finishSettings s n _)
    · exact .inl (standing_leaveClearing _ _ _)
    · exact .inr (standing_congr (s := s.load.endCall n) (frame_release _))
    · split
      · next b hb _ =>
        refine .inl ((standing_leaveBot _ c).trans ?_)
        exact standing_setBot hb rfl
      · exact .inl (standing_leaveBot s c)
    · exact .inl rfl

/-! ### Starting and stopping -/

/-- Starting makes the scheduler a listener of the bot. -/
theorem standing_start :
    s.start.2.standing =
      if s.isRunning then s.standing
      else { s.standing with
        isRunning := true
        listeners := s.standing.listeners.map fun names =>
          if names.contains ownName then names else names ++ [ownName] } := by
  have hsubscribe : ({ s with isRunning := true } : Scheduler).subscribe.standing =
      { s.standing with
        isRunning := true
        listeners := s.standing.listeners.map fun names =>
          if names.contains ownName then names else names ++ [ownName] } := by
    rw [subscribe]
    have hlisteners : s.standing.listeners = s.around.bot?.map ChatBot.subscribers := rfl
    split
    · next b hb =>
      have hbot : ((b.subscribe ownName).onPaired ownName).subscribers =
          if b.subscribers.contains ownName then b.subscribers else b.subscribers ++ [ownName] := by
        rw [ChatBot.onPaired, ChatBot.subscribe]
        repeat' split
        all_goals rfl
      rw [hlisteners, show s.around.bot? = some b from hb, Option.map_some, Option.map_some, ← hbot]
      rfl
    · next hb =>
      rw [hlisteners, show s.around.bot? = none from hb]
      simp only [standing, Surroundings.listeners?, show s.around.bot? = none from hb, Option.map_none]
  rw [start]
  cases hrun : s.isRunning with
  | true => rfl
  | false =>
    show (({ s with isRunning := true } : Scheduler).subscribe.startHook).reload.2.standing = _
    rw [standing_reload, standing_congr (frame_startHook _), hsubscribe]
    rfl

theorem standing_closeBot (c : Call) :
    (s.closeBot c).standing =
      { s.standing with listeners := s.standing.listeners.map fun names => names.erase ownName } := by
  have hlisteners : s.standing.listeners = s.around.bot?.map ChatBot.subscribers := rfl
  rw [closeBot]
  split
  · next hb =>
    rw [standing_leaveBot, hlisteners, hb]
    simp only [standing, Surroundings.listeners?, hb, Option.map_none]
  · next b hb =>
    rw [hlisteners, hb, Option.map_some, Option.map_some]
    dsimp only
    split
    · rw [standing_appoint, standing_setStage, standing_withBot, ChatBot.subscribers_beginStop]
      rfl
    · rw [standing_leaveBot, standing_withBot, ChatBot.subscribers_stopWithin]
      rfl

/-- Stopping makes it no listener. -/
theorem standing_stop :
    s.stop.2.standing =
      if s.isRunning then
        { s.standing with
          isRunning := false
          listeners := s.standing.listeners.map fun names => names.erase ownName }
      else s.standing := by
  rw [stop]
  cases hrun : s.isRunning with
  | false => rfl
  | true => exact standing_closeBot _ _

/-! ### Messages -/

@[simp] theorem standing_onPaired (chat : Int) : (s.onPaired chat).standing = s.standing := by
  rcases onPaired_cases s chat with ⟨settings, h⟩ | ⟨_, h⟩ <;> rw [h]
  · have hrows : (s.store.save settings).2.rows = s.store.rows := by
      rw [Store.save]
      split <;> rfl
    simp only [standing, hrows]
  · rfl

@[simp] theorem standing_take (d : Delivery) : (s.take d).standing = s.standing := by
  rcases take_cases s d with h | ⟨_, h⟩ | ⟨chat, h⟩ <;> rw [h]
  · exact standing_congr (frame_startAll s _)
  · exact standing_onPaired s chat

@[simp] theorem standing_onMessage (text : String) (chat : Int) :
    (s.onMessage text chat).2.standing = s.standing := by
  rcases onMessage_cases s text chat with h | ⟨b, around, hb, hchat, h⟩ <;> rw [h]
  rw [foldl_keep standing standing_take]
  refine (standing_congr (frame_around { s with around := s.around.setBot _ } hchat)).trans ?_
  exact standing_setBot hb (b.subscribers_receive _ _ _ _ _)

@[simp] theorem standing_onFetched (connection : Nat) (text : String) (chat : Int) :
    (s.onFetched connection text chat).standing = s.standing := by
  rcases onFetched_cases s connection text chat with h | h <;> rw [h]
  exact standing_onMessage s text chat

/-! ### Turns of runs -/

/-- What neither concluding a run nor a turn of one changes. -/
structure KeepsCalls (s t : Scheduler) : Prop where
  isRunning : t.isRunning = s.isRunning
  chat : t.around.chat = s.around.chat
  loads : t.loads = s.loads
  token : t.token = s.token
  pairingCode : t.pairingCode = s.pairingCode
  calls : t.calls = s.calls

theorem KeepsCalls.trans {s t u : Scheduler} (hst : KeepsCalls s t) (htu : KeepsCalls t u) : KeepsCalls s u :=
  ⟨htu.isRunning.trans hst.isRunning, htu.chat.trans hst.chat, htu.loads.trans hst.loads,
    htu.token.trans hst.token, htu.pairingCode.trans hst.pairingCode, htu.calls.trans hst.calls⟩

theorem keepsCalls_conclude (run : Run) : KeepsCalls s (s.conclude run) := by
  have hreport : ∀ (w : Surroundings) (message : String),
      (w.report .error NoticeBoard.source message).chat = w.chat := fun _ _ => rfl
  have hloaded : KeepsCalls s (s.noteLoaded run s.now) := by
    rw [noteLoaded]
    split <;> exact ⟨rfl, rfl, rfl, rfl, rfl, rfl⟩
  have hnoted : ∀ (u : Scheduler) (time : Instant), KeepsCalls u (u.noteInStore run.scenario time) := by
    intro u time
    rw [noteInStore]
    split <;> exact ⟨rfl, rfl, rfl, rfl, rfl, rfl⟩
  exact (hloaded.trans (hnoted _ s.now)).trans ⟨rfl, foldl_keep Surroundings.chat hreport _ _, rfl, rfl, rfl, rfl⟩

theorem keepsCalls_wakeRun (n : Nat) : KeepsCalls s (s.wakeRun n) := by
  have hproceed : ∀ (run : Run) (state : RunState) (around : Surroundings), around.chat = s.around.chat →
      KeepsCalls s ({ s with around := around }.proceed run state) := by
    intro run state around hchat
    have haround : KeepsCalls s { s with around := around } := ⟨rfl, hchat, rfl, rfl, rfl, rfl⟩
    cases state with
    | ended success =>
      cases success with
      | false => exact ⟨rfl, hchat, rfl, rfl, rfl, rfl⟩
      | true => exact haround.trans (keepsCalls_conclude _ run)
    | waiting seconds rest => exact ⟨rfl, hchat, rfl, rfl, rfl, rfl⟩
  rw [wakeRun]
  split
  · exact ⟨rfl, rfl, rfl, rfl, rfl, rfl⟩
  · next run _ =>
    split
    · next rest _ => exact hproceed run _ _ (Execution.chat_resume rest s.around)
    · have hchat := Execution.chat_start run.scenario true run.bindings s.around
      split
      all_goals
        next hstart =>
          rw [hstart] at hchat
          first
          | exact hproceed run _ _ hchat
          | exact ⟨rfl, hchat, rfl, rfl, rfl, rfl⟩

/-! ## Events -/

/-- What an event makes of the standing of a scheduler. -/
inductive Standing.Step : Event → Standing → Standing → Prop
  | nothing {e : Event} {st : Standing} : Step e st st
  /-- Starting makes the scheduler a listener of the bot. -/
  | start {st : Standing} : st.isRunning = false →
      Step .start st { st with
        isRunning := true
        listeners := st.listeners.map fun names =>
          if names.contains ownName then names else names ++ [ownName] }
  | stop {st : Standing} : st.isRunning = true →
      Step .stop st { st with
        isRunning := false
        listeners := st.listeners.map fun names => names.erase ownName }
  /-- A call may load. -/
  | load {n : Nat} {st : Standing} {loaded : Entries String Scenario} {loads : Nat} :
      Step (.alarm (.call n)) st { st with loaded := loaded, loads := loads }
  /-- A run may come out. -/
  | turn {n : Nat} {st st' : Standing} : st'.isRunning = st.isRunning → st'.listeners = st.listeners →
      st'.loads = st.loads → Step (.alarm (.run n)) st st'
  | store {kept : Store} {st : Standing} : Step (.store kept) st { st with rows := kept.rows }
  | scene {scene : Scheduler} {st : Standing} :
      Step (.scene scene) st { st with
        listeners := scene.around.listeners?, board := scene.board, announced := scene.announced }

theorem Standing.Step.of_eq {e : Event} {st st' : Standing} (h : st' = st) : Step e st st' :=
  h ▸ .nothing

theorem standing_ring (a : Alarm) : (s.ring a).standing = (s.handle a).standing := by
  rw [ring, standing_endDrained, standing_followClearing]

/-- Every event makes one step of the standing. -/
theorem step_after (e : Event) : Standing.Step e s.standing (s.after e).standing := by
  cases e with
  | start =>
    rw [after, standing_start]
    cases hrun : s.isRunning with
    | true => exact .nothing
    | false => exact .start hrun
  | stop =>
    rw [after, standing_stop]
    cases hrun : s.isRunning with
    | true => exact .stop hrun
    | false => exact .nothing
  | alarm a =>
    rw [after, standing_ring]
    cases a with
    | loop n => exact .of_eq (standing_congr (frame_wakeLoop s n))
    | run n =>
      have hkeeps := keepsCalls_wakeRun s n
      exact .turn hkeeps.isRunning (Surroundings.listeners?_congr hkeeps.chat) hkeeps.loads
    | call n =>
      rw [handle]
      rcases standing_wakeCall s n with hwake | hwake
      · rw [hwake]
        exact .nothing
      · obtain ⟨loaded, loads, hload⟩ := standing_load s
        rw [hwake, hload]
        exact .load
    | message connection text chat => exact .of_eq (standing_onFetched s connection text chat)
    | inspection => exact .nothing
    | shutdown => exact .nothing
    | signal => exact .nothing
  | reload => exact .of_eq (standing_reload s)
  | message text chat => exact .of_eq (standing_onMessage s text chat)
  | paired chat => exact .of_eq (standing_onPaired s chat)
  | store kept => exact .store
  | scene scene => exact .scene
  | run _ | hotkey _ _ | press _ _ | release _ | command _ | report _ _ =>
    exact .of_eq (standing_congr (frame_after s trivial))

end Scheduler

end Deskhand
