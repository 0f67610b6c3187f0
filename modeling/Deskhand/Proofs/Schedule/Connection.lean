import Deskhand.Proofs.Schedule.Link
import Deskhand.Proofs.Text.Blank

/-!
# When the bot is connected

A load that takes its turn compares the token that the settings want with the one that is remembered, not with the
line of the bot. The invariant is `Link.IsCoherent`: a connection that is built is one for the remembered token, unless
a load waits for the bot to stop. So a load whose settings want another token leaves the bot polling for it, if the
network lets it, and a load that finds its token remembered leaves the line as it is, also where the bot could not be
connected before or was stopped since. Main statements:

* `link_after`: what every event makes of the link;
* `IsNew.isCoherent`: the invariant, over every history;
* `Completes.line_eq`: the line once a load is over;
* `IsNew.connected_iff`: when it is the one that the settings want.
-/

namespace Deskhand

namespace Scheduler

variable {s : Scheduler} {e : Event} {n : Nat}

/-! ## A load that has begun -/

namespace Core

variable {c d : Core}

/-- A call that loads, or none any more. -/
def IsLoad (n : Nat) (c : Core) : Prop :=
  n < c.numbered ∧ ∀ call ∈ c.calls, call.number = n → call.kind = .load

/-- A call that loads and is about what it has the lock for, or none any more. -/
def HasBegun (n : Nat) (c : Core) : Prop :=
  n < c.numbered ∧ ∀ call ∈ c.calls, call.number = n → call.kind = .load ∧ call.stage.isInside = true

theorem Sound.isLoad (hs : c.Sound) {stage : Stage} (hcall : ⟨n, .load, stage⟩ ∈ c.calls) : c.IsLoad n :=
  ⟨hs.calls_lt _ hcall, fun call hmem hn => by rw [hs.number_inj hmem hcall hn]⟩

theorem HasBegun.setStage (h : c.HasBegun n) {m : Nat} {stage : Stage} (hin : m = n → stage.isInside = true) :
    (c.setStage m stage).HasBegun n := by
  refine ⟨h.1, fun call hcall hn => ?_⟩
  rcases Sound.mem_setStage hcall with ⟨hold, -⟩ | ⟨hm, hstage, old, hold, holdn, hkind⟩
  · exact h.2 call hold hn
  · rw [hstage, ← hkind]
    exact ⟨(h.2 old hold (holdn.trans (hm.symm.trans hn))).1, hin (hm.symm.trans hn)⟩

theorem HasBegun.filter (h : c.HasBegun n) (stays : Call → Bool) :
    HasBegun n { c with calls := c.calls.filter stays } :=
  ⟨h.1, fun call hcall => h.2 call (List.mem_of_mem_filter hcall)⟩

theorem IsLoad.setStage (h : c.IsLoad n) {stage : Stage} (hin : stage.isInside = true) :
    (c.setStage n stage).HasBegun n := by
  refine ⟨h.1, fun call hcall hn => ?_⟩
  rcases Sound.mem_setStage hcall with ⟨-, hne⟩ | ⟨-, hstage, old, hold, holdn, hkind⟩
  · exact absurd hn hne
  · rw [hstage, ← hkind]
    exact ⟨h.2 old hold holdn, hin⟩

theorem IsLoad.endCall (h : c.IsLoad n) : (c.endCall n).HasBegun n :=
  ⟨h.1, fun call hcall hn => absurd hn (by simpa using (List.mem_filter.mp hcall).2)⟩

/-- A load that has begun goes on, whatever moves there are, until it is over. -/
theorem HasBegun.move (h : c.HasBegun n) (hmove : Move e c d) : d.HasBegun n := by
  have hout : ∀ {m : Nat} {kind : CallKind} {stage : Stage}, ⟨m, kind, stage⟩ ∈ c.calls →
      kind = .stop ∨ stage.isInside = false → m ≠ n := by
    rintro m kind stage hcall hother rfl
    obtain ⟨hkind, hin⟩ := h.2 _ hcall rfl
    rcases hother with hstop | hnot
    · cases hkind.symm.trans hstop
    · cases hin.symm.trans hnot
  cases hmove with
  | spawn _ => exact ⟨Nat.lt_succ_of_lt h.1, h.2⟩
  | ask _ =>
    refine ⟨Nat.lt_succ_of_lt h.1, fun call hcall hn => ?_⟩
    rcases List.mem_append.mp hcall with hcall | hcall
    · exact h.2 call hcall hn
    · obtain rfl := List.mem_singleton.mp hcall
      exact absurd hn (Nat.ne_of_gt h.1)
  | close _ hcall => exact h.setStage fun heq => absurd heq (hout hcall (.inl rfl))
  | queue hcall hstage =>
    refine h.setStage (c := c) fun heq => absurd heq (hout hcall (.inr ?_))
    rcases hstage with rfl | ⟨inTime, rfl⟩ <;> rfl
  | disconnect _ _ => exact h.setStage fun _ => rfl
  | clear _ _ => exact h.setStage (c := c) fun _ => rfl
  | settle _ _ => exact h.setStage fun _ => rfl
  | leave hcall _ => exact h.setStage (c := c.release) fun heq => absurd heq (hout hcall (.inl rfl))
  | endCalls _ => exact h.filter _
  | fail _ _ => exact h.filter _
  | load _ _ _ _ => exact ⟨Nat.lt_add_right _ h.1, (h.filter _).2⟩
  | loadNothing _ _ => exact h.filter _
  | _ => exact h

theorem HasBegun.moves (h : c.HasBegun n) (hmoves : Moves e c d) : d.HasBegun n := by
  induction hmoves with
  | refl => exact h
  | tail _ hmove ih => exact ih.move hmove

end Core

theorem hasBegun_leaveClearing (h : s.core.IsLoad n) : (s.leaveClearing n .load).core.HasBegun n := by
  rw [core_leaveClearing]
  exact h.setStage rfl

theorem hasBegun_beginClearing (h : s.core.IsLoad n) : (s.beginClearing n .load).core.HasBegun n := by
  have hclear : s.clear.core.IsLoad n := by rwa [core_clear]
  rcases beginClearing_cases s n .load with hbegin | hbegin <;> rw [hbegin]
  · exact hasBegun_leaveClearing hclear
  · exact hclear.setStage rfl

theorem hasBegun_finishSettings (h : s.core.IsLoad n) (settings : Settings) :
    (s.finishSettings n settings).core.HasBegun n := by
  rw [← core_followCode s settings] at h
  rcases finishSettings_cases s n settings with hfinish | ⟨_, hfinish⟩ <;> rw [hfinish]
  · exact hasBegun_beginClearing h
  · rw [core_release]
    exact h.endCall

theorem hasBegun_reconnect (h : s.core.IsLoad n) (settings : Settings) (b : ChatBot) :
    (s.reconnect n settings b).core.HasBegun n := by
  refine hasBegun_finishSettings ?_ settings
  rwa [core_connect]

theorem hasBegun_followToken (h : s.core.IsLoad n) (settings : Settings) (b : ChatBot) :
    (s.followToken n settings b).core.HasBegun n := by
  rw [followToken]
  split
  · refine hasBegun_finishSettings ?_ settings
    rwa [core_bindChat]
  · dsimp only
    split
    · refine hasBegun_finishSettings ?_ settings
      rwa [core_connect]
    · split
      · exact h.setStage rfl
      · exact hasBegun_reconnect (s := { s with token := settings.wantedToken, pairingCode := "" }) h settings _

theorem hasBegun_followSettings (h : s.core.IsLoad n) : (s.followSettings n).core.HasBegun n := by
  rw [followSettings]
  split
  · exact hasBegun_beginClearing (s := s.report .error _) h
  · next settings _ =>
    dsimp only
    split
    · exact hasBegun_followToken (s := { s with around := { s.around with settings := some settings } }) h
        settings _
    · exact hasBegun_beginClearing (s := { s with around := { s.around with settings := some settings } }) h

/-! ## The turn of a load -/

/-- A load takes its turn at an event: it is asked for while the lock is free, or it has waited for the lock. -/
inductive TakesTurn (s : Scheduler) : Event → Nat → Prop
  | start : s.isRunning = false → s.lock = [] → TakesTurn s .start s.numbered
  | reload : s.lock = [] → TakesTurn s .reload s.numbered
  | wakes {n : Nat} : ⟨n, .load, .queued⟩ ∈ s.calls → s.lock.head? = some n → TakesTurn s (.alarm (.call n)) n

/-- In the course of an event a load reads the settings in a state. -/
structure ReadsIn (s u : Scheduler) (e : Event) (n : Nat) : Prop where
  link : u.link = s.link
  network : u.around.network = s.around.network
  outage : u.outage = s.outage
  store : u.store = s.store
  isRunning : u.isRunning = true ↔ e = .start ∨ s.isRunning = true
  sound : u.core.Sound
  call : ⟨n, .load, .queued⟩ ∈ u.calls
  follows : (s.after e).link = (u.followSettings n).link
  moves : Moves e (u.followSettings n).core (s.after e).core

/-- No call waits for the bot while a load takes its turn. -/
theorem TakesTurn.not_waiting (h : s.TakesTurn e n) (hs : s.core.Sound) (m : Nat) : m ∉ s.link.waiting := by
  rintro ⟨call, hcall, rfl, hstage⟩
  have hhead : s.lock.head? = some call.number := hs.inside call hcall (Stage.isInside_of_isHangingUp hstage)
  cases h with
  | start _ hfree => simp [hfree] at hhead
  | reload hfree => simp [hfree] at hhead
  | wakes hqueued hturn =>
    have hn : call.number = n := Option.some.inj (hhead.symm.trans hturn)
    rw [hs.number_inj hcall hqueued hn] at hstage
    cases hstage

theorem reload_of_free (h : s.lock = []) : s.reload.2 = s.withLoad.followSettings s.numbered := by
  simp only [reload, enqueue, withLoad]
  rw [if_pos (show (s.addCall .load).2.lock.isEmpty = true by simp [addCall, draw, h])]
  rfl

theorem link_withLoad (hs : s.core.Sound) : s.withLoad.link = s.link := by
  have hadded := link_addCall s .load
  rw [withLoad, link_setStage _ _ rfl, ← Link.without_of_not_mem (numbered_not_mem_waiting hs), ← hadded]
  rfl

/-- A load that is asked for while the lock is free reads the settings at once. -/
theorem readsIn_withLoad {v : Scheduler} (hs : s.core.Sound) (hcore : v.core = s.core) (hlink : v.link = s.link)
    (hnetwork : v.around.network = s.around.network) (houtage : v.outage = s.outage)
    (hrunning : v.isRunning = true ↔ e = .start ∨ s.isRunning = true) (hfree : s.lock = [])
    (he : e.asks = true) (hafter : s.after e = v.reload.2) : s.ReadsIn v.withLoad e s.numbered := by
  have hnumbered : v.numbered = s.numbered := congrArg Core.numbered hcore
  have hlock : v.lock = [] := (congrArg Core.lock hcore).trans hfree
  have hreads := reload_of_free hlock
  rw [hnumbered] at hreads
  have hv : v.core.Sound := hcore ▸ hs
  exact {
    link := (link_withLoad hv).trans hlink
    network := hnetwork
    outage := houtage
    store := congrArg Core.store hcore
    isRunning := hrunning
    sound := hv.moves (moves_withLoad he)
    call := hnumbered ▸ Core.mem_setStage_self (mem_addCall v .load)
    follows := by rw [hafter, hreads]
    moves := by rw [hafter, hreads] }

/-- A scheduler that runs, before it loads. -/
def opened (s : Scheduler) : Scheduler :=
  ({ s with isRunning := true }.subscribe).startHook

theorem start_of_idle (h : s.isRunning = false) : s.start.2 = s.opened.reload.2 := by
  rw [start, h]
  rfl

theorem core_opened (s : Scheduler) : s.opened.core = s.core :=
  (core_startHook _).trans (core_subscribe _)

theorem link_opened (s : Scheduler) : s.opened.link = s.link :=
  (link_congr (frame_startHook _)).trans (link_subscribe _)

theorem opened_frame (s : Scheduler) :
    s.opened.around.network = s.around.network ∧ s.opened.outage = s.outage ∧ s.opened.isRunning = true := by
  rw [opened, startHook, subscribe]
  repeat' split
  all_goals exact ⟨rfl, rfl, rfl⟩

theorem wakeCall_of_queued (hs : s.core.Sound) (hqueued : ⟨n, .load, .queued⟩ ∈ s.calls)
    (hhead : s.lock.head? = some n) : s.wakeCall n = s.followSettings n := by
  have hfind : s.calls.find? (·.number == n) = some ⟨n, .load, .queued⟩ := find?_number hs.callNumbers hqueued
  rw [wakeCall, hfind]
  simp [hhead, begin]

/-- A load that has waited for the lock reads the settings as they are when it goes on. -/
theorem readsIn_self (hs : s.core.Sound) (hqueued : ⟨n, .load, .queued⟩ ∈ s.calls) (hhead : s.lock.head? = some n) :
    s.ReadsIn s (.alarm (.call n)) n := by
  have hwakes := wakeCall_of_queued hs hqueued hhead
  have hfollow : Moves (.alarm (.call n)) (s.followSettings n).core (s.after (.alarm (.call n))).core := by
    rw [after, ring, handle, hwakes]
    exact (moves_followClearing _).trans (moves_endDrained _)
  have hsound : (s.followSettings n).core.Sound :=
    hs.moves (e := .alarm (.call n)) (moves_followSettings hqueued hhead)
  refine {
    link := rfl, network := rfl, outage := rfl, store := rfl, isRunning := by simp, sound := hs, call := hqueued
    follows := ?_, moves := hfollow }
  rw [after, ring, handle, hwakes, link_endDrained, link_followClearing _ hsound.callNumbers]

theorem TakesTurn.reads (h : s.TakesTurn e n) (hs : s.core.Sound) : ∃ u, s.ReadsIn u e n := by
  cases h with
  | start hrunning hfree =>
    obtain ⟨hnetwork, houtage, hnow⟩ := s.opened_frame
    exact ⟨_, readsIn_withLoad hs s.core_opened s.link_opened hnetwork houtage (by simp [hnow]) hfree rfl
      (start_of_idle hrunning)⟩
  | reload hfree => exact ⟨_, readsIn_withLoad hs rfl rfl rfl rfl (by simp) hfree rfl rfl⟩
  | wakes hqueued hhead => exact ⟨s, readsIn_self hs hqueued hhead⟩

/-- A load that takes its turn has begun, or is over at once. -/
theorem TakesTurn.hasBegun (h : s.TakesTurn e n) (hs : s.core.Sound) : (s.after e).core.HasBegun n := by
  obtain ⟨u, hu⟩ := h.reads hs
  exact (hasBegun_followSettings (hu.sound.isLoad hu.call)).moves hu.moves

/-- A load that takes its turn while the scheduler runs heeds the settings, if it can read them and there is a bot. -/
theorem TakesTurn.heeds (h : s.TakesTurn e n) (hs : s.core.Sound) (hrunning : e = .start ∨ s.isRunning = true)
    {settings : Settings} (hread : s.ask .settings (.ok s.store.settings) = .ok settings) {line : BotLine}
    (hline : s.link.line = some line) :
    s.link.Heeds s.around.network settings.wantedToken n (s.after e).link := by
  obtain ⟨u, hu⟩ := h.reads hs
  rw [← hu.link] at hline
  obtain ⟨b, hb, -⟩ := Option.map_eq_some_iff.mp hline
  have hread' : u.ask .settings (.ok u.store.settings) = .ok settings := by
    rw [ask, hu.outage, hu.store]
    exact hread
  have hheeds := heeds_followSettings hread' (hu.isRunning.mpr hrunning) hb (List.mem_map_of_mem hu.call)
  rwa [hu.link, hu.network, ← hu.follows] at hheeds

/-! ## What events make of the link -/

/-- What an event makes of the link of a scheduler. -/
inductive Link.Step (s : Scheduler) (e : Event) : Link → Prop
  | keeps : Step s e s.link
  | hangsUp : e = .stop → Step s e (s.link.withLine (s.link.line.map BotLine.hungUp))
  /-- A load takes its turn and heeds the settings. -/
  | heeds {n : Nat} {wanted : String} {l : Link} :
      s.TakesTurn e n → s.link.Heeds s.around.network wanted n l → Step s e l
  /-- A load that waited for the bot to stop connects it anew. -/
  | redials {n : Nat} : e = .alarm (.call n) → n ∈ s.link.waiting →
      Step s e ((s.link.withLine (s.link.line.map fun line =>
        line.dropped.dialled s.around.network s.token)).without n)

theorem TakesTurn.step (h : s.TakesTurn e n) (hs : s.core.Sound) : Link.Step s e (s.after e).link := by
  obtain ⟨u, hu⟩ := h.reads hs
  rw [hu.follows]
  rcases link_followSettings (List.mem_map_of_mem hu.call) with hkeeps | ⟨wanted, hheeds⟩
  · rw [hkeeps, hu.link, Link.without_of_not_mem (h.not_waiting hs n)]
    exact .keeps
  · rw [hu.link, hu.network] at hheeds
    exact .heeds h hheeds

theorem link_ring (hs : s.core.Sound) (a : Alarm) : (s.ring a).link = (s.handle a).link := by
  rw [ring, link_endDrained, link_followClearing _ (hs.moves (moves_handle hs a)).callNumbers]

/-- Whatever else changes in the surroundings, it does not change the line of the bot. -/
def Event.KeepsLine (s : Scheduler) (e : Event) : Prop :=
  ∀ scene, e = .scene scene → scene.around.line? = s.around.line?

/-- A load that is asked for while the lock is not free changes nothing yet. -/
theorem link_reload_of_busy (hs : s.core.Sound) (hbusy : s.lock ≠ []) : s.reload.2.link = s.link := by
  have hbusy := link_enqueue_of_busy (s.addCall .load).2 (s.addCall .load).1 hbusy
  rw [link_addCall] at hbusy
  exact hbusy.trans (Link.without_of_not_mem (numbered_not_mem_waiting hs))

/-- Every event makes one step of the link. -/
theorem link_after (hs : s.core.Sound) (hkeeps : e.KeepsLine s) : Link.Step s e (s.after e).link := by
  have hkept : ∀ {l : Link}, l = s.link → Link.Step s e l := fun h => h ▸ .keeps
  cases e with
  | start =>
    cases hrunning : s.isRunning with
    | true => exact hkept (by rw [after, start, if_pos hrunning])
    | false =>
      by_cases hfree : s.lock = []
      · exact (TakesTurn.start hrunning hfree).step hs
      · have hbusy : s.opened.lock ≠ [] := fun h => hfree ((congrArg Core.lock s.core_opened).symm.trans h)
        have hsame := link_reload_of_busy (s.core_opened ▸ hs) hbusy
        rw [after, start_of_idle hrunning]
        exact hkept (hsame.trans s.link_opened)
  | reload =>
    by_cases hfree : s.lock = []
    · exact (TakesTurn.reload hfree).step hs
    · exact hkept (link_reload_of_busy hs hfree)
  | stop =>
    rw [after, link_stop s hs]
    split
    · exact .hangsUp rfl
    · exact .keeps
  | alarm a =>
    rw [after, link_ring hs]
    cases a with
    | call n =>
      rcases link_wakeCall s hs n with hsame | ⟨hqueued, hhead⟩ | ⟨hwaits, hredials⟩
      · exact hkept hsame
      · have hstep := (TakesTurn.wakes hqueued hhead).step hs
        rwa [after, link_ring hs] at hstep
      · rw [handle, hredials]
        exact .redials rfl hwaits
    | loop n => exact hkept (link_congr (frame_wakeLoop s n))
    | run n => exact hkept (link_wakeRun s n)
    | message connection text chat => exact hkept (link_onFetched s connection text chat)
    | inspection => exact .keeps
    | shutdown => exact .keeps
    | signal => exact .keeps
  | message text chat => exact hkept (link_onMessage s text chat)
  | paired chat => exact hkept (link_onPaired s chat)
  | store kept => exact .keeps
  | scene scene => exact hkept (link_around (s.inScene scene) (hkeeps scene rfl).symm).symm
  | run _ | hotkey _ _ | press _ _ | release _ | command _ | report _ _ =>
    exact hkept (link_congr (frame_after s trivial))

/-! ## What holds of the link at any time -/

/-- A line fits what a scheduler knows: a bot is configured iff it has a connection, which it needs to poll. The
connection is for the token that is remembered, but for a bot that is about to stop. -/
structure Link.Fits (l : Link) (line : BotLine) : Prop where
  configured : line.isConfigured = line.token.isSome
  polls : line.isPolling = true → line.isConfigured = true
  token : (∀ n, n ∉ l.waiting) → ∀ token, line.token = some token → token = Text.trim l.token
  stops : ∀ n ∈ l.waiting, line.isPolling = false

/-- The line of the bot, if there is one, fits. -/
def Link.IsCoherent (l : Link) : Prop :=
  ∀ line, l.line = some line → l.Fits line

namespace Link

variable {l : Link} {line : BotLine}

theorem Fits.off_of_unconfigured (h : l.Fits line) (hbare : line.isConfigured = false) : line = .off := by
  have hnone : line.token = none := by simpa [h.configured] using hbare
  have hpolls : line.isPolling = false := by
    by_contra hpolls
    rw [h.polls (by simpa using hpolls)] at hbare
    cases hbare
  rcases line with ⟨configured, token, polls⟩
  obtain rfl : configured = false := hbare
  obtain rfl : token = none := hnone
  obtain rfl : polls = false := hpolls
  rfl

/-- A bot that polls does so for the token that is remembered, unless it is about to stop. -/
theorem Fits.on_of_polls (h : l.Fits line) (hpolls : line.isPolling = true) (hnone : ∀ n, n ∉ l.waiting) :
    line = .on (Text.trim l.token) := by
  have hconfigured := h.polls hpolls
  obtain ⟨token, htoken⟩ := Option.isSome_iff_exists.mp (h.configured.symm.trans hconfigured)
  rcases line with ⟨configured, given, polls⟩
  obtain rfl : configured = true := hconfigured
  obtain rfl : polls = true := hpolls
  obtain rfl : given = some token := htoken
  rw [h.token hnone token rfl]
  rfl

/-- A line that fits is replaced as one is that was never connected. -/
theorem Fits.renewed_eq (h : l.Fits line) (network : ChatNetwork) (token : String) :
    line.renewed network token = BotLine.off.dialled network token := by
  rw [BotLine.renewed]
  split
  · next hconfigured =>
    have hsome : line.token.isSome = true := h.configured ▸ hconfigured
    rw [BotLine.hungUp, if_pos hsome]
    rfl
  · next hbare => rw [h.off_of_unconfigured (by simpa using hbare)]

/-- A line that is dialled for the token that is remembered fits. -/
theorem fits_dialled (network : ChatNetwork) (h : ∀ n, n ∉ l.waiting) :
    l.Fits (BotLine.off.dialled network l.token) := by
  rw [BotLine.dialled]
  split
  · exact ⟨rfl, by simp [BotLine.off], by simp [BotLine.off], by simp [BotLine.off]⟩
  · split
    · exact ⟨rfl, by simp [BotLine.off, BotLine.dropped], by simp [BotLine.dropped], by simp [BotLine.off, BotLine.dropped]⟩
    · exact ⟨rfl, fun _ => rfl, by simp, fun n hn => absurd hn (h n)⟩

theorem Fits.hungUp (h : l.Fits line) : l.Fits line.hungUp := by
  rw [BotLine.hungUp]
  split
  · exact ⟨h.configured, by simp, h.token, by simp⟩
  · exact h

end Link

/-- Every step keeps the link coherent. -/
theorem Link.Step.isCoherent (hs : s.core.Sound) (h : s.link.IsCoherent) {l : Link} (hstep : Link.Step s e l) :
    l.IsCoherent := by
  cases hstep with
  | keeps => exact h
  | hangsUp _ =>
    intro line hline
    obtain ⟨old, hold, rfl⟩ := Option.map_eq_some_iff.mp hline
    exact ⟨(h old hold).hungUp.configured, (h old hold).hungUp.polls, (h old hold).hungUp.token,
      (h old hold).hungUp.stops⟩
  | @heeds n _ _ hturn hheeds =>
    have hnone := hturn.not_waiting hs
    cases hheeds with
    | keeps _ => rwa [Link.without_of_not_mem (hnone n)]
    | renews _ hold =>
      rintro line hline
      obtain rfl := Option.some.inj hline
      rw [(h _ hold).renewed_eq]
      exact Link.fits_dialled _ fun m hm => hnone m hm.1
    | @waits old _ hold hconfigured =>
      rintro line hline
      obtain rfl := Option.some.inj hline
      have hsome : old.token.isSome = true := (h old hold).configured ▸ hconfigured
      rw [BotLine.hungUp, if_pos hsome]
      exact ⟨(h old hold).configured, by simp, fun hall => absurd (Set.mem_insert n _) (hall n), by simp⟩
  | @redials n _ hwaits =>
    intro line hline
    obtain ⟨old, hold, rfl⟩ := Option.map_eq_some_iff.mp hline
    have hoff : old.dropped = .off := by
      rw [BotLine.dropped, BotLine.off, (h old hold).stops n hwaits]
    rw [hoff]
    exact Link.fits_dialled (l := (s.link.withLine _).without n) _ fun m hm => hm.2 (eq_of_waiting hs hm.1 hwaits)

/-- Whatever else changes in the surroundings in a history, it does not change the line of the bot. -/
def KeepsLine : Scheduler → List Event → Prop
  | _, [] => True
  | s, e :: rest => e.KeepsLine s ∧ KeepsLine (s.after e) rest

theorem KeepsLine.append {es fs : List Event} (h : KeepsLine s (es ++ fs)) :
    KeepsLine s es ∧ KeepsLine (s.afterAll es) fs := by
  induction es generalizing s with
  | nil => exact ⟨trivial, h⟩
  | cons e rest ih =>
    obtain ⟨hrest, hlater⟩ := ih h.2
    exact ⟨⟨h.1, hrest⟩, hlater⟩

/-- What holds at the start of a history and is kept by its events holds at its end. -/
theorem KeepsLine.induction {P : Scheduler → Prop} {es : List Event} (hkeeps : KeepsLine s es) (hs : s.core.Sound)
    (hes : ∀ e ∈ es, e.Fits) (h : P s) (hstep : ∀ u e, u.core.Sound → e.KeepsLine u → P u → P (u.after e)) :
    P (s.afterAll es) := by
  induction es generalizing s with
  | nil => exact h
  | cons e rest ih =>
    exact ih hkeeps.2 (sound_after hs (hes e List.mem_cons_self)) (fun e' he' => hes e' (List.mem_cons_of_mem _ he'))
      (hstep s e hs hkeeps.1 h)

/-- The link stays coherent in a history. -/
theorem isCoherent_afterAll {es : List Event} (hs : s.core.Sound) (h : s.link.IsCoherent)
    (hes : ∀ e ∈ es, e.Fits) (hkeeps : KeepsLine s es) : (s.afterAll es).link.IsCoherent :=
  hkeeps.induction (P := fun u => u.link.IsCoherent) hs hes h fun _ _ hu hkept hcoherent =>
    (link_after hu hkept).isCoherent hu hcoherent

/-- The link of a new scheduler is coherent while its bot was not connected. -/
theorem IsNew.isCoherent {new : Scheduler} (hnew : IsNew new)
    (hoff : ∀ b, new.around.bot? = some b → b.line = .off) : new.link.IsCoherent := by
  intro line hline
  obtain ⟨b, hb, rfl⟩ := Option.map_eq_some_iff.mp hline
  have hcalls : new.calls = [] := congrArg Core.calls hnew.core
  rw [hoff b hb]
  refine ⟨rfl, by simp [BotLine.off], by simp [BotLine.off], fun n hn => ?_⟩
  obtain ⟨call, hcall, -⟩ := hn
  rw [hcalls] at hcall
  cases hcall

/-! ## A load that is over -/

/-- Nothing comes in the way of a load in a history: it is not over before the history is, the scheduler is not asked
to stop, and the network serves. -/
def Undisturbed (n : Nat) : Scheduler → List Event → Prop
  | _, [] => True
  | s, e :: rest =>
    (∃ call ∈ s.calls, call.number = n) ∧ e ≠ .stop ∧ s.around.network.Serves ∧ Undisturbed n (s.after e) rest

/-- A load takes its turn at an event, while the scheduler runs and the network serves, and is over at the end of what
comes later, with nothing in its way. -/
structure Completes (s : Scheduler) (e : Event) (n : Nat) (later : List Event) : Prop where
  turn : s.TakesTurn e n
  running : e = .start ∨ s.isRunning = true
  serves : s.around.network.Serves
  undisturbed : Undisturbed n (s.after e) later
  ended : ∀ call ∈ ((s.after e).afterAll later).calls, call.number ≠ n

/-- While a load has begun that is not over, no other one takes its turn. -/
theorem TakesTurn.not_begun {m : Nat} (h : s.TakesTurn e m) (hs : s.core.Sound) (hbegun : s.core.HasBegun n)
    (hcall : ∃ call ∈ s.calls, call.number = n) : False := by
  obtain ⟨call, hcall, hn⟩ := hcall
  have hin := (hbegun.2 call hcall hn).2
  have hhead : s.lock.head? = some call.number := hs.inside call hcall hin
  cases h with
  | start _ hfree => simp [hfree] at hhead
  | reload hfree => simp [hfree] at hhead
  | wakes hqueued hturn =>
    rw [hs.number_inj hcall hqueued (Option.some.inj (hhead.symm.trans hturn))] at hin
    cases hin

/-- A load has begun for a token, and leaves the bot with a line, after the bot has stopped if the load waits for
that. -/
structure IsBringing (s : Scheduler) (n : Nat) (wanted : String) (line : BotLine) : Prop where
  hasBegun : s.core.HasBegun n
  token : s.token = wanted
  waits : n ∈ s.link.waiting → s.link.line.isSome = true ∧ line = .on (Text.trim wanted)
  done : n ∉ s.link.waiting → s.link.line = some line

/-- What a load brings about is not changed by what comes before it is over. -/
theorem IsBringing.after {wanted : String} {line : BotLine} (h : s.IsBringing n wanted line) (hs : s.core.Sound)
    (hkeeps : e.KeepsLine s) (hwanted : Text.isBlankText wanted = false)
    (hcall : ∃ call ∈ s.calls, call.number = n) (hstop : e ≠ .stop) (hserves : s.around.network.Serves) :
    (s.after e).IsBringing n wanted line := by
  have hbegun : (s.after e).core.HasBegun n :=
    after_induction hs h.hasBegun (fun _ _ => h.hasBegun) fun _ _ _ hmove hc => hc.move hmove
  have hstep := link_after hs hkeeps
  generalize hl : (s.after e).link = l at hstep
  have htoken : (s.after e).token = l.token := congrArg Link.token hl
  cases hstep with
  | keeps => exact ⟨hbegun, htoken.trans h.token, hl ▸ h.waits, hl ▸ h.done⟩
  | hangsUp heq => exact absurd heq hstop
  | heeds hturn _ => exact (hturn.not_begun hs h.hasBegun hcall).elim
  | @redials m heq hwaits =>
    -- the load that waits has the lock, as the one has that has begun
    obtain ⟨call, hmem, rfl⟩ := hcall
    obtain ⟨other, hother, rfl, hstage⟩ := hwaits
    obtain rfl : other = call :=
      hs.eq_of_inside hother hmem (Stage.isInside_of_isHangingUp hstage) (h.hasBegun.2 call hmem rfl).2
    obtain ⟨hsome, hline⟩ := h.waits ⟨other, hother, rfl, hstage⟩
    obtain ⟨old, hold⟩ := Option.isSome_iff_exists.mp hsome
    refine ⟨hbegun, htoken.trans h.token, fun hwaits => ?_, fun _ => ?_⟩
    · rw [hl] at hwaits
      exact absurd rfl hwaits.2
    · rw [hl, hline, ← BotLine.dialled_of_serves hserves hwanted old.dropped, ← h.token]
      exact congrArg (Option.map _) hold

theorem IsBringing.afterAll {wanted : String} {line : BotLine} {later : List Event}
    (h : s.IsBringing n wanted line) (hs : s.core.Sound) (hwanted : Text.isBlankText wanted = false)
    (hfits : ∀ e ∈ later, e.Fits) (hkeeps : KeepsLine s later) (hcalm : Undisturbed n s later) :
    (s.afterAll later).IsBringing n wanted line := by
  induction later generalizing s with
  | nil => exact h
  | cons e rest ih =>
    obtain ⟨hcall, hstop, hserves, hcalm⟩ := hcalm
    exact ih (h.after hs hkeeps.1 hwanted hcall hstop hserves) (sound_after hs (hfits e List.mem_cons_self))
      (fun e' he' => hfits e' (List.mem_cons_of_mem _ he')) hkeeps.2 hcalm

/-- What a load brings about that takes its turn while the scheduler runs: another token brings a bot that polls for
it, and the token that is remembered the line that there is. -/
theorem TakesTurn.brings (h : s.TakesTurn e n) (hs : s.core.Sound) (hrunning : e = .start ∨ s.isRunning = true)
    (hserves : s.around.network.Serves) {settings : Settings}
    (hread : s.ask .settings (.ok s.store.settings) = .ok settings)
    (hwanted : Text.isBlankText settings.wantedToken = false) {line : BotLine} (hline : s.link.line = some line) :
    (s.after e).IsBringing n settings.wantedToken
      (if settings.wantedToken = s.link.token then line else .on (Text.trim settings.wantedToken)) := by
  have hnone := h.not_waiting hs
  have hbegun := h.hasBegun hs
  have hheeds := h.heeds hs hrunning hread hline
  generalize hl : (s.after e).link = l at hheeds
  have htoken : (s.after e).token = l.token := congrArg Link.token hl
  cases hheeds with
  | keeps hsame =>
    rw [if_pos hsame]
    rw [Link.without_of_not_mem (hnone n)] at hl
    exact ⟨hbegun, htoken.trans hsame.symm, fun hwaits => absurd (hl ▸ hwaits) (hnone n), fun _ => hl ▸ hline⟩
  | @renews old hother hold =>
    rw [if_neg hother, ← BotLine.renewed_of_serves hserves hwanted old]
    refine ⟨hbegun, htoken, fun hwaits => ?_, fun _ => by rw [hl]; rfl⟩
    rw [hl] at hwaits
    exact absurd rfl hwaits.2
  | waits hother _ _ =>
    rw [if_neg hother]
    refine ⟨hbegun, htoken, fun _ => ⟨by rw [hl]; rfl, rfl⟩, fun hdone => ?_⟩
    rw [hl] at hdone
    exact absurd (Set.mem_insert n _) hdone

/-- Once a load is over, the bot polls for the token that the settings want if that was not the one that was
remembered; otherwise its line is what it was. -/
theorem Completes.line_eq {later : List Event} (h : s.Completes e n later) (hs : s.core.Sound)
    (hfits : ∀ e' ∈ e :: later, e'.Fits) (hkeeps : KeepsLine s (e :: later)) {settings : Settings}
    (hread : s.ask .settings (.ok s.store.settings) = .ok settings)
    (hwanted : Text.isBlankText settings.wantedToken = false) {line : BotLine} (hline : s.link.line = some line) :
    (s.afterAll (e :: later)).link.line =
      some (if settings.wantedToken = s.link.token then line else .on (Text.trim settings.wantedToken)) := by
  have hbrings := h.turn.brings hs h.running h.serves hread hwanted hline
  have hend := hbrings.afterAll (sound_after hs (hfits e List.mem_cons_self)) hwanted
    (fun e' he' => hfits e' (List.mem_cons_of_mem _ he')) hkeeps.2 h.undisturbed
  refine hend.done ?_
  rintro ⟨call, hcall, hn, -⟩
  exact h.ended call hcall hn

/-- In every history of a new scheduler whose bot was not connected before, whatever the settings and the failures of
the network: when a load takes its turn while the scheduler runs, the chat is enabled in the settings, which can be
read, with a token that is not blank, and the network serves, then once that load is over the bot is configured with
that token and polls iff the token is not the one that is remembered or the bot polled already. -/
theorem IsNew.connected_iff {new : Scheduler} (hnew : IsNew new)
    (hoff : ∀ b, new.around.bot? = some b → b.line = .off) {before later : List Event} {e : Event} {n : Nat}
    (hfits : ∀ e' ∈ before ++ e :: later, e'.Fits) (hkeeps : KeepsLine new (before ++ e :: later))
    (hload : (new.afterAll before).Completes e n later) {settings : Settings}
    (hread : (new.afterAll before).ask .settings (.ok (new.afterAll before).store.settings) = .ok settings)
    (henabled : settings.chatEnabled = true) (htoken : Text.isBlankText settings.botToken = false) {b : ChatBot}
    (hb : (new.afterAll before).around.bot? = some b) :
    (new.afterAll (before ++ e :: later)).around.line? = some (.on (Text.trim settings.botToken)) ↔
      (new.afterAll before).token ≠ Text.trim settings.botToken ∨ b.isPolling = true := by
  have hs : (new.afterAll before).core.Sound :=
    (hnew.reachable.leads ⟨before, fun e' he' => hfits e' (List.mem_append_left _ he'), rfl⟩).sound
  obtain ⟨hbefore, hlater⟩ := hkeeps.append
  have hcoherent := isCoherent_afterAll hnew.sound (hnew.isCoherent hoff)
    (fun e' he' => hfits e' (List.mem_append_left _ he')) hbefore
  have hline := line_of_bot hb
  have hwants : settings.wantedToken = Text.trim settings.botToken := if_pos henabled
  have hwanted : Text.isBlankText settings.wantedToken = false := by rw [hwants, Text.isBlankText_trim, htoken]
  have hends := hload.line_eq hs (fun e' he' => hfits e' (List.mem_append_right _ he')) hlater hread hwanted hline
  rw [hwants, Text.trim_trim] at hends
  rw [afterAll_append, show ∀ u : Scheduler, u.around.line? = u.link.line from fun _ => rfl, hends,
    Option.some_inj]
  by_cases hsame : Text.trim settings.botToken = (new.afterAll before).token
  · rw [if_pos (show _ = (new.afterAll before).link.token from hsame)]
    refine ⟨fun hon => .inr (congrArg BotLine.isPolling hon), ?_⟩
    rintro (hother | hpolls)
    · exact absurd hsame.symm hother
    · have hpolled := (hcoherent b.line hline).on_of_polls hpolls (hload.turn.not_waiting hs)
      rw [hpolled, ← show Text.trim settings.botToken = (new.afterAll before).link.token from hsame, Text.trim_trim]
  · rw [if_neg (show ¬_ = (new.afterAll before).link.token from hsame)]
    exact ⟨fun _ => .inl (Ne.symm hsame), fun _ => rfl⟩

/-- A new scheduler with a bot and a token for it, over a network. -/
def withToken (network : ChatNetwork) : Scheduler :=
  { ofRows [] (some {}) with
    store := { saved := some { botToken := " 123:abc ", chatEnabled := true } }
    around := { (ofRows [] (some {})).around with network := network } }

theorem connected_withToken :
    (withToken {}).token ≠ "123:abc" ∧
      ((withToken {}).afterAll [.start, .alarm (.call 0)]).around.line? = some (.on "123:abc") := by
  have hnew : IsNew (withToken {}) := ⟨rfl, (isNew_ofRows (by simp) none).keyed, rfl, rfl, rfl⟩
  have hoff : ∀ b, (withToken {}).around.bot? = some b → b.line = .off := by
    rintro b hb
    obtain rfl := Option.some.inj hb
    rfl
  have hload : ((withToken {}).afterAll []).Completes .start 0 [.alarm (.call 0)] := {
    turn := .start rfl rfl
    running := .inl rfl
    serves := by decide
    undisturbed := ⟨by decide +kernel, by simp, by decide +kernel, trivial⟩
    ended := by decide +kernel }
  have htrim : Text.trim " 123:abc " = "123:abc" := by decide +kernel
  have hread : ((withToken {}).afterAll []).ask .settings (.ok ((withToken {}).afterAll []).store.settings) =
      .ok { botToken := " 123:abc ", chatEnabled := true } := rfl
  have hconnected := hnew.connected_iff hoff (by simp [Event.Fits]) (by simp [KeepsLine, Event.KeepsLine]) hload
    hread rfl (by decide +kernel) rfl
  rw [htrim] at hconnected
  exact ⟨by decide, hconnected.mpr (.inl (by decide))⟩

/-- A scheduler once the network serves. -/
def mended (s : Scheduler) : Scheduler :=
  { s with around := { s.around with network := {} } }

theorem line?_mended (s : Scheduler) : s.mended.around.line? = s.around.line? := rfl

/-- A bot that could not be polled is not polled after a reload either, over a network that serves. -/
theorem unpolled_after_reload :
    let new := withToken { failing := [.startPolling] }
    let before := [.start, .alarm (.call 0), .scene (new.afterAll [.start, .alarm (.call 0)]).mended]
    let s := new.afterAll before
    KeepsLine new (before ++ [.reload, .alarm (.call 1)]) ∧ s.Completes .reload 1 [.alarm (.call 1)] ∧
      s.ask .settings (.ok s.store.settings) = .ok { botToken := " 123:abc ", chatEnabled := true } ∧
      (s.afterAll [.reload, .alarm (.call 1)]).around.line? =
        some { isConfigured := true, token := some "123:abc", isPolling := false } := by
  intro new before s
  -- for any scheduler, so that nothing is evaluated here
  have hkeeps : ∀ u : Scheduler, KeepsLine u ([.start, .alarm (.call 0),
      .scene (u.afterAll [.start, .alarm (.call 0)]).mended] ++ [.reload, .alarm (.call 1)]) := by
    intro u
    simp [KeepsLine, Event.KeepsLine, line?_mended]
  have hn : s.numbered = 1 := by decide +kernel
  have hload : s.Completes .reload 1 [.alarm (.call 1)] := {
    turn := hn ▸ .reload (by decide +kernel)
    running := .inr (by decide +kernel)
    serves := by decide +kernel
    undisturbed := ⟨by decide +kernel, by simp, by decide +kernel, trivial⟩
    ended := by decide +kernel }
  exact ⟨hkeeps new, hload, eq_ok_of_toOption (by decide +kernel), by decide +kernel⟩

end Scheduler

end Deskhand
