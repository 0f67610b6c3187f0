import Deskhand.Proofs.Schedule.Tie

/-!
# How the bot follows the settings

A load that takes its turn while the scheduler runs reads the settings (`Reads`). Either the bot follows them at once,
or it has to stop first; until then the load carries them along (`Carries`), whatever happens to the store. Main
statements:

* `TakesTurn.idle_or_reads`, `Reads.cases`: what a load makes of the tie at its turn;
* `Reads.carries`, `Carries.afterAll`: a load goes by the settings that it read;
* `hears_after`: what the other events make of the tie.
-/

namespace Deskhand

namespace Scheduler

variable {s : Scheduler} {e : Event} {n : Nat} {settings : Settings}

/-! ## A load that goes by some settings -/

namespace Core

variable {c d : Core}

/-- A load has begun, or is over. If it waits for the bot to stop, it does so with some settings. -/
structure GoesBy (n : Nat) (settings : Settings) (c : Core) : Prop where
  hasBegun : c.HasBegun n
  stage : ∀ call ∈ c.calls, call.number = n → ∀ read, call.stage = .disconnecting read → read = settings

/-- Calls that are put at other stages, or dropped, do not matter. -/
theorem GoesBy.of_calls (h : c.GoesBy n settings) (hbegun : d.HasBegun n)
    (hcalls : ∀ call ∈ d.calls, call.number = n → call ∈ c.calls ∨ ∀ read, call.stage ≠ .disconnecting read) :
    d.GoesBy n settings := by
  refine ⟨hbegun, fun call hcall hn read hstage => ?_⟩
  rcases hcalls call hcall hn with hold | hother
  · exact h.stage call hold hn read hstage
  · exact absurd hstage (hother read)

/-- Neither does a call that is put at another stage. -/
theorem GoesBy.of_setStage (h : c.GoesBy n settings) (hbegun : d.HasBegun n) {m : Nat} {stage : Stage}
    (hcalls : d.calls = (c.setStage m stage).calls) (hother : m = n → ∀ read, stage ≠ .disconnecting read) :
    d.GoesBy n settings := by
  refine h.of_calls hbegun fun call hcall hn => ?_
  rw [hcalls] at hcall
  rcases Sound.mem_setStage hcall with ⟨hold, -⟩ | ⟨hm, hstage, -⟩
  · exact .inl hold
  · exact .inr (hstage ▸ hother (hm.symm.trans hn))

/-- A load that is put to wait for the bot goes by the settings that it gets. -/
theorem goesBy_of_hangingUp (hbegun : d.HasBegun n)
    (hcalls : d.calls = (c.setStage n (.disconnecting settings)).calls) : d.GoesBy n settings := by
  refine ⟨hbegun, fun call hcall hn read hstage => ?_⟩
  rw [hcalls] at hcall
  rcases Sound.mem_setStage hcall with ⟨-, hne⟩ | ⟨-, hthis, -⟩
  · exact absurd hn hne
  · exact Stage.disconnecting.inj (hstage.symm.trans hthis)

/-- A load keeps going by the settings that it has. -/
theorem GoesBy.move (h : c.GoesBy n settings) (hmove : Move e c d) : d.GoesBy n settings := by
  have hbegun := h.hasBegun.move hmove
  cases hmove with
  | ask _ =>
    refine h.of_calls hbegun fun call hcall _ => (List.mem_append.mp hcall).imp_right fun hnew => ?_
    obtain rfl := List.mem_singleton.mp hnew
    exact fun read => nofun
  | disconnect hcall _ =>
    -- another load than this one, which has begun already
    refine h.of_setStage hbegun rfl fun hm => ?_
    cases (h.hasBegun.2 ⟨_, .load, .queued⟩ hcall hm).2
  | close _ _ => exact h.of_setStage hbegun rfl fun _ read => nofun
  | queue _ _ => exact h.of_setStage hbegun rfl fun _ read => nofun
  | clear _ _ => exact h.of_setStage hbegun rfl fun _ read => nofun
  | settle _ _ => exact h.of_setStage hbegun rfl fun _ read => nofun
  | leave _ _ => exact h.of_setStage hbegun rfl fun _ read => nofun
  | endCalls _ => exact h.of_calls hbegun fun _ hcall _ => .inl (List.mem_of_mem_filter hcall)
  | fail _ _ => exact h.of_calls hbegun fun _ hcall _ => .inl (List.mem_of_mem_filter hcall)
  | load _ _ _ _ => exact h.of_calls hbegun fun _ hcall _ => .inl (List.mem_of_mem_filter hcall)
  | loadNothing _ _ => exact h.of_calls hbegun fun _ hcall _ => .inl (List.mem_of_mem_filter hcall)
  | _ => exact h.of_calls hbegun fun _ hcall _ => .inl hcall

theorem GoesBy.moves (h : c.GoesBy n settings) (hmoves : Moves e c d) : d.GoesBy n settings := by
  induction hmoves with
  | refl => exact h
  | tail _ hmove ih => exact ih.move hmove

end Core

/-! ## A load that reads the settings -/

/-- A load that takes its turn while the scheduler runs reads the settings. -/
structure Reads (s : Scheduler) (e : Event) (n : Nat) (settings : Settings) : Prop where
  turn : s.TakesTurn e n
  running : e = .start ∨ s.isRunning = true
  read : s.ask .settings (.ok s.store.settings) = .ok settings

theorem Reads.eq_settings (h : s.Reads e n settings) : settings = s.store.settings :=
  (Except.ok.inj (eq_of_ask h.read)).symm

/-- Until a load reads the settings nothing changes the tie, and nothing does once it has let the bot follow them. -/
theorem TakesTurn.readsTied (h : s.TakesTurn e n) (hs : s.core.Sound) :
    ∃ u, s.ReadsIn u e n ∧ u.tie = s.tie ∧ (s.after e).tie = (u.followSettings n).tie := by
  cases h with
  | start hrunning hfree =>
    obtain ⟨hnetwork, houtage, hnow⟩ := s.opened_frame
    refine ⟨_, readsIn_withLoad hs s.core_opened s.link_opened hnetwork houtage (by simp [hnow]) hfree rfl
      (start_of_idle hrunning), s.tie_opened, ?_⟩
    have hnumbered : s.opened.numbered = s.numbered := congrArg Core.numbered s.core_opened
    rw [after, start_of_idle hrunning, reload_of_free ((congrArg Core.lock s.core_opened).trans hfree), hnumbered]
  | reload hfree =>
    refine ⟨_, readsIn_withLoad hs rfl rfl rfl rfl (by simp) hfree rfl rfl, rfl, ?_⟩
    rw [after, reload_of_free hfree]
  | wakes hqueued hhead =>
    refine ⟨s, readsIn_self hs hqueued hhead, rfl, ?_⟩
    rw [after, ring, handle, wakeCall_of_queued hs hqueued hhead, tie_endDrained, tie_followClearing]

/-- A load that does not let the bot follow the settings leaves the link and the tie as they are. -/
theorem followSettings_idle (n : Nat)
    (h : ∀ settings, s.ask .settings (.ok s.store.settings) = .ok settings → s.isRunning = true →
      s.around.bot? = none) :
    (s.followSettings n).link = s.link.without n ∧ (s.followSettings n).tie = s.tie := by
  rw [followSettings]
  split
  · exact ⟨link_beginClearing _ n .load, tie_beginClearing _ n .load⟩
  · next settings hread =>
    dsimp only
    split
    · next b hb hrunning => cases (h settings hread hrunning).symm.trans hb
    · exact ⟨link_beginClearing _ n .load, tie_beginClearing _ n .load⟩

/-- A load that takes its turn leaves the link and the tie as they are, or it reads the settings and there is a bot
that follows them. -/
theorem TakesTurn.idle_or_reads (h : s.TakesTurn e n) (hs : s.core.Sound) :
    ((s.after e).link = s.link ∧ (s.after e).tie = s.tie) ∨
      ∃ settings line, s.Reads e n settings ∧ s.link.line = some line := by
  by_cases hreads : ∃ settings line, s.Reads e n settings ∧ s.link.line = some line
  · exact .inr hreads
  · obtain ⟨u, hu, htie, hafter⟩ := h.readsTied hs
    have hidle := followSettings_idle (s := u) n fun settings hread hrunning => by
      by_contra hbot
      obtain ⟨b, hb⟩ := Option.ne_none_iff_exists'.mp hbot
      refine hreads ⟨settings, b.line, ⟨h, hu.isRunning.mp hrunning, ?_⟩, hu.link ▸ line_of_bot hb⟩
      rwa [ask, hu.outage, hu.store] at hread
    refine .inl ⟨?_, ?_⟩
    · rw [hu.follows, hidle.1, hu.link, Link.without_of_not_mem (h.not_waiting hs n)]
    · rw [hafter, hidle.2, htie]

/-- What a load makes of the tie that reads the settings while there is a bot: it waits with them for the bot to stop,
or the bot has followed them. -/
theorem Reads.cases (h : s.Reads e n settings) (hs : s.core.Sound) {line : BotLine} (hline : s.link.line = some line) :
    (n ∈ (s.after e).link.waiting ∧ (s.after e).core.GoesBy n settings ∧
        settings.wantedToken ≠ s.token ∧ (s.after e).tie = ⟨"", s.tie.binding⟩) ∨
      n ∉ (s.after e).link.waiting ∧ s.tie.Heeds s.link n settings (s.after e).tie := by
  obtain ⟨u, hu, htie, hafter⟩ := h.turn.readsTied hs
  obtain ⟨b, hb, -⟩ := Option.map_eq_some_iff.mp (hu.link ▸ hline)
  have hread : u.ask .settings (.ok u.store.settings) = .ok settings := by
    rw [ask, hu.outage, hu.store]
    exact h.read
  have hfollows : u.followSettings n =
      { u with around := { u.around with settings := some settings } }.followToken n settings b := by
    rw [followSettings_of_ok hread, hb, hu.isRunning.mpr h.running]
  have hcases := followToken_cases (s := { u with around := { u.around with settings := some settings } }) hb n
    settings
  rw [← hfollows, ← hu.follows, ← hafter] at hcases
  rw [← htie, ← hu.link]
  rcases hcases with ⟨hother, htied, hcalls⟩ | hheeds
  · have htoken : u.token = s.token := congrArg Link.token hu.link
    have hgoes : (u.followSettings n).core.GoesBy n settings :=
      Core.goesBy_of_hangingUp (c := u.core) (hasBegun_followSettings (hu.sound.isLoad hu.call)) hcalls
    have hwaiting : (u.followSettings n).link.waiting = insert n u.link.waiting :=
      (congrArg waitingOf hcalls).trans (waitingOf_hangUp (List.mem_map_of_mem hu.call) settings)
    refine .inl ⟨?_, hgoes.moves hu.moves, fun hsame => hother (hsame.trans htoken.symm), htied⟩
    rw [hu.follows, hwaiting]
    exact Set.mem_insert n _
  · exact .inr hheeds

/-- What a load that reads settings makes of the link. -/
theorem Reads.link_cases (h : s.Reads e n settings) (hs : s.core.Sound) :
    ((s.after e).link = s.link ∧ s.link.line = none) ∨
      s.link.Heeds s.around.network settings.wantedToken n (s.after e).link := by
  cases hline : s.link.line with
  | none =>
    rcases h.turn.idle_or_reads hs with ⟨hsame, -⟩ | ⟨-, line, -, hsome⟩
    · exact .inl ⟨hsame, rfl⟩
    · cases hline.symm.trans hsome
  | some line => exact .inr (h.turn.heeds hs h.running h.read hline)

/-! ## What a load carries along -/

/-- A load has begun, or is over. If it waits for the bot to stop, it does so with some settings, for whose token it
connects the bot then. -/
structure Carries (s : Scheduler) (n : Nat) (settings : Settings) : Prop where
  goesBy : s.core.GoesBy n settings
  token : n ∈ s.link.waiting → s.token = settings.wantedToken

/-- A load that does not wait for the bot goes by any settings. -/
theorem goesBy_of_not_waiting (hbegun : s.core.HasBegun n) (hn : n ∉ s.link.waiting) (settings : Settings) :
    s.core.GoesBy n settings :=
  ⟨hbegun, fun call hcall hnumber _ hstage => absurd ⟨call, hcall, hnumber, by rw [hstage]; rfl⟩ hn⟩

/-- A load that has begun does not take its turn again. -/
theorem TakesTurn.not_hasBegun (h : s.TakesTurn e n) : ¬s.core.HasBegun n := by
  intro hbegun
  cases h with
  | start _ _ => exact Nat.lt_irrefl _ hbegun.1
  | reload _ => exact Nat.lt_irrefl _ hbegun.1
  | wakes hqueued _ => cases (hbegun.2 _ hqueued rfl).2

/-- A load that comes to wait for the bot does so at its turn. -/
theorem Link.Step.takesTurn {l : Link} (hstep : Link.Step s e l) (hn : n ∈ l.waiting) (hnew : n ∉ s.link.waiting) :
    s.TakesTurn e n := by
  cases hstep with
  | keeps => exact absurd hn hnew
  | hangsUp _ => exact absurd hn hnew
  | heeds hturn hheeds =>
    cases hheeds with
    | keeps _ => exact absurd hn.1 hnew
    | renews _ _ => exact absurd hn.1 hnew
    | waits _ _ _ =>
      rcases hn with rfl | hold
      · exact hturn
      · exact absurd hold hnew
  | redials _ _ => exact absurd hn.1 hnew

/-- A load that reads settings carries them along. -/
theorem Reads.carries (h : s.Reads e n settings) (hs : s.core.Sound) : (s.after e).Carries n settings := by
  have hnone := h.turn.not_waiting hs n
  by_cases hwaits : n ∈ (s.after e).link.waiting
  · rcases h.link_cases hs with ⟨hsame, -⟩ | hheeds
    · exact absurd (hsame ▸ hwaits) hnone
    · generalize hl : (s.after e).link = l at hheeds
      rw [hl] at hwaits
      cases hheeds with
      | keeps _ => exact absurd hwaits.1 hnone
      | renews _ _ => exact absurd hwaits.1 hnone
      | waits _ hline _ =>
        rcases h.cases hs hline with ⟨-, hgoes, -⟩ | ⟨hdone, -⟩
        · exact ⟨hgoes, fun _ => congrArg Link.token hl⟩
        · exact absurd hwaits (hl ▸ hdone)
  · exact ⟨goesBy_of_not_waiting (h.turn.hasBegun hs) hwaits settings, fun hn => absurd hn hwaits⟩

/-- A load keeps carrying what it carries. -/
theorem Carries.after (h : s.Carries n settings) (hs : s.core.Sound) (hkeeps : e.KeepsLine s) :
    (s.after e).Carries n settings := by
  have hgoes : (s.after e).core.GoesBy n settings :=
    after_induction hs h.goesBy (fun _ _ => ⟨h.goesBy.hasBegun, h.goesBy.stage⟩) fun _ _ _ hmove hc => hc.move hmove
  refine ⟨hgoes, fun hwaits => ?_⟩
  have hstep := link_after hs hkeeps
  generalize hl : (s.after e).link = l at hstep hwaits
  rw [show (s.after e).token = l.token from congrArg Link.token hl]
  by_cases hold : n ∈ s.link.waiting
  · cases hstep with
    | keeps => exact h.token hold
    | hangsUp _ => exact h.token hold
    | heeds hturn _ => exact absurd hold (hturn.not_waiting hs n)
    | redials _ _ => exact h.token hold
  · exact ((hstep.takesTurn hwaits hold).not_hasBegun h.goesBy.hasBegun).elim

theorem Carries.afterAll {later : List Event} (h : s.Carries n settings) (hs : s.core.Sound)
    (hfits : ∀ e ∈ later, e.Fits) (hkeeps : KeepsLine s later) : (s.afterAll later).Carries n settings :=
  hkeeps.induction (P := fun u => u.Carries n settings) hs hfits h fun _ _ hu hkept hcarries =>
    hcarries.after hu hkept

/-- A load that waits for the bot does so with the settings that it carries. -/
theorem Carries.exists_call (h : s.Carries n settings) (hn : n ∈ s.link.waiting) :
    ∃ call ∈ s.calls, call.number = n ∧ call.stage = .disconnecting settings := by
  obtain ⟨call, hcall, hnumber, hstage⟩ := hn
  cases hread : call.stage with
  | disconnecting read => exact ⟨call, hcall, hnumber, h.goesBy.stage call hcall hnumber read hread ▸ hread⟩
  | _ => rw [hread] at hstage; cases hstage

/-! ## Events that apply no settings -/

/-- An event at which no load begins, or goes on after the bot has stopped, changes the tie as a message may, unless
it changes what lies around. -/
theorem hears_after (hs : s.core.Sound) (hscene : ∀ scene, e ≠ .scene scene) (hturn : ∀ n, ¬s.TakesTurn e n)
    (hwaits : ∀ n, e = .alarm (.call n) → n ∉ s.link.waiting) : s.tie.Hears (s.after e).tie := by
  have hkept : ∀ {t : Tie}, t = s.tie → s.tie.Hears t := fun h => h ▸ .nothing
  cases e with
  | start =>
    cases hrunning : s.isRunning with
    | true => exact hkept (by rw [after, start, if_pos hrunning])
    | false =>
      have hbusy : s.opened.lock ≠ [] := fun hfree =>
        hturn _ (.start hrunning ((congrArg Core.lock s.core_opened).symm.trans hfree))
      rw [after, start_of_idle hrunning]
      exact hkept ((tie_reload_of_busy _ hbusy).trans s.tie_opened)
  | reload => exact hkept (tie_reload_of_busy s fun hfree => hturn _ (.reload hfree))
  | stop => exact hkept s.tie_stop
  | alarm a =>
    rw [after, ring, tie_endDrained, tie_followClearing]
    cases a with
    | call n =>
      rcases tie_wakeCall s hs (hwaits n rfl) with hsame | ⟨hqueued, hhead⟩
      · exact hkept hsame
      · exact (hturn n (.wakes hqueued hhead)).elim
    | loop n => exact hkept (tie_congr (frame_wakeLoop s n))
    | run n => exact hkept (tie_wakeRun s n)
    | message connection text chat => exact hears_onFetched s connection text chat
    | inspection => exact .nothing
    | shutdown => exact .nothing
    | signal => exact .nothing
  | message text chat => exact hears_onMessage s text chat
  | paired chat => exact hkept (tie_onPaired s chat)
  | store kept => exact .nothing
  | scene scene => exact absurd rfl (hscene scene)
  | run _ | hotkey _ _ | press _ _ | release _ | command _ | report _ _ =>
    exact hkept (tie_congr (frame_after s trivial))

/-- No event brings a bot where there is none. -/
theorem Link.Step.line_isSome {l : Link} (hstep : Link.Step s e l) (h : l.line.isSome = true) :
    s.link.line.isSome = true := by
  cases hstep with
  | keeps => exact h
  | hangsUp _ => rwa [Link.withLine, Option.isSome_map] at h
  | heeds _ hheeds =>
    cases hheeds with
    | keeps _ => exact h
    | renews _ hline => rw [hline]; rfl
    | waits _ hline _ => rw [hline]; rfl
  | redials _ _ => rwa [Link.without, Link.withLine, Option.isSome_map] at h

theorem exists_line_before (hs : s.core.Sound) (hkeeps : e.KeepsLine s) {line : BotLine}
    (hline : (s.after e).link.line = some line) : ∃ old, s.link.line = some old :=
  Option.isSome_iff_exists.mp ((link_after hs hkeeps).line_isSome (Option.isSome_of_eq_some hline))

end Scheduler

end Deskhand
