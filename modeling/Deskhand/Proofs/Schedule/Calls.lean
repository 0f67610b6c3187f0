import Deskhand.Proofs.Schedule.Moves

/-!
# What calls and events do to the core

A call to load or to stop goes from stage to stage, and each step of it is made of moves. So is every event but a
change of the store by someone else. Main statements:

* `moves_beginClearing`, `moves_followSettings`, `moves_finishLoading`: the steps of calls;
* `moves_wakeCall`: a call goes on when its alarm rings;
* `moves_after`: every event.
-/

namespace Deskhand

namespace Scheduler

variable {s : Scheduler} {e : Event}

/-! ## Stages of calls -/

theorem core_release (s : Scheduler) : s.release.core = s.core.release := by
  simp only [release]
  split <;> rfl

namespace Core

theorem mem_setStage_self {c : Core} {n : Nat} {kind : CallKind} {stage stage' : Stage}
    (h : ⟨n, kind, stage⟩ ∈ c.calls) : ⟨n, kind, stage'⟩ ∈ (c.setStage n stage').calls :=
  List.mem_map.mpr ⟨_, h, by simp⟩

theorem stage_of_mem_setStage {c : Core} {n : Nat} {stage : Stage} {call : Call}
    (h : call ∈ (c.setStage n stage).calls) (hn : call.number = n) : call.stage = stage := by
  obtain ⟨old, -, rfl⟩ := List.mem_map.mp h
  split at hn
  · simp [*]
  · next hne => exact absurd (beq_iff_eq.mpr hn) hne

theorem setStage_setStage (c : Core) (n : Nat) (stage stage' : Stage) :
    (c.setStage n stage).setStage n stage' = c.setStage n stage' := by
  simp only [setStage, List.map_map, Core.mk.injEq, true_and, and_true]
  refine List.map_congr_left fun call _ => ?_
  simp only [Function.comp_apply]
  split <;> simp [*]

theorem endCall_setStage (c : Core) (n : Nat) (stage : Stage) :
    (c.setStage n stage).endCall n = c.endCall n := by
  simp only [setStage, endCall, Core.mk.injEq, true_and, and_true]
  induction c.calls with
  | nil => rfl
  | cons call rest ih =>
    simp only [List.map_cons, List.filter_cons, ih]
    split <;> simp_all

end Core

/-! ## Clearing -/

theorem core_beginDraining (s : Scheduler) (n : Nat) :
    (s.beginDraining n).core =
      if s.core.runs.isEmpty then s.core.endCall n
      else s.core.setStage n (.draining (s.core.runs.map Run.number)) := by
  rw [beginDraining, apply_ite core]
  rfl

theorem core_leaveClearing (s : Scheduler) (n : Nat) (kind : CallKind) :
    (s.leaveClearing n kind).core =
      match kind with
      | .load => s.core.setStage n .settling
      | .stop =>
        if s.core.runs.isEmpty then s.core.release.endCall n
        else s.core.release.setStage n (.draining (s.core.runs.map Run.number)) := by
  cases kind with
  | load => rfl
  | stop => exact (core_beginDraining _ n).trans (by rw [core_release]; rfl)

theorem moves_endCall {c : Core} {n : Nat} (h : ∀ call ∈ c.calls, call.number = n →
    ∃ numbers, call.stage = .draining numbers ∧ ∀ run ∈ c.runs, run.number ∉ numbers) : Moves e c (c.endCall n) :=
  Move.moves (.endCalls fun call hcall hn => h call hcall (by simpa using hn))

theorem moves_leaveClearing {n : Nat} {kind : CallKind} {told : List Nat}
    (hcall : ⟨n, kind, .clearing told⟩ ∈ s.core.calls) (hover : ∀ l ∈ s.core.loops, l.number ∉ told) :
    Moves e s.core (s.leaveClearing n kind).core := by
  rw [core_leaveClearing]
  cases kind with
  | load => exact Move.moves (.settle hcall hover)
  | stop =>
    have hleave := Move.moves (Move.leave (e := e) hcall hover)
    dsimp only
    split
    · next hruns =>
      -- nothing is left to wait for: the call passes through the last stage
      rw [← Core.endCall_setStage _ n (.draining (s.core.runs.map Run.number))]
      refine hleave.trans (moves_endCall fun call hmem hn => ⟨_, Core.stage_of_mem_setStage hmem hn, ?_⟩)
      rw [List.isEmpty_iff.mp hruns]
      exact fun _ _ => List.not_mem_nil
    · exact hleave

theorem core_leaveClearing_setStage (s : Scheduler) (n : Nat) (kind : CallKind) (stage : Stage) :
    ((s.setStage n stage).leaveClearing n kind).core = (s.leaveClearing n kind).core := by
  have hs : (s.setStage n stage).core = s.core.setStage n stage := rfl
  rw [core_leaveClearing, core_leaveClearing, hs]
  cases kind with
  | load => exact Core.setStage_setStage _ _ _ _
  | stop =>
    have hr : (s.core.setStage n stage).release = s.core.release.setStage n stage := rfl
    simp only [hr, Core.endCall_setStage, Core.setStage_setStage]
    rfl

theorem core_clear (s : Scheduler) :
    s.clear.core = { s.core with generation := none, roster := {}, loops := s.loops.map unwatch } :=
  foldl_keep core (fun s _ => core_appoint s _ _ _) _ s.current

theorem moves_beginClearing {n : Nat} {kind : CallKind} {stage : Stage}
    (hcall : ⟨n, kind, stage⟩ ∈ s.core.calls) (hturn : s.core.HasTurn n stage) :
    Moves e s.core (s.beginClearing n kind).core := by
  have hclear := Move.moves (Move.clear (e := e) hcall hturn)
  have hwatch : Moves e s.core (s.clear.setStage n (.clearing (s.current.map PollingLoop.number))).core := by
    have hbadges : (s.loops.map unwatch).map PollingLoop.badge = s.loops.map PollingLoop.badge := by
      rw [List.map_map]
      exact List.map_congr_left fun l _ => l.badge_unwatch
    have hedges : ∀ l ∈ s.loops.map unwatch, e.Spares l.number →
        ∃ old ∈ s.loops, old.badge = l.badge ∧ old.trigger.edge? = l.trigger.edge? := by
      intro l hl _
      obtain ⟨old, hold, rfl⟩ := List.mem_map.mp hl
      exact ⟨old, hold, old.badge_unwatch.symm, old.edge?_unwatch.symm⟩
    have hstage : (s.clear.setStage n (.clearing (s.current.map PollingLoop.number))).core =
        s.clear.core.setStage n (.clearing (s.current.map PollingLoop.number)) := rfl
    rw [hstage, core_clear]
    exact hclear.trans (Move.moves (.triggers hbadges hedges))
  simp only [beginClearing]
  split
  · next htold =>
    have htold : s.current.map PollingLoop.number = [] := List.isEmpty_iff.mp htold
    rw [htold] at hwatch
    rw [← core_leaveClearing_setStage s.clear n kind (.clearing [])]
    have hkept : ⟨n, kind, stage⟩ ∈ s.clear.core.calls := by rwa [core_clear]
    exact hwatch.trans (moves_leaveClearing (Core.mem_setStage_self hkept) fun _ _ => List.not_mem_nil)
  · exact hwatch

theorem moves_followClearing (s : Scheduler) : Moves e s.core s.followClearing.core := by
  rcases followClearing_cases s with h | ⟨⟨n, kind, stage⟩, hcall, hcleared, h⟩ <;> rw [h]
  cases stage with
  | clearing told =>
    refine moves_leaveClearing hcall fun l hl => ?_
    have hover := List.all_eq_true.mp hcleared l hl
    simpa using hover
  | _ => simp [isCleared] at hcleared

theorem moves_endDrained (s : Scheduler) : Moves e s.core s.endDrained.core := by
  refine Move.moves (.endCalls fun c _ hstays => ?_)
  rcases c with ⟨n, kind, stage⟩
  cases stage with
  | draining numbers =>
    have hover : s.areOver numbers = true := by simpa [isDrained] using hstays
    exact ⟨numbers, rfl, fun run hrun => by simpa using List.all_eq_true.mp hover run hrun⟩
  | _ => simp [isDrained] at hstays

/-! ## Loading -/

theorem moves_finishSettings {n : Nat} {stage : Stage} (settings : Settings)
    (hcall : ⟨n, .load, stage⟩ ∈ s.core.calls) (hturn : s.core.HasTurn n stage) :
    Moves e s.core (s.finishSettings n settings).core := by
  rw [← core_followCode s settings] at hcall hturn ⊢
  rcases finishSettings_cases s n settings with h | ⟨_, h⟩ <;> rw [h]
  · exact moves_beginClearing hcall hturn
  · rw [core_release]
    exact Move.moves (.fail hcall hturn)

theorem moves_reconnect {n : Nat} {stage : Stage} (settings : Settings) (b : ChatBot)
    (hcall : ⟨n, .load, stage⟩ ∈ s.core.calls) (hturn : s.core.HasTurn n stage) :
    Moves e s.core (s.reconnect n settings b).core := by
  have hcore : ({ s with around := s.around.setBot b.disconnect }.connect settings).core = s.core :=
    core_connect _ settings
  rw [reconnect]
  rw [← hcore] at hcall hturn ⊢
  exact moves_finishSettings settings hcall hturn

theorem moves_followToken {n : Nat} (settings : Settings) (b : ChatBot)
    (hcall : ⟨n, .load, .queued⟩ ∈ s.core.calls) (hhead : s.core.lock.head? = some n) :
    Moves e s.core (s.followToken n settings b).core := by
  have hturn : s.core.HasTurn n .queued := .inl ⟨rfl, hhead⟩
  rw [followToken]
  split
  · rw [← core_bindChat s settings] at hcall hturn ⊢
    exact moves_finishSettings settings hcall hturn
  · dsimp only
    split
    · have hcore : ({ s with token := settings.wantedToken, pairingCode := "" }.connect settings).core
          = s.core := core_connect _ settings
      rw [← hcore] at hcall hturn ⊢
      exact moves_finishSettings settings hcall hturn
    · split
      · exact Move.moves (.disconnect hcall hhead)
      · exact moves_reconnect (s := { s with token := settings.wantedToken, pairingCode := "" }) settings _
          hcall hturn

theorem moves_followSettings {n : Nat} (hcall : ⟨n, .load, .queued⟩ ∈ s.core.calls)
    (hhead : s.core.lock.head? = some n) : Moves e s.core (s.followSettings n).core := by
  have hturn : s.core.HasTurn n .queued := .inl ⟨rfl, hhead⟩
  rw [followSettings]
  split
  · exact moves_beginClearing (s := s.report .error _) hcall hturn
  · next settings _ =>
    dsimp only
    split
    · exact moves_followToken (s := { s with around := { s.around with settings := some settings } })
        settings _ hcall hhead
    · exact moves_beginClearing (s := { s with around := { s.around with settings := some settings } })
        hcall hturn

theorem moves_finishLoading {n : Nat} (he : e = .alarm (.call n))
    (hcall : ⟨n, .load, .settling⟩ ∈ s.core.calls) : Moves e s.core (s.finishLoading n).core := by
  rw [finishLoading, core_release]
  cases hask : s.ask .list (s.store.list true) with
  | ok scenarios =>
    obtain ⟨added, htaken, hload⟩ := core_load hask
    refine (Move.moves (.load he hcall (eq_of_ask hask) htaken)).trans (Moves.of_eq ?_)
    rw [show (s.load.endCall n).core = s.load.core.endCall n from rfl, hload]
    rfl
  | error fault =>
    refine (Move.moves (.loadNothing he hcall)).trans (Moves.of_eq ?_)
    rw [show (s.load.endCall n).core = s.load.core.endCall n from rfl, load_of_error hask]
    rfl

/-! ## Calls -/

theorem moves_begin {c : Call} (hcall : ⟨c.number, c.kind, .queued⟩ ∈ s.core.calls)
    (hhead : s.core.lock.head? = some c.number) : Moves e s.core (s.begin c).core := by
  rw [begin]
  split
  · next hkind =>
    rw [hkind] at hcall
    exact moves_followSettings hcall hhead
  · next hkind =>
    rw [hkind] at hcall
    exact moves_beginClearing hcall (.inl ⟨rfl, hhead⟩)

theorem moves_enqueue {c : Call} {stage : Stage} (hcall : ⟨c.number, c.kind, stage⟩ ∈ s.core.calls)
    (hstage : stage = .queued ∨ ∃ inTime, stage = .closing inTime) :
    Moves e s.core (s.enqueue c).core := by
  have hqueue : Moves e s.core
      ({ s with lock := s.lock ++ [c.number] }.setStage c.number .queued).core :=
    Move.moves (.queue hcall hstage)
  simp only [enqueue]
  split
  · next hfree =>
    have hlock : s.lock = [] := List.isEmpty_iff.mp hfree
    refine hqueue.trans (moves_begin ?_ ?_)
    · exact Core.mem_setStage_self (c := { s with lock := s.lock ++ [c.number] }.core) hcall
    · show (s.lock ++ [c.number]).head? = some c.number
      rw [hlock, List.nil_append, List.head?_cons]
  · exact hqueue

theorem moves_leaveBot {c : Call} {stage : Stage} (hcall : ⟨c.number, c.kind, stage⟩ ∈ s.core.calls)
    (hstage : stage = .queued ∨ ∃ inTime, stage = .closing inTime) :
    Moves e s.core (s.leaveBot c).core :=
  moves_enqueue (s := { s with hook := s.hook.map KeyboardHook.stop }) hcall hstage

theorem Core.Sound.number_inj {c : Core} (h : c.Sound) {call call' : Call} (hcall : call ∈ c.calls)
    (hcall' : call' ∈ c.calls) (hn : call.number = call'.number) : call = call' :=
  List.inj_on_of_nodup_map h.callNumbers hcall hcall' hn

/-- Going on with a call loads, or gives runs up, only where that is what the event is for. -/
theorem moves_wakeCall (hs : s.core.Sound) (n : Nat)
    (he : ∀ call ∈ s.calls, call.number = n →
      (call.stage = .settling ∨ ∃ numbers, call.stage = .draining numbers) → e = .alarm (.call n)) :
    Moves e s.core (s.wakeCall n).core := by
  rw [wakeCall]
  split
  · exact .refl
  · next c hfind =>
    have hcall : c ∈ s.core.calls := List.mem_of_find?_eq_some hfind
    have hn : c.number = n := by simpa using List.find?_some hfind
    have hkind := hs.kinds c hcall
    rcases c with ⟨m, kind, stage⟩
    obtain rfl : m = n := hn
    cases stage with
    | queued =>
      dsimp only
      split
      · next hhead => exact moves_begin hcall (beq_iff_eq.mp hhead)
      · exact .refl
    | disconnecting settings =>
      obtain rfl : kind = .load := beq_iff_eq.mp hkind
      dsimp only
      split
      · exact moves_reconnect settings _ hcall (.inr ⟨settings, rfl⟩)
      · exact moves_finishSettings settings hcall (.inr ⟨settings, rfl⟩)
    | clearing told =>
      have hdrop : Moves e s.core (s.dropLoops told).core :=
        Move.moves (.dropLoops hcall)
      refine hdrop.trans (moves_leaveClearing hcall fun l hl htold => ?_)
      have hkept := (List.mem_filter.mp hl).2
      simp [htold] at hkept
    | settling =>
      obtain rfl : kind = .load := beq_iff_eq.mp hkind
      exact moves_finishLoading (he _ hcall rfl (.inl rfl)) hcall
    | closing inTime =>
      have hstage : Stage.closing inTime = .queued ∨ ∃ b, Stage.closing inTime = .closing b :=
        .inr ⟨inTime, rfl⟩
      dsimp only
      split
      · generalize s.around.setBot _ = around
        exact moves_leaveBot (s := { s with around := around }) (c := ⟨m, kind, _⟩) hcall hstage
      · exact moves_leaveBot (c := ⟨m, kind, _⟩) hcall hstage
    | draining numbers =>
      have hgive : Moves e s.core (s.giveUp numbers).core :=
        Move.moves (.giveUp (he _ hcall rfl (.inr ⟨numbers, rfl⟩)) hcall)
      refine hgive.trans (moves_endCall fun call hmem hm => ⟨numbers, ?_, fun run hrun => ?_⟩)
      · rw [hs.number_inj hmem hcall hm]
      · simpa using (List.mem_filter.mp hrun).2

theorem moves_addCall (s : Scheduler) (kind : CallKind) (he : e.asks = true) :
    Moves e s.core (s.addCall kind).2.core :=
  Move.moves (.ask he)

theorem mem_addCall (s : Scheduler) (kind : CallKind) :
    ⟨(s.addCall kind).1.number, (s.addCall kind).1.kind, .queued⟩ ∈ (s.addCall kind).2.core.calls :=
  List.mem_append_right _ (List.mem_singleton.mpr rfl)

/-- A load is asked for and waits for the lock, or takes it. -/
def withLoad (s : Scheduler) : Scheduler :=
  { (s.addCall .load).2 with lock := s.lock ++ [s.numbered] }.setStage s.numbered .queued

theorem moves_withLoad (he : e.asks = true) : Moves e s.core s.withLoad.core :=
  (moves_addCall s .load he).trans (Move.moves (.queue (mem_addCall s .load) (.inl rfl)))

/-- Once it was asked for, a load begins if the lock is free. -/
theorem moves_of_withLoad (s : Scheduler) : Moves e s.withLoad.core s.reload.2.core := by
  simp only [reload, enqueue]
  split
  · next hfree =>
    have hlock : s.lock = [] := List.isEmpty_iff.mp hfree
    refine moves_begin (s := s.withLoad) (Core.mem_setStage_self (mem_addCall s .load)) ?_
    show (s.lock ++ [s.numbered]).head? = some s.numbered
    rw [hlock, List.nil_append, List.head?_cons]
  · exact .refl

theorem moves_reload (s : Scheduler) (he : e.asks = true) : Moves e s.core s.reload.2.core :=
  (moves_withLoad he).trans (moves_of_withLoad s)

theorem moves_start (s : Scheduler) (he : e.asks = true) : Moves e s.core s.start.2.core := by
  rw [start]
  split
  · exact .refl
  · have hcore : ({ s with isRunning := true }.subscribe.startHook).core = s.core :=
      (core_startHook _).trans (core_subscribe _)
    rw [← hcore]
    exact moves_reload _ he

theorem moves_closeBot {c : Call} (he : e.asks = true) (hcall : ⟨c.number, .stop, .queued⟩ ∈ s.core.calls)
    (hkind : c.kind = .stop) : Moves e s.core (s.closeBot c).core := by
  have hcall' : ⟨c.number, c.kind, .queued⟩ ∈ s.core.calls := by rwa [hkind]
  rw [closeBot]
  split
  · exact moves_leaveBot hcall' (.inl rfl)
  · dsimp only
    split
    · exact Move.moves (.close he hcall)
    · generalize s.around.setBot _ = around
      exact moves_leaveBot (s := { s with around := around }) hcall' (.inl rfl)

theorem moves_stop (s : Scheduler) (he : e.asks = true) : Moves e s.core s.stop.2.core := by
  rw [stop]
  split
  · exact .refl
  · have hadd := moves_addCall { s with isRunning := false } .stop he
    exact hadd.trans (moves_closeBot he (mem_addCall { s with isRunning := false } .stop) rfl)

/-! ## Events -/

theorem moves_handle (hs : s.core.Sound) (a : Alarm) : Moves (.alarm a) s.core (s.handle a).core := by
  cases a with
  | loop n => exact moves_wakeLoop n hs.loopNumbers
  | run n => exact moves_wakeRun s n
  | call n => exact moves_wakeCall hs n fun _ _ _ _ => rfl
  | message connection text chat => exact moves_onFetched s connection text chat
  | inspection => exact .refl
  | shutdown => exact .refl
  | signal => exact .refl

/-- What an event does to the core is made of moves, unless someone else changes the store. -/
theorem moves_after (hs : s.core.Sound) {e : Event} (he : ∀ kept, e ≠ .store kept) :
    Moves e s.core (s.after e).core := by
  cases e with
  | start => exact moves_start s rfl
  | reload => exact moves_reload s rfl
  | stop => exact moves_stop s rfl
  | alarm a =>
    have hfollow := moves_followClearing (e := .alarm a) (s.handle a)
    exact ((moves_handle hs a).trans hfollow).trans (moves_endDrained _)
  | run id => exact moves_runById s id
  | hotkey key modifiers => exact moves_onHotkey s key modifiers
  | press k injected => exact moves_onPress s k injected
  | release k => exact .of_eq (core_onRelease s k)
  | command text => exact moves_onCommand s text
  | message text chat => exact moves_onMessage s text chat
  | paired chat => exact moves_onPaired s chat
  | report directory r => exact moves_onReport s directory r
  | store kept => exact absurd rfl (he kept)
  | scene scene => exact .refl

end Scheduler

end Deskhand
