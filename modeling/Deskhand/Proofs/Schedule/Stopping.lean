import Deskhand.Proofs.Schedule.Attended
import Deskhand.Proofs.Schedule.Standing
import Mathlib.Data.List.TakeWhile

/-!
# What stopping leaves

Loads take place under the lock in the order in which they asked for it, so a stop ends what every load ahead of it
has left, and the runs that are under way then. The invariant is `Core.Winds`: as long as the stop has not ended what
was loaded, every load is ahead of it in the lock (`Core.Waits`), and from then on no generation of loops may run,
nobody waits for a key or a message, and nobody loads (`Core.Still`). Nothing can start a run then but its id. Main
statements:

* `Core.LoadsAhead.move`, `Reachable.queued`: the order of the lock, over every history;
* `Core.Winds.move`: how far a stop has come, move by move;
* `Core.Winds.after`: every event that may happen once a stop was asked for;
* `Reachable.quiet_after_stop`: what is left once it is over;
* `loop_after_stop_of_idle`: what a stop leaves of a scheduler that does not run.
-/

namespace Deskhand

namespace Scheduler

namespace Core

variable {c d : Core} {e : Event} {n : Nat} {p : Nat → Bool}

/-! ## The lock -/

theorem mem_setStage_of_ne {call : Call} {m : Nat} {stage : Stage} (h : call ∈ c.calls) (hne : call.number ≠ m) :
    call ∈ (c.setStage m stage).calls :=
  List.mem_map.mpr ⟨call, h, by simp [hne]⟩

/-- What a move makes of the lock: a call waits for it, or one that has it hands it on, which then is no load. -/
theorem lock_of_move (hs : c.Sound) (h : Move e c d) :
    d.lock = c.lock ∨ (∃ m ∈ c.calls.map Call.number, d.lock = c.lock ++ [m]) ∨
      ∃ m, c.lock = m :: d.lock ∧ ∀ call ∈ d.calls, call.number = m → call.kind = .stop := by
  have hdrop {m : Nat} (hhead : c.lock.head? = some m) : c.lock = m :: c.lock.drop 1 := by
    obtain ⟨rest, hrest⟩ := List.head?_eq_some_iff.mp hhead
    rw [hrest]
    rfl
  have hgone {m : Nat} : ∀ call ∈ c.calls.filter (·.number != m), call.number = m → call.kind = .stop :=
    fun call hcall hn => absurd hn (by simpa using (List.mem_filter.mp hcall).2)
  cases h with
  | queue hcall _ => exact .inr (.inl ⟨_, List.mem_map_of_mem hcall, rfl⟩)
  | leave hcall _ =>
    refine .inr (.inr ⟨_, hdrop (hs.inside _ hcall rfl), fun call hmem hn => ?_⟩)
    rcases Sound.mem_setStage hmem with ⟨-, hne⟩ | ⟨-, -, old, hold, holdn, hkind⟩
    · exact absurd hn hne
    · rw [← hkind, hs.number_inj hold hcall holdn]
  | fail hcall hturn => exact .inr (.inr ⟨_, hdrop (hs.head_of_turn hcall hturn), hgone⟩)
  | load _ hcall _ _ => exact .inr (.inr ⟨_, hdrop (hs.inside _ hcall rfl), hgone⟩)
  | loadNothing _ hcall => exact .inr (.inr ⟨_, hdrop (hs.inside _ hcall rfl), hgone⟩)
  | _ => exact .inl rfl

/-- Every load has the lock or waits for it, ahead of the first number there that is not as it should be. -/
def LoadsAhead (p : Nat → Bool) (c : Core) : Prop :=
  ∀ call ∈ c.calls, call.kind = .load → call.number ∈ c.lock.takeWhile p

theorem LoadsAhead.move (h : c.LoadsAhead p) (hs : c.Sound) (he : e.asks = false) (hmove : Move e c d) :
    d.LoadsAhead p := by
  intro call hcall hkind
  obtain ⟨old, hold, hn, hk⟩ := (calls_of_move hmove hcall).resolve_right (by simp [he])
  have hahead : call.number ∈ c.lock.takeWhile p := hn ▸ h old hold (hk.trans hkind)
  rcases lock_of_move hs hmove with hsame | ⟨m, -, hlonger⟩ | ⟨m, hlock, hstop⟩
  · rwa [hsame]
  · rw [hlonger, List.takeWhile_append]
    split
    · exact List.mem_append_left _ ((List.takeWhile_prefix p).subset hahead)
    · exact hahead
  · rw [hlock, List.takeWhile_cons] at hahead
    split at hahead
    · rcases List.mem_cons.mp hahead with hown | hrest
      · cases hkind.symm.trans (hstop call hcall hown)
      · exact hrest
    · cases hahead

/-- What has the lock or waits for it was asked for, and every load does one or the other. -/
structure Queued (c : Core) : Prop where
  lock_lt : ∀ m ∈ c.lock, m < c.numbered
  loads : c.LoadsAhead fun _ => true

theorem Queued.takeWhile_lock (h : c.Queued) : c.lock.takeWhile (· != c.numbered) = c.lock :=
  List.takeWhile_eq_self_iff.mpr fun m hm => by simpa using Nat.ne_of_lt (h.lock_lt m hm)

theorem lock_lt_of_move (h : ∀ m ∈ c.lock, m < c.numbered) (hs : c.Sound) (hmove : Move e c d) :
    ∀ m ∈ d.lock, m < d.numbered := by
  intro m hm
  refine Nat.lt_of_lt_of_le ?_ (numbered_le_of_move hmove)
  rcases lock_of_move hs hmove with hsame | ⟨m', hmem, hlonger⟩ | ⟨m', hlock, -⟩
  · exact h m (hsame ▸ hm)
  · rw [hlonger, List.mem_append, List.mem_singleton] at hm
    rcases hm with hm | rfl
    · exact h m hm
    · obtain ⟨call, hcall, rfl⟩ := List.mem_map.mp hmem
      exact hs.calls_lt call hcall
  · exact h m (hlock ▸ List.mem_cons_of_mem _ hm)

theorem Queued.move (h : c.Queued) (hs : c.Sound) (he : e.asks = false) (hmove : Move e c d) : d.Queued :=
  ⟨lock_lt_of_move h.lock_lt hs hmove, h.loads.move hs he hmove⟩

/-! ## A stop that waits -/

/-- A stop has not ended what was loaded yet; while it waits for the bot it does not wait for the lock. -/
structure IsEarly (lock : List Nat) (call : Call) : Prop where
  kind : call.kind = .stop
  not_draining : ∀ numbers, call.stage ≠ .draining numbers
  not_mem_lock : ∀ inTime, call.stage = .closing inTime → call.number ∉ lock

/-- A stop has not ended what was loaded yet, and every load is ahead of it. -/
structure Waits (n : Nat) (c : Core) : Prop where
  call : ∃ call ∈ c.calls, call.number = n ∧ IsEarly c.lock call
  loads : c.LoadsAhead (· != n)

/-- Nothing is loaded and nobody loads. -/
structure Still (c : Core) : Prop where
  stops : ∀ call ∈ c.calls, call.kind = .stop
  generation : c.generation = none
  roster : c.roster = {}
  loops : c.loops = []

/-- How far a stop has come. Once nothing is loaded any more, the runs that are under way are those that it waits for
and those of a list. -/
inductive Winds (n : Nat) (asked : List Nat) (c : Core) : Prop
  | waits : c.Waits n → Winds n asked c
  | drains {numbers : List Nat} : c.Still → ⟨n, .stop, .draining numbers⟩ ∈ c.calls →
      (∀ run ∈ c.runs, run.number ∈ numbers ∨ run.number ∈ asked) → Winds n asked c
  | ended : c.Still → (∀ call ∈ c.calls, call.number ≠ n) → (∀ run ∈ c.runs, run.number ∈ asked) → Winds n asked c

theorem Still.move (h : c.Still) (he : e.asks = false) (hmove : Move e c d) : d.Still := by
  have hstops : ∀ call ∈ d.calls, call.kind = .stop := by
    intro call hcall
    obtain ⟨old, hold, -, hk⟩ := (calls_of_move hmove hcall).resolve_right (by simp [he])
    exact hk.symm.trans (h.stops old hold)
  have hload {m : Nat} {stage : Stage} (hcall : ⟨m, .load, stage⟩ ∈ c.calls) : False :=
    nomatch h.stops _ hcall
  cases hmove with
  | triggers hb _ =>
    rw [h.loops] at hb
    exact ⟨hstops, h.generation, h.roster, List.map_eq_nil_iff.mp hb⟩
  | endLoop _ _ => exact ⟨hstops, h.generation, h.roster, by simp [h.loops]⟩
  | dropLoops _ => exact ⟨hstops, h.generation, h.roster, by simp [h.loops]⟩
  | clear _ _ => exact ⟨hstops, rfl, rfl, h.loops⟩
  | load _ hcall _ _ => exact (hload hcall).elim
  | loadNothing _ hcall => exact (hload hcall).elim
  | _ => exact ⟨hstops, h.generation, h.roster, h.loops⟩

/-- With nothing loaded a run is only started by its id. -/
theorem Still.runs (h : c.Still) (hrun : ∀ id, e ≠ .run id) (hmove : Move e c d) :
    ∀ run ∈ d.runs, ∃ old ∈ c.runs, old.number = run.number := by
  intro run hmem
  cases hmove with
  | spawn hstarts =>
    rcases hstarts with ⟨id, hid⟩ | hgen | hroster
    · exact absurd hid (hrun id)
    · exact absurd h.generation hgen
    · exact absurd h.roster hroster
  | setRest _ =>
    obtain ⟨old, hold, rfl⟩ := List.mem_map.mp hmem
    refine ⟨old, hold, ?_⟩
    split <;> rfl
  | endRun _ => exact ⟨run, (List.mem_filter.mp hmem).1, rfl⟩
  | giveUp _ _ => exact ⟨run, (List.mem_filter.mp hmem).1, rfl⟩
  | _ => exact ⟨run, hmem, rfl⟩

/-- A stop goes on to wait for runs, until none of them is left. -/
theorem draining_of_move {numbers : List Nat} (hs : c.Sound) (h : ⟨n, .stop, .draining numbers⟩ ∈ c.calls)
    (hmove : Move e c d) :
    ⟨n, .stop, .draining numbers⟩ ∈ d.calls ∨
      (∀ call ∈ d.calls, call.number ≠ n) ∧ d.runs = c.runs ∧ ∀ run ∈ c.runs, run.number ∉ numbers := by
  have hkept {m : Nat} {kind : CallKind} {stage stage' : Stage} (hcall : ⟨m, kind, stage⟩ ∈ c.calls)
      (hstage : stage ≠ .draining numbers) : ⟨n, .stop, .draining numbers⟩ ∈ (c.setStage m stage').calls := by
    refine mem_setStage_of_ne h fun hn => hstage ?_
    obtain ⟨-, -, rfl⟩ := Call.mk.inj (hs.number_inj hcall h hn.symm)
    rfl
  have hleft {m : Nat} {stage : Stage} (hcall : ⟨m, .load, stage⟩ ∈ c.calls) :
      ⟨n, .stop, .draining numbers⟩ ∈ c.calls.filter (·.number != m) := by
    refine List.mem_filter.mpr ⟨h, bne_iff_ne.mpr fun hn => ?_⟩
    cases hs.number_inj h hcall hn
  cases hmove with
  | ask _ => exact .inl (List.mem_append_left _ h)
  | close _ hcall => exact .inl (hkept hcall (by simp))
  | queue hcall hstage =>
    refine .inl (hkept hcall ?_)
    rcases hstage with rfl | ⟨inTime, rfl⟩ <;> simp
  | disconnect hcall _ => exact .inl (hkept hcall (by simp))
  | clear hcall hturn =>
    refine .inl (hkept hcall ?_)
    rcases hturn with ⟨rfl, -⟩ | ⟨settings, rfl⟩ <;> simp
  | settle hcall _ => exact .inl (hkept hcall (by simp))
  | leave hcall _ => exact .inl (hkept hcall (by simp))
  | @endCalls stays hstays =>
    by_cases hcall : stays ⟨n, .stop, .draining numbers⟩ = true
    · exact .inl (List.mem_filter.mpr ⟨h, hcall⟩)
    · obtain ⟨numbers', hdrain, hover⟩ := hstays _ h (by simpa using hcall)
      obtain rfl := Stage.draining.inj hdrain
      refine .inr ⟨fun call hmem hn => ?_, rfl, hover⟩
      obtain ⟨hmem, hstay⟩ := List.mem_filter.mp hmem
      exact hcall (hs.number_inj h hmem hn.symm ▸ hstay)
  | fail hcall _ => exact .inl (hleft hcall)
  | load _ hcall _ _ => exact .inl (hleft hcall)
  | loadNothing _ hcall => exact .inl (hleft hcall)
  | _ => exact .inl h

/-- A stop that leaves clearing is about what it has the lock for, so no load is ahead of it: none is under way. -/
theorem Waits.leave {told : List Nat} (h : c.Waits n) (hs : c.Sound) (hcall : ⟨n, .stop, .clearing told⟩ ∈ c.calls)
    (hover : ∀ l ∈ c.loops, l.number ∉ told) (asked : List Nat) :
    (c.release.setStage n (.draining (c.runs.map Run.number))).Winds n asked := by
  have hhead : c.lock.head? = some n := hs.inside _ hcall rfl
  have hquiet := hs.quiet _ hcall rfl
  have hahead : c.lock.takeWhile (· != n) = [] := by
    obtain ⟨rest, hlock⟩ := List.head?_eq_some_iff.mp hhead
    rw [hlock, List.takeWhile_cons, if_neg (by simp)]
  have hstops : ∀ call ∈ c.calls, call.kind = .stop := fun call hmem => by
    cases hkind : call.kind with
    | stop => rfl
    | load => exact absurd (hahead ▸ h.loads call hmem hkind) List.not_mem_nil
  have hstill : (c.release.setStage n (.draining (c.runs.map Run.number))).Still :=
    { stops := fun call hmem => by
        rcases Sound.mem_setStage hmem with ⟨hmem, -⟩ | ⟨-, -, old, hold, -, hkind⟩
        · exact hstops call hmem
        · exact hkind ▸ hstops old hold
      generation := hquiet.1
      roster := hquiet.2
      loops := hs.loops_eq_nil_of_over hcall hover }
  exact .drains hstill (mem_setStage_self hcall) fun run hrun => .inl (List.mem_map_of_mem hrun)

theorem IsEarly.shorter {lock lock' : List Nat} {call : Call} (h : IsEarly lock call) (hsub : lock' ⊆ lock) :
    IsEarly lock' call :=
  { h with not_mem_lock := fun inTime hstage hmem => h.not_mem_lock inTime hstage (hsub hmem) }

/-- A call is put at another stage, and the lock changes. -/
theorem IsEarly.setStage {call : Call} {lock : List Nat} {m : Nat} {stage : Stage} (h : IsEarly c.lock call)
    (hcall : call ∈ c.calls) (hstage : stage = .queued ∨ stage.isInside = true)
    (hlock : call.number ≠ m → IsEarly lock call) :
    ∃ call' ∈ (c.setStage m stage).calls, call'.number = call.number ∧ IsEarly lock call' := by
  by_cases hm : call.number = m
  · refine ⟨{ call with stage := stage }, List.mem_map.mpr ⟨call, hcall, by simp [hm]⟩, rfl, ⟨h.kind, ?_, ?_⟩⟩
    all_goals
      intro _ hlate
      rw [show stage = _ from hlate] at hstage
      simp [Stage.isInside] at hstage
  · exact ⟨call, mem_setStage_of_ne hcall hm, rfl, hlock hm⟩

theorem Waits.move (h : c.Waits n) (hs : c.Sound) (he : e.asks = false) (hmove : Move e c d) (asked : List Nat) :
    d.Winds n asked := by
  have hloads := h.loads.move hs he hmove
  obtain ⟨call, hcall, rfl, hearly⟩ := h.call
  have hdrop : IsEarly (c.lock.drop 1) call := hearly.shorter (List.drop_subset 1 c.lock)
  have hload {m : Nat} {stage : Stage} (hmem : ⟨m, .load, stage⟩ ∈ c.calls) :
      call ∈ c.calls.filter (·.number != m) := by
    refine List.mem_filter.mpr ⟨hcall, bne_iff_ne.mpr fun hn => ?_⟩
    cases hs.number_inj hcall hmem hn
    cases hearly.kind
  cases hmove with
  | ask hasks => cases he.symm.trans hasks
  | close hasks _ => cases he.symm.trans hasks
  | @queue m kind stage _ _ =>
    refine .waits ⟨hearly.setStage hcall (.inl rfl) fun hne => ?_, hloads⟩
    refine { hearly with not_mem_lock := fun inTime hstage hmem => ?_ }
    rcases List.mem_append.mp hmem with hmem | hmem
    · exact hearly.not_mem_lock inTime hstage hmem
    · exact hne (List.mem_singleton.mp hmem)
  | disconnect _ _ => exact .waits ⟨hearly.setStage hcall (.inr rfl) fun _ => hearly, hloads⟩
  | clear _ _ => exact .waits ⟨hearly.setStage hcall (.inr rfl) fun _ => hearly, hloads⟩
  | settle _ _ => exact .waits ⟨hearly.setStage hcall (.inr rfl) fun _ => hearly, hloads⟩
  | @leave m told hmem hover =>
    by_cases hm : call.number = m
    · subst hm
      exact h.leave hs hmem hover asked
    · exact .waits ⟨⟨call, mem_setStage_of_ne (c := c.release) hcall hm, rfl, hdrop⟩, hloads⟩
  | @endCalls stays hstays =>
    refine .waits ⟨⟨call, List.mem_filter.mpr ⟨hcall, ?_⟩, rfl, hearly⟩, hloads⟩
    by_contra hgone
    obtain ⟨numbers, hdrain, -⟩ := hstays call hcall (by simpa using hgone)
    exact hearly.not_draining numbers hdrain
  | fail hmem _ => exact .waits ⟨⟨call, hload hmem, rfl, hdrop⟩, hloads⟩
  | load _ hmem _ _ => exact .waits ⟨⟨call, hload hmem, rfl, hdrop⟩, hloads⟩
  | loadNothing _ hmem => exact .waits ⟨⟨call, hload hmem, rfl, hdrop⟩, hloads⟩
  | _ => exact .waits ⟨⟨call, hcall, rfl, hearly⟩, hloads⟩

/-- A move of an event that neither asks for a call nor for a run. -/
theorem Winds.move {asked : List Nat} (h : c.Winds n asked) (hs : c.Sound) (he : e.asks = false)
    (hrun : ∀ id, e ≠ .run id) (hmove : Move e c d) : d.Winds n asked := by
  cases h with
  | waits hwaits => exact hwaits.move hs he hmove asked
  | @drains numbers hstill hcall hruns =>
    have hruns' : ∀ run ∈ d.runs, run.number ∈ numbers ∨ run.number ∈ asked := fun run hmem => by
      obtain ⟨old, hold, hn⟩ := hstill.runs hrun hmove run hmem
      exact hn ▸ hruns old hold
    rcases draining_of_move hs hcall hmove with hkept | ⟨hgone, hsame, hover⟩
    · exact .drains (hstill.move he hmove) hkept hruns'
    · exact .ended (hstill.move he hmove) hgone fun run hmem =>
        (hruns' run hmem).resolve_left (hover run (hsame ▸ hmem))
  | ended hstill hgone hruns =>
    refine .ended (hstill.move he hmove) (fun call hmem hn => ?_) fun run hmem => ?_
    · obtain ⟨old, hold, holdn, -⟩ := (calls_of_move hmove hmem).resolve_right (by simp [he])
      exact hgone old hold (holdn.trans hn)
    · obtain ⟨old, hold, hn⟩ := hstill.runs hrun hmove run hmem
      exact hn ▸ hruns old hold

theorem Winds.mono {asked asked' : List Nat} (h : c.Winds n asked) (hsub : asked ⊆ asked') : c.Winds n asked' := by
  cases h with
  | waits hwaits => exact .waits hwaits
  | drains hstill hcall hruns => exact .drains hstill hcall fun run hrun => (hruns run hrun).imp id (@hsub _)
  | ended hstill hgone hruns => exact .ended hstill hgone fun run hrun => hsub (hruns run hrun)

end Core

/-! ## Calls that are asked for -/

variable {s : Scheduler} {e : Event} {n : Nat} {p : Nat → Bool} {asked : List Nat}

theorem Core.LoadsAhead.withLoad (h : s.core.LoadsAhead p) (hp : ∀ m ∈ s.lock ++ [s.numbered], p m = true) :
    s.withLoad.core.LoadsAhead p := by
  intro call hcall hkind
  show call.number ∈ (s.lock ++ [s.numbered]).takeWhile p
  rw [List.takeWhile_eq_self_iff.mpr hp]
  have hcall : call ∈ ((s.addCall .load).2.core.setStage s.numbered .queued).calls := hcall
  rcases Core.Sound.mem_setStage hcall with ⟨hmem, hne⟩ | ⟨hn, -⟩
  · rcases List.mem_append.mp hmem with hold | hnew
    · exact List.mem_append_left _ ((List.takeWhile_prefix p).subset (h call hold hkind))
    · obtain rfl := List.mem_singleton.mp hnew
      exact absurd rfl hne
  · exact List.mem_append_right _ (List.mem_singleton.mpr hn)

theorem Core.Queued.reload (h : s.core.Queued) (hs : s.core.Sound) : s.reload.2.core.Queued := by
  have hloads := h.loads.withLoad fun _ _ => rfl
  have hlock : ∀ m ∈ s.lock ++ [s.numbered], m < s.numbered + 1 := by
    intro m hm
    rcases List.mem_append.mp hm with hm | hm
    · exact Nat.lt_succ_of_lt (h.lock_lt m hm)
    · rw [List.mem_singleton.mp hm]
      exact Nat.lt_succ_self _
  have hmoves : Moves (.alarm .signal) s.withLoad.core s.reload.2.core := moves_of_withLoad s
  exact hmoves.induction (hs.moves (moves_withLoad (e := .reload) rfl)) ⟨hlock, hloads⟩ fun _ _ hsound hmove hc =>
    hc.move hsound rfl hmove

/-- A call that lets the bot stop waits for that, or takes the lock. -/
theorem closeBot_cases (s : Scheduler) (c : Call) :
    (∃ inTime, (s.closeBot c).core = s.core.setStage c.number (.closing inTime)) ∨
      ∃ t : Scheduler, t.core = s.core ∧ s.closeBot c = t.leaveBot c := by
  rw [closeBot]
  split
  · exact .inr ⟨s, rfl, rfl⟩
  · dsimp only
    split
    · exact .inl ⟨_, rfl⟩
    · refine .inr ⟨_, ?_, rfl⟩
      rfl

/-- The scheduler once a stop was asked for, before it lets the bot stop. -/
def withStop (s : Scheduler) : Scheduler :=
  ({ s with isRunning := false }.addCall .stop).2

theorem stop_of_running (h : s.isRunning = true) :
    s.stop = (some s.numbered, s.withStop.closeBot { number := s.numbered, kind := .stop }) := by
  rw [stop, h]
  rfl

theorem Core.LoadsAhead.withStop (h : s.core.LoadsAhead p) : s.withStop.core.LoadsAhead p := by
  intro call hcall hkind
  rcases List.mem_append.mp hcall with hold | hnew
  · exact h call hold hkind
  · obtain rfl := List.mem_singleton.mp hnew
    cases hkind

theorem Core.LoadsAhead.setStage {c : Core} (h : c.LoadsAhead p) (m : Nat) (stage : Stage) :
    (c.setStage m stage).LoadsAhead p := by
  intro call hcall hkind
  obtain ⟨old, hold, rfl⟩ := List.mem_map.mp hcall
  obtain ⟨hn, hk⟩ : (if old.number == m then { old with stage := stage } else old).number = old.number ∧
      (if old.number == m then { old with stage := stage } else old).kind = old.kind := by
    split <;> exact ⟨rfl, rfl⟩
  rw [hn]
  exact h old hold (hk.symm.trans hkind)

theorem Core.Sound.withStop (hs : s.core.Sound) : s.withStop.core.Sound :=
  hs.ask .stop

theorem Core.Queued.withStop (h : s.core.Queued) : s.withStop.core.Queued :=
  ⟨fun m hm => Nat.lt_succ_of_lt (h.lock_lt m hm), h.loads.withStop⟩

theorem Core.Queued.stop (h : s.core.Queued) (hs : s.core.Sound) : s.stop.2.core.Queued := by
  cases hrun : s.isRunning with
  | false =>
    rw [Scheduler.stop, hrun]
    exact h
  | true =>
    rw [stop_of_running hrun]
    rcases s.withStop.closeBot_cases { number := s.numbered, kind := .stop } with ⟨inTime, hcore⟩ | ⟨t, hcore, heq⟩
    · rw [hcore]
      exact ⟨h.withStop.lock_lt, h.withStop.loads.setStage _ _⟩
    · have hcall : ⟨s.numbered, .stop, .queued⟩ ∈ t.core.calls := by
        rw [hcore]
        exact mem_addCall { s with isRunning := false } .stop
      have hmoves : Moves (.alarm .signal) t.core (t.leaveBot { number := s.numbered, kind := .stop }).core :=
        moves_leaveBot hcall (.inl rfl)
      rw [heq]
      rw [hcore] at hmoves
      exact hmoves.induction hs.withStop h.withStop fun _ _ hsound hmove hc => hc.move hsound rfl hmove

theorem Core.Queued.after (h : s.core.Queued) (hs : s.core.Sound) (e : Event) : (s.after e).core.Queued := by
  have hother (hasks : e.asks = false) : (s.after e).core.Queued :=
    after_induction hs h (fun _ _ => ⟨h.lock_lt, h.loads⟩) fun _ _ hsound hmove hc => hc.move hsound hasks hmove
  cases e with
  | start =>
    rw [Scheduler.after, start]
    split
    · exact h
    · have hcore : ({ s with isRunning := true }.subscribe.startHook).core = s.core :=
        (core_startHook _).trans (core_subscribe _)
      rw [← hcore] at h hs
      exact h.reload hs
  | reload => exact h.reload hs
  | stop => exact h.stop hs
  | _ => exact hother rfl

theorem Reachable.queued (hs : Reachable s) : s.core.Queued := by
  obtain ⟨new, hnew, hleads⟩ := hs
  have hself : new.core.Queued := by
    rw [hnew.core]
    exact ⟨by simp, fun _ hcall => absurd hcall List.not_mem_nil⟩
  exact (hleads.induction (P := fun u => u.core.Sound ∧ u.core.Queued) ⟨hnew.sound, hself⟩ fun _ e he hu =>
    ⟨sound_after hu.1 he, hu.2.after hu.1 e⟩).2

/-! ## After a stop -/

theorem Core.Winds.moves {c d : Core} (h : c.Winds n asked) (hs : c.Sound) (he : e.asks = false)
    (hrun : ∀ id, e ≠ .run id) (hmoves : Moves e c d) : d.Winds n asked :=
  hmoves.induction hs h fun _ _ hsound hmove hc => hc.move hsound he hrun hmove

/-- A stop that was asked for waits, or has got further already. -/
theorem winds_stop (h : s.core.Queued) (hs : s.core.Sound) (hrun : s.isRunning = true) :
    s.stop.2.core.Winds s.numbered [] := by
  have hcall : ⟨s.numbered, .stop, .queued⟩ ∈ s.withStop.core.calls :=
    mem_addCall { s with isRunning := false } .stop
  have hfresh : s.numbered ∉ s.lock := fun hmem => Nat.lt_irrefl _ (h.lock_lt _ hmem)
  have hahead : s.core.LoadsAhead (· != s.numbered) := by
    intro call hmem hkind
    show call.number ∈ s.core.lock.takeWhile (· != s.core.numbered)
    rw [h.takeWhile_lock]
    exact (List.takeWhile_prefix _).subset (h.loads call hmem hkind)
  rw [stop_of_running hrun]
  rcases s.withStop.closeBot_cases { number := s.numbered, kind := .stop } with ⟨inTime, hcore⟩ | ⟨t, hcore, heq⟩
  · rw [hcore]
    exact .waits ⟨⟨_, Core.mem_setStage_self hcall, rfl, rfl, by simp, fun _ _ => hfresh⟩,
      hahead.withStop.setStage _ _⟩
  · have hwaits : s.withStop.core.Waits s.numbered :=
      ⟨⟨_, hcall, rfl, rfl, by simp, by simp⟩, hahead.withStop⟩
    have hmoves : Moves (.alarm .signal) t.core (t.leaveBot { number := s.numbered, kind := .stop }).core :=
      moves_leaveBot (by rwa [hcore]) (.inl rfl)
    rw [hcore] at hmoves
    rw [heq]
    exact (Core.Winds.waits hwaits).moves hs.withStop rfl (by simp) hmoves

/-- A load that is asked for while a stop waits for the bot is ahead of it. -/
theorem Core.Winds.reload (h : s.core.Winds n asked) (hs : s.core.Sound)
    (hclosing : ∃ call ∈ s.calls, call.number = n ∧ ∃ inTime, call.stage = .closing inTime) :
    s.reload.2.core.Winds n asked := by
  obtain ⟨call, hcall, rfl, inTime, hstage⟩ := hclosing
  have hwaits : s.core.Waits call.number := by
    cases h with
    | waits hwaits => exact hwaits
    | drains _ hdrain _ =>
      rw [hs.number_inj hcall hdrain rfl] at hstage
      cases hstage
    | ended _ hgone _ => exact absurd rfl (hgone call hcall)
  obtain ⟨call', hcall', hn, hearly⟩ := hwaits.call
  obtain rfl := hs.number_inj hcall' hcall hn
  have hnot : call'.number ∉ s.lock := hearly.not_mem_lock inTime hstage
  have hne : call'.number ≠ s.numbered := Nat.ne_of_lt (hs.calls_lt call' hcall')
  have hlonger : call'.number ∉ s.lock ++ [s.numbered] := by
    simp only [List.mem_append, List.mem_singleton, not_or]
    exact ⟨hnot, hne⟩
  have hwaits' : s.withLoad.core.Waits call'.number := {
    call := ⟨call', Core.mem_setStage_of_ne (c := (s.addCall .load).2.core) (List.mem_append_left _ hcall) hne, rfl,
      { hearly with not_mem_lock := fun _ _ => hlonger }⟩
    loads := hwaits.loads.withLoad fun m hm => bne_iff_ne.mpr fun heq => hlonger (heq ▸ hm) }
  exact (Core.Winds.waits hwaits').moves (hs.moves (moves_withLoad (e := .reload) rfl)) (e := .alarm .signal) rfl
    (by simp) (moves_of_withLoad s)

/-- The number of the run that an event asks for by its id, if it does. -/
def runsAsked (s : Scheduler) : Event → List Nat
  | .run id =>
    match (s.runById id).1 with
    | .ok (some m) => [m]
    | _ => []
  | _ => []

/-- The numbers of the runs that events ask for by their ids. -/
def runsAskedAll (s : Scheduler) : List Event → List Nat
  | [] => []
  | e :: rest => s.runsAsked e ++ (s.after e).runsAskedAll rest

theorem runsAskedAll_append (s : Scheduler) (es fs : List Event) :
    s.runsAskedAll (es ++ fs) = s.runsAskedAll es ++ (s.afterAll es).runsAskedAll fs := by
  induction es generalizing s with
  | nil => rfl
  | cons e rest ih => rw [List.cons_append, runsAskedAll, runsAskedAll, ih, List.append_assoc, afterAll_cons]

theorem Core.Winds.spawn (h : s.core.Winds n asked) (scenario : Scenario) (load : Option Nat)
    (bindings : List (String × Value)) :
    (s.spawn scenario load bindings).2.core.Winds n (asked ++ [s.numbered]) := by
  have hadd {P : Nat → Prop} (hold : ∀ run ∈ s.runs, P run.number) (hnew : P s.numbered) :
      ∀ run ∈ (s.spawn scenario load bindings).2.runs, P run.number := by
    intro run hrun
    rcases List.mem_append.mp hrun with hrun | hrun
    · exact hold run hrun
    · rw [List.mem_singleton.mp hrun]
      exact hnew
  have hlast : s.numbered ∈ asked ++ [s.numbered] := List.mem_append_right _ (List.mem_singleton.mpr rfl)
  cases h.mono (List.subset_append_left asked [s.numbered]) with
  | waits hwaits => exact .waits ⟨hwaits.call, hwaits.loads⟩
  | drains hstill hcall hruns =>
    exact .drains ⟨hstill.stops, hstill.generation, hstill.roster, hstill.loops⟩ hcall
      (hadd (P := fun m => m ∈ _ ∨ m ∈ asked ++ [s.numbered]) hruns (.inr hlast))
  | ended hstill hgone hruns =>
    exact .ended ⟨hstill.stops, hstill.generation, hstill.roster, hstill.loops⟩ hgone (hadd hruns hlast)

theorem Core.Winds.runById (h : s.core.Winds n asked) (id : String) :
    (s.runById id).2.core.Winds n (asked ++ s.runsAsked (.run id)) := by
  cases hfind : s.loaded.find? id with
  | some scenario =>
    have hrun : s.runById id = (.ok (some s.numbered), (s.spawn scenario (some s.loads) []).2) := by
      rw [Scheduler.runById, hfind]
      rfl
    rw [runsAsked, hrun]
    exact h.spawn _ _ _
  | none =>
    rw [runsAsked, Scheduler.runById, hfind]
    rcases s.ask .get (s.store.get id) with fault | (_ | scenario)
    · rwa [List.append_nil]
    · rwa [List.append_nil]
    · exact h.spawn _ _ _

/-- What may happen once a stop was asked for, and when it is over: nobody starts the scheduler, and nobody asks for
loading but while the stop waits for the bot. -/
def Permits (n : Nat) (s : Scheduler) : Event → Prop
  | .start => False
  | .reload => ∃ call ∈ s.calls, call.number = n ∧ ∃ inTime, call.stage = .closing inTime
  | e => e.Fits

/-- Several events may happen, one after the other. -/
def PermitsAll (n : Nat) (s : Scheduler) : List Event → Prop
  | [] => True
  | e :: rest => s.Permits n e ∧ (s.after e).PermitsAll n rest

theorem Permits.fits (h : s.Permits n e) : e.Fits := by
  cases e with
  | start => exact h.elim
  | reload => trivial
  | _ => exact h

theorem Permits.isRunning (h : s.Permits n e) (hrun : s.isRunning = false) : (s.after e).isRunning = false := by
  have hstep : Standing.Step e s.standing (s.after e).standing := step_after s e
  generalize hafter : (s.after e).standing = st at hstep
  have hst : (s.after e).isRunning = st.isRunning := congrArg Standing.isRunning hafter
  rw [hst]
  cases hstep with
  | start _ => exact h.elim
  | stop _ => rfl
  | turn hsame _ _ => exact hsame.trans hrun
  | _ => exact hrun

theorem stop_of_idle (h : s.isRunning = false) : s.stop = (none, s) := by
  rw [stop, h]
  rfl

/-- What winds down goes on to do so. -/
theorem Core.Winds.after (h : s.core.Winds n asked) (hs : s.core.Sound) (hrun : s.isRunning = false)
    (he : s.Permits n e) : (s.after e).core.Winds n (asked ++ s.runsAsked e) := by
  have hother (hasks : e.asks = false) (hnot : ∀ id, e ≠ .run id) : (s.after e).core.Winds n asked := by
    refine after_induction hs h (fun kept _ => ?_) fun _ _ hsound hmove hc => hc.move hsound hasks hnot hmove
    cases h with
    | waits hwaits => exact .waits ⟨hwaits.call, hwaits.loads⟩
    | drains hstill hcall hruns =>
      exact .drains ⟨hstill.stops, hstill.generation, hstill.roster, hstill.loops⟩ hcall hruns
    | ended hstill hgone hruns =>
      exact .ended ⟨hstill.stops, hstill.generation, hstill.roster, hstill.loops⟩ hgone hruns
  cases e with
  | start => exact he.elim
  | reload => exact (h.reload hs he).mono (List.subset_append_left _ _)
  | stop =>
    rw [Scheduler.after, stop_of_idle hrun]
    exact h.mono (List.subset_append_left _ _)
  | run id => exact h.runById id
  | _ => exact (hother rfl (by simp)).mono (List.subset_append_left _ _)

/-- A call that is over does not come back. -/
theorem Permits.stays_over (he : s.Permits n e) (hs : s.core.Sound) (hrun : s.isRunning = false)
    (hover : ∀ call ∈ s.calls, call.number ≠ n) : ∀ call ∈ (s.after e).calls, call.number ≠ n := by
  have hother (hasks : e.asks = false) : ∀ call ∈ (s.after e).core.calls, call.number ≠ n := by
    refine after_induction (P := fun c => ∀ call ∈ c.calls, call.number ≠ n) hs hover (fun _ _ => hover)
      fun _ _ _ hmove hc call hcall => ?_
    obtain ⟨old, hold, hn, -⟩ := (calls_of_move hmove hcall).resolve_right (by simp [hasks])
    exact hn ▸ hc old hold
  cases e with
  | start => exact he.elim
  | reload =>
    obtain ⟨call, hcall, hn, -⟩ := he
    exact absurd hn (hover call hcall)
  | stop =>
    rw [Scheduler.after, stop_of_idle hrun]
    exact hover
  | _ => exact hother rfl

theorem Core.Winds.afterAll {es : List Event} (h : s.core.Winds n asked) (hs : s.core.Sound)
    (hrun : s.isRunning = false) (hes : s.PermitsAll n es) :
    (s.afterAll es).core.Winds n (asked ++ s.runsAskedAll es) ∧ (s.afterAll es).core.Sound ∧
      (s.afterAll es).isRunning = false := by
  induction es generalizing s asked with
  | nil => exact ⟨h.mono (List.subset_append_left _ _), hs, hrun⟩
  | cons e rest ih =>
    obtain ⟨he, hrest⟩ := hes
    rw [runsAskedAll, ← List.append_assoc, afterAll_cons]
    exact ih (h.after hs hrun he) (sound_after hs he.fits) (he.isRunning hrun) hrest

theorem PermitsAll.stays_over {es : List Event} (hes : s.PermitsAll n es) (hs : s.core.Sound) (hrun : s.isRunning = false)
    (hover : ∀ call ∈ s.calls, call.number ≠ n) : ∀ call ∈ (s.afterAll es).calls, call.number ≠ n := by
  induction es generalizing s with
  | nil => exact hover
  | cons e rest ih =>
    obtain ⟨he, hrest⟩ := hes
    exact ih hrest (sound_after hs he.fits) (he.isRunning hrun) (he.stays_over hs hrun hover)

/-- Nothing that was loaded goes on, and no runs are under way but those of a list. -/
structure IsQuiet (asked : List Nat) (s : Scheduler) : Prop where
  generation : s.generation = none
  loops : s.loops = []
  watches : s.watches = []
  roster : s.roster = {}
  runs : ∀ run ∈ s.runs, run.number ∈ asked

/-- A scheduler that runs is stopped, whatever calls are under way then. Once that stop is over, and whatever happens
afterwards, there are no loops, no watches and nobody who waits for a key or a message, and no runs are under way
but those that someone asked for by their ids. Nobody starts the scheduler meanwhile, and nobody asks for loading
once the stop no longer waits for the bot. -/
theorem Reachable.quiet_after_stop {s : Scheduler} (hs : Reachable s) {n : Nat} (hstop : s.stop.1 = some n)
    {es : List Event} (hes : s.stop.2.PermitsAll n es)
    (hover : ∀ call ∈ (s.stop.2.afterAll es).calls, call.number ≠ n)
    {fs : List Event} (hfs : (s.stop.2.afterAll es).PermitsAll n fs) :
    ((s.stop.2.afterAll es).afterAll fs).IsQuiet (s.stop.2.runsAskedAll (es ++ fs)) := by
  cases hrun : s.isRunning with
  | false =>
    rw [stop_of_idle hrun] at hstop
    cases hstop
  | true =>
    obtain rfl : s.numbered = n := by simpa [stop_of_running hrun] using hstop
    have hsound : s.stop.2.core.Sound := sound_after hs.sound (e := .stop) trivial
    have hidle : s.stop.2.isRunning = false := by
      have hstanding := congrArg Standing.isRunning (standing_stop s)
      rwa [hrun, if_pos rfl] at hstanding
    have hwinds := winds_stop hs.queued hs.sound hrun
    obtain ⟨hmiddle, hsound', hidle'⟩ := hwinds.afterAll hsound hidle hes
    obtain ⟨hlast, -, -⟩ := hmiddle.afterAll hsound' hidle' hfs
    have hover' := hfs.stays_over hsound' hidle' hover
    rw [runsAskedAll_append]
    generalize (s.stop.2.afterAll es).afterAll fs = u at hlast hover' ⊢
    cases hlast with
    | waits hwaits =>
      obtain ⟨call, hcall, hn, -⟩ := hwaits.call
      exact absurd hn (hover' call hcall)
    | drains _ hcall _ => exact absurd rfl (hover' _ hcall)
    | ended hstill _ hruns =>
      exact {
        generation := hstill.generation
        loops := hstill.loops
        watches := by simp [watches, Scheduler.current, show u.loops = [] from hstill.loops]
        roster := hstill.roster
        runs := hruns }

/-- A scheduler that runs, with a scenario that is polled. -/
def polled : Scheduler :=
  (ofRows [pollingRow] none).afterAll [.start, .alarm (.call 0)]

/-- While it stops, a run is asked for and its loop ends; the run is given up, and another one is asked for. -/
theorem quiet_after_stop_polled :
    polled.loops.length = 1 ∧ polled.stop.1 = some 2 ∧
    let t := polled.stop.2.afterAll [.run "a", .alarm (.loop 1), .alarm (.call 2)]
    t.runs.length = 0 ∧ (t.afterAll [.run "a"]).runs.length = 1 ∧ (t.afterAll [.run "a"]).IsQuiet [3, 4] := by
  have hnew : IsNew (ofRows [pollingRow] none) := isNew_ofRows (by decide) none
  have hs : Reachable polled := by
    rw [polled, afterAll_cons, afterAll_cons, afterAll_nil]
    exact (hnew.reachable.after (e := .start) trivial).after (e := .alarm (.call 0)) trivial
  have hstop : polled.stop.1 = some 2 := by decide +kernel
  have hasked : polled.stop.2.runsAskedAll ([.run "a", .alarm (.loop 1), .alarm (.call 2)] ++ [.run "a"]) = [3, 4] := by
    decide +kernel
  have hes : polled.stop.2.PermitsAll 2 [.run "a", .alarm (.loop 1), .alarm (.call 2)] :=
    ⟨trivial, trivial, trivial, trivial⟩
  have hfs : (polled.stop.2.afterAll [.run "a", .alarm (.loop 1), .alarm (.call 2)]).PermitsAll 2 [.run "a"] :=
    ⟨trivial, trivial⟩
  refine ⟨by decide +kernel, hstop, by decide +kernel, by decide +kernel, ?_⟩
  rw [← hasked]
  exact hs.quiet_after_stop hstop hes (by decide +kernel) hfs

/-- A scheduler that was never started has loaded a scenario that is polled, and is stopped: it does not run, so that
is over at once, and the loop goes on. -/
theorem loop_after_stop_of_idle :
    let s := (ofRows [pollingRow] none).afterAll [.reload, .alarm (.call 0)]
    s.stop.1 = none ∧ s.stop.2.calls = [] ∧ s.stop.2.current.length = 1 := by
  decide +kernel

end Scheduler

end Deskhand
