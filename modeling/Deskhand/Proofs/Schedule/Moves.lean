import Deskhand.Proofs.Schedule.History
import Deskhand.Proofs.Schedule.TakingIn
import Mathlib.Logic.Relation

/-!
# Moves of the core

A `Move` is one of the small changes of the core that a scheduler ever makes, under the condition under which it
is made; what a run or a loop does, and what ends a load, is tied to its alarm. The operations of a scheduler are
made of moves, so that an invariant is shown move by move. Main statements:

* `moves_wakeRun`, `moves_runById`: runs;
* `moves_wakeLoop`, `moves_onReport`: loops;
* `moves_onHotkey`, `moves_onCommand`, `moves_onFetched`: keys and messages.
-/

namespace Deskhand

namespace PollingLoop

/-- What of a loop stays as it is while it asks its trigger. -/
def badge (l : PollingLoop) : Nat × Nat × String × Block × Bool :=
  (l.number, l.generation, l.scenario, l.trigger.block, l.trigger.isDaily)

theorem badge_eq_iff {l l' : PollingLoop} :
    l.badge = l'.badge ↔ l.number = l'.number ∧ l.generation = l'.generation ∧ l.scenario = l'.scenario ∧
      l.trigger.block = l'.trigger.block ∧ l.trigger.isDaily = l'.trigger.isDaily := by
  simp [badge]

theorem check_spec (t : Trigger) (bot : Option ChatBot) (last : Option Instant) (now : Instant) :
    (t.check bot last now).2.block = t.block ∧ (t.check bot last now).2.isDaily = t.isDaily := by
  rcases t with ⟨b, state⟩
  cases state <;> exact ⟨rfl, rfl⟩

theorem takeBindings_spec (t : Trigger) :
    (takeBindings t).2.block = t.block ∧ (takeBindings t).2.isDaily = t.isDaily := by
  rw [takeBindings]
  split
  · next hstate _ => exact ⟨rfl, by simp [Trigger.isDaily, hstate]⟩
  · exact ⟨rfl, rfl⟩

/-- A turn of a loop leaves its badge as it is. -/
theorem badge_look (l : PollingLoop) (bot : Option ChatBot) (last : Option Instant) (now : Instant) :
    (l.look bot last now).2.badge = l.badge := by
  obtain ⟨hb, hd⟩ := check_spec l.trigger bot last now
  rcases hc : l.trigger.check bot last now with ⟨outcome, t⟩
  rw [hc] at hb hd
  rw [badge_eq_iff, look, hc]
  cases outcome with
  | error fault => exact ⟨rfl, rfl, rfl, hb, hd⟩
  | ok fires =>
    cases fires with
    | false => exact ⟨rfl, rfl, rfl, hb, hd⟩
    | true =>
      obtain ⟨hb', hd'⟩ := takeBindings_spec t
      exact ⟨rfl, rfl, rfl, hb'.trans hb, hd'.trans hd⟩

theorem badge_unwatch (l : PollingLoop) : (Scheduler.unwatch l).badge = l.badge := by
  rw [Scheduler.unwatch]
  split
  · next hstate => simp [badge_eq_iff, Trigger.isDaily, hstate]
  · rfl

theorem badge_reportTo (l : PollingLoop) (tree : FileTree) (directory : String) (r : ChangeReport)
    (now : Float) : (Scheduler.reportTo l tree directory r now).2.badge = l.badge := by
  rw [Scheduler.reportTo]
  split
  · next hstate => simp [badge_eq_iff, Trigger.isDaily, hstate]
  · rfl

theorem edge?_unwatch (l : PollingLoop) : (Scheduler.unwatch l).trigger.edge? = l.trigger.edge? := by
  rw [Scheduler.unwatch]
  split
  · next w hstate =>
    have hl : l.trigger.edge? = some w.edge := by
      rw [Trigger.edge?, Trigger.watch?, hstate]
      rfl
    rw [hl]
    exact congrArg some (Watch.edge_stop {} w)
  · rfl

end PollingLoop

namespace Stage

/-- Whether a call at a stage is about what it has the lock for. -/
def isInside : Stage → Bool
  | disconnecting _ | clearing _ | settling => true
  | _ => false

/-- Whether a call at a stage has ended what was loaded and not loaded yet. -/
def isQuiet : Stage → Bool
  | clearing _ | settling => true
  | _ => false

/-- Whether calls of a kind come to a stage. -/
def suits : Stage → CallKind → Bool
  | disconnecting _, kind | settling, kind => kind == .load
  | closing _, kind | draining _, kind => kind == .stop
  | _, _ => true

theorem isInside_of_isQuiet {stage : Stage} (h : stage.isQuiet = true) : stage.isInside = true := by
  cases stage <;> simp_all [isQuiet, isInside]

end Stage

namespace Scheduler

namespace Core

/-- Put a call at a stage. -/
def setStage (c : Core) (n : Nat) (stage : Stage) : Core :=
  { c with calls := c.calls.map fun call => if call.number == n then { call with stage := stage } else call }

/-- Drop a call. -/
def endCall (c : Core) (n : Nat) : Core :=
  { c with calls := c.calls.filter (·.number != n) }

/-- Take the lock from the call that has it. -/
def release (c : Core) : Core :=
  { c with lock := c.lock.drop 1 }

/-- The loops of the generation that may run. -/
def current (c : Core) : List PollingLoop :=
  c.loops.filter fun l => c.generation == some l.generation

/-- A call at a stage goes on with what it has the lock for. -/
def HasTurn (c : Core) (n : Nat) (stage : Stage) : Prop :=
  (stage = .queued ∧ c.lock.head? = some n) ∨ ∃ settings, stage = .disconnecting settings

/-- What holds of the core of a scheduler at any time. -/
structure Sound (c : Core) : Prop where
  keyed : c.store.IsKeyed
  loopNumbers : (c.loops.map PollingLoop.number).Nodup
  loops_lt : ∀ l ∈ c.loops, l.number < c.numbered
  callNumbers : (c.calls.map Call.number).Nodup
  calls_lt : ∀ call ∈ c.calls, call.number < c.numbered
  runNumbers : (c.runs.map Run.number).Nodup
  runs_lt : ∀ run ∈ c.runs, run.number < c.numbered
  /-- No scenario is polled twice. -/
  scenarios : (c.loops.map PollingLoop.scenario).Nodup
  /-- Only the latest generation may run, and all loops are of it. -/
  current : ∀ g, c.generation = some g → g = c.generations ∧ ∀ l ∈ c.loops, l.generation = g
  /-- While no generation may run, a call waits for every loop. -/
  told : c.generation = none → ∀ l ∈ c.loops, ∃ call ∈ c.calls, ∃ told, call.stage = .clearing told ∧
    l.number ∈ told
  /-- The scenario of a loop that may run is loaded. -/
  loaded : ∀ l ∈ c.loops, c.generation = some l.generation → (c.loaded.find? l.scenario).isSome
  inside : ∀ call ∈ c.calls, call.stage.isInside = true → c.lock.head? = some call.number
  kinds : ∀ call ∈ c.calls, call.stage.suits call.kind = true
  quiet : ∀ call ∈ c.calls, call.stage.isQuiet = true → c.generation = none ∧ c.roster = {}
  settled : ∀ call ∈ c.calls, call.stage = .settling → c.loops = []

end Core

/-- An event that leaves what the watch of a loop has noted: neither a report nor a turn of that loop. -/
def Event.Spares (n : Nat) : Event → Prop
  | .report _ _ => False
  | .alarm (.loop m) => m ≠ n
  | _ => True

/-- Whether an event asks for a call. -/
def Event.asks : Event → Bool
  | .start | .reload | .stop => true
  | _ => false

/-- A run may be started: it is asked for by its id, a generation of loops may run, or someone waits for a key or a
message. -/
def Core.Starts (e : Event) (c : Core) : Prop :=
  (∃ id, e = .run id) ∨ c.generation ≠ none ∨ c.roster ≠ {}

/-- One change of the core in the course of an event. -/
inductive Move (e : Event) : Core → Core → Prop
  /-- Loops keep what their triggers remember. -/
  | triggers {c : Core} {loops : List PollingLoop} :
      loops.map PollingLoop.badge = c.loops.map PollingLoop.badge →
      (∀ l ∈ loops, e.Spares l.number → ∃ old ∈ c.loops, old.badge = l.badge ∧ old.trigger.edge? = l.trigger.edge?) →
      Move e c { c with loops := loops }
  /-- A loop ends at its turn, once its generation may not run. -/
  | endLoop {c : Core} {n : Nat} :
      e = .alarm (.loop n) → (∀ l ∈ c.loops, l.number = n → c.generation ≠ some l.generation) →
      Move e c { c with loops := c.loops.filter fun l => !([n].contains l.number) }
  /-- Loops that did not end in time are dropped. -/
  | dropLoops {c : Core} {n : Nat} {kind : CallKind} {told : List Nat} :
      ⟨n, kind, .clearing told⟩ ∈ c.calls →
      Move e c { c with loops := c.loops.filter fun l => !told.contains l.number }
  | spawn {c : Core} {scenario : Scenario} {load : Option Nat} {bindings : List (String × Value)} :
      c.Starts e →
      Move e c { c with
        runs := c.runs ++ [{ number := c.numbered, scenario := scenario, load := load, bindings := bindings }]
        numbered := c.numbered + 1 }
  | setRest {c : Core} {n : Nat} {rest : Execution} :
      e = .alarm (.run n) →
      Move e c { c with
        runs := c.runs.map fun r => if r.number == n then { r with rest := some rest } else r }
  | endRun {c : Core} {n : Nat} {success : Bool} :
      e = .alarm (.run n) →
      Move e c { c with runs := c.runs.filter (·.number != n), results := c.results ++ [(n, success)] }
  /-- A run of the present load notes when its scenario ran last. -/
  | stamp {c : Core} {run : Run} {time : Instant} :
      e = .alarm (.run run.number) → run ∈ c.runs → run.load = some c.loads →
      Move e c { c with
        loaded := c.loaded.map fun entry =>
          if entry.1 == run.scenario.id then (entry.1, { entry.2 with lastExecuted := some ⟨time, none⟩ })
          else entry }
  | rows {c : Core} {store : Store} :
      (c.store.IsKeyed → c.store.SameRows store) → Move e c { c with store := store }
  | ask {c : Core} {kind : CallKind} :
      e.asks = true →
      Move e c { c with
        calls := c.calls ++ [{ number := c.numbered, kind := kind }], numbered := c.numbered + 1 }
  | close {c : Core} {n : Nat} {inTime : Bool} :
      e.asks = true → ⟨n, .stop, .queued⟩ ∈ c.calls → Move e c (c.setStage n (.closing inTime))
  | queue {c : Core} {n : Nat} {kind : CallKind} {stage : Stage} :
      ⟨n, kind, stage⟩ ∈ c.calls → (stage = .queued ∨ ∃ inTime, stage = .closing inTime) →
      Move e c { c.setStage n .queued with lock := c.lock ++ [n] }
  | disconnect {c : Core} {n : Nat} {settings : Settings} :
      ⟨n, .load, .queued⟩ ∈ c.calls → c.lock.head? = some n →
      Move e c (c.setStage n (.disconnecting settings))
  /-- What was loaded ends, and its loops are told so. -/
  | clear {c : Core} {n : Nat} {kind : CallKind} {stage : Stage} :
      ⟨n, kind, stage⟩ ∈ c.calls → c.HasTurn n stage →
      Move e c { c.setStage n (.clearing (c.current.map PollingLoop.number)) with
        generation := none, roster := {} }
  /-- A load goes on once the loops that it told have ended. -/
  | settle {c : Core} {n : Nat} {told : List Nat} :
      ⟨n, .load, .clearing told⟩ ∈ c.calls → (∀ l ∈ c.loops, l.number ∉ told) →
      Move e c (c.setStage n .settling)
  /-- A stop hands on the lock once the loops that it told have ended. -/
  | leave {c : Core} {n : Nat} {told : List Nat} :
      ⟨n, .stop, .clearing told⟩ ∈ c.calls → (∀ l ∈ c.loops, l.number ∉ told) →
      Move e c (c.release.setStage n (.draining (c.runs.map Run.number)))
  | giveUp {c : Core} {n : Nat} {kind : CallKind} {numbers : List Nat} :
      e = .alarm (.call n) → ⟨n, kind, .draining numbers⟩ ∈ c.calls →
      Move e c { c with runs := c.runs.filter fun r => !numbers.contains r.number }
  /-- Stops end once the runs that they wait for are over. -/
  | endCalls {c : Core} {stays : Call → Bool} :
      (∀ call ∈ c.calls, stays call = false →
        ∃ numbers, call.stage = .draining numbers ∧ ∀ run ∈ c.runs, run.number ∉ numbers) →
      Move e c { c with calls := c.calls.filter stays }
  /-- A load ends with a fault. -/
  | fail {c : Core} {n : Nat} {stage : Stage} {fault : Fault} :
      ⟨n, .load, stage⟩ ∈ c.calls → c.HasTurn n stage →
      Move e c ({ c with failed := c.failed ++ [(n, fault)] }.endCall n).release
  /-- A load takes in the active scenarios of the store. -/
  | load {c : Core} {n : Nat} {scenarios : List Scenario} {added : List PollingLoop} :
      e = .alarm (.call n) → ⟨n, .load, .settling⟩ ∈ c.calls → c.store.list true = .ok scenarios →
      Taken (c.generations + 1) c.numbered scenarios added →
      Move e c ({ c with
        generation := some (c.generations + 1), generations := c.generations + 1
        loaded := kept scenarios, loads := c.loads + 1, roster := c.roster.enterAll scenarios
        loops := c.loops ++ added, numbered := c.numbered + added.length }.endCall n).release
  /-- A load cannot read the store. -/
  | loadNothing {c : Core} {n : Nat} :
      e = .alarm (.call n) → ⟨n, .load, .settling⟩ ∈ c.calls →
      Move e c ({ c with
        generation := some (c.generations + 1), generations := c.generations + 1 }.endCall n).release

/-- Changes of the core in the course of an event. -/
abbrev Moves (e : Event) : Core → Core → Prop :=
  Relation.ReflTransGen (Move e)

variable {s t : Scheduler} {e : Event}

theorem Moves.of_eq {c d : Core} (h : d = c) : Moves e c d := by
  rw [h]

theorem Move.moves {c d : Core} (h : Move e c d) : Moves e c d :=
  .single h

/-! ## Runs -/

theorem moves_spawn (h : s.core.Starts e) (scenario : Scenario) (load : Option Nat)
    (bindings : List (String × Value)) : Moves e s.core (s.spawn scenario load bindings).2.core :=
  Move.moves (.spawn h)

theorem moves_spawnLoaded (h : s.core.Starts e) (id : String) (bindings : List (String × Value)) :
    Moves e s.core (s.spawnLoaded id bindings).core := by
  rw [spawnLoaded]
  split
  · exact moves_spawn h _ _ bindings
  · exact .refl

theorem starts_spawnLoaded (h : s.core.Starts e) (id : String) (bindings : List (String × Value)) :
    (s.spawnLoaded id bindings).core.Starts e := by
  rw [spawnLoaded]
  split <;> exact h

theorem moves_startAll {ids : List String} (h : ids ≠ [] → s.core.Starts e) :
    Moves e s.core (s.startAll ids).core := by
  induction ids generalizing s with
  | nil => exact .refl
  | cons id rest ih =>
    have hstarts := h (List.cons_ne_nil id rest)
    exact (moves_spawnLoaded hstarts id []).trans (ih fun _ => starts_spawnLoaded hstarts id [])

theorem moves_noteInStore (s : Scheduler) (scenario : Scenario) (time : Instant) :
    Moves e s.core (s.noteInStore scenario time).core := by
  rw [noteInStore]
  split
  · exact .of_eq (core_report s _ _)
  · exact .of_eq (core_report s _ _)
  · next store hask =>
    have hstore : (s.store.setLastExecuted scenario.id ⟨time, none⟩).2 = store :=
      congrArg Prod.snd (Except.ok.inj (eq_of_ask hask))
    exact Move.moves (.rows fun hs => hstore ▸ Store.sameRows_setLastExecuted hs _ _)

theorem moves_noteLoaded {run : Run} (time : Instant) (he : e = .alarm (.run run.number))
    (hrun : run ∈ s.runs) : Moves e s.core (s.noteLoaded run time).core := by
  rw [noteLoaded]
  split
  · next hload => exact Move.moves (.stamp he hrun (beq_iff_eq.mp hload))
  · exact .refl

theorem moves_endRun (s : Scheduler) {n : Nat} (success : Bool) (he : e = .alarm (.run n)) :
    Moves e s.core (s.endRun n success).core :=
  Move.moves (.endRun he)

theorem moves_conclude {run : Run} (he : e = .alarm (.run run.number)) (hrun : run ∈ s.runs) :
    Moves e s.core (s.conclude run).core := by
  have hnote := moves_noteLoaded s.now he hrun
  have hstore := moves_noteInStore (e := e) (s.noteLoaded run s.now) run.scenario s.now
  rw [conclude]
  exact (hnote.trans hstore).trans (moves_endRun _ true he)

theorem moves_proceed {run : Run} (around : Surroundings) (state : RunState)
    (he : e = .alarm (.run run.number)) (hrun : run ∈ s.runs) :
    Moves e s.core ({ s with around := around }.proceed run state).core := by
  cases state with
  | ended success =>
    cases success with
    | false => exact moves_endRun { s with around := around } false he
    | true => exact moves_conclude (s := { s with around := around }) he hrun
  | waiting seconds rest => exact Move.moves (.setRest he)

theorem moves_wakeRun (s : Scheduler) (n : Nat) : Moves (.alarm (.run n)) s.core (s.wakeRun n).core := by
  rw [wakeRun]
  split
  · exact .refl
  · next run hfind =>
    have hrun : run ∈ s.runs := List.mem_of_find?_eq_some hfind
    have hn : run.number = n := by simpa using List.find?_some hfind
    have he : Event.alarm (.run n) = .alarm (.run run.number) := by rw [hn]
    split
    · next rest _ =>
      rcases rest.resume s.around with ⟨state, around⟩
      exact moves_proceed around state he hrun
    · split
      · next state around _ => exact moves_proceed around state he hrun
      · exact moves_endRun _ false rfl

theorem moves_runById (s : Scheduler) (id : String) : Moves (.run id) s.core (s.runById id).2.core := by
  have hstarts : s.core.Starts (.run id) := .inl ⟨id, rfl⟩
  rw [runById]
  split
  · exact moves_spawn hstarts _ _ _
  · split
    · exact .refl
    · exact .refl
    · exact moves_spawn hstarts _ _ _

/-! ## Loops -/

theorem moves_setLoop {l l' : PollingLoop} (he : e = .alarm (.loop l.number)) (hl : l ∈ s.loops)
    (hb : l'.badge = l.badge) (hnodup : (s.loops.map PollingLoop.number).Nodup) :
    Moves e s.core (s.setLoop l').core := by
  have hnumber : l'.number = l.number := (PollingLoop.badge_eq_iff.mp hb).1
  refine Move.moves (.triggers ?_ fun other hother hspares => ?_)
  · simp only [setLoop, List.map_map]
    refine List.map_congr_left fun old hold => ?_
    simp only [Function.comp_apply]
    split
    · next hn =>
      -- numbers are distinct, so the loop that is replaced is the one that took its turn
      have hnum : old.number = l.number := (beq_iff_eq.mp hn).trans hnumber
      rw [hb, List.inj_on_of_nodup_map hnodup hold hl hnum]
    · rfl
  · obtain ⟨old, hold, hother⟩ := List.mem_map.mp hother
    split at hother
    · rw [he, ← hother] at hspares
      exact absurd hnumber.symm hspares
    · exact ⟨old, hold, congrArg _ hother, congrArg (fun l => l.trigger.edge?) hother⟩

theorem moves_follow (h : s.core.Starts e) (l : PollingLoop) (turn : Turn) :
    Moves e s.core (s.follow l turn).core := by
  cases turn with
  | fires bindings => exact moves_spawnLoaded h l.scenario bindings
  | declines => exact .refl
  | raises fault => exact .of_eq (core_report s _ _)

theorem moves_takeTurn {l : PollingLoop} (he : e = .alarm (.loop l.number)) (hl : l ∈ s.loops)
    (hgen : s.generation = some l.generation) (hnodup : (s.loops.map PollingLoop.number).Nodup) :
    Moves e s.core (s.takeTurn l).core := by
  have hstarts : s.core.Starts e := .inr (.inl fun hnone => by cases hnone.symm.trans hgen)
  have hb := l.badge_look s.around.bot? (s.lastRun l.scenario) s.now
  rcases hlook : l.look s.around.bot? (s.lastRun l.scenario) s.now with ⟨turn, l'⟩
  rw [hlook] at hb
  simp only [takeTurn, hlook]
  exact (moves_setLoop he hl hb hnodup).trans (moves_follow (s := s.setLoop l') hstarts l' turn)

theorem moves_wakeLoop (n : Nat) (hnodup : (s.loops.map PollingLoop.number).Nodup) :
    Moves (.alarm (.loop n)) s.core (s.wakeLoop n).core := by
  rw [wakeLoop]
  split
  · exact .refl
  · next l hfind =>
    have hl : l ∈ s.loops := List.mem_of_find?_eq_some hfind
    have hn : l.number = n := by simpa using List.find?_some hfind
    split
    · next hgen => exact moves_takeTurn (by rw [hn]) hl (beq_iff_eq.mp hgen) hnodup
    · next hgen =>
      refine Move.moves (.endLoop rfl fun l' hl' hn' => ?_)
      rw [List.inj_on_of_nodup_map hnodup hl' hl (hn'.trans hn.symm)]
      exact fun h => hgen (beq_iff_eq.mpr h)

theorem badges_onReport (s : Scheduler) (directory : String) (r : ChangeReport) :
    (s.onReport directory r).2.loops.map PollingLoop.badge = s.loops.map PollingLoop.badge := by
  simp only [onReport, List.map_map]
  exact List.map_congr_left fun l _ => l.badge_reportTo _ _ _ _

theorem moves_onReport (s : Scheduler) (directory : String) (r : ChangeReport) :
    Moves (.report directory r) s.core (s.onReport directory r).2.core :=
  Move.moves (.triggers (s.badges_onReport directory r) fun _ _ hspares => hspares.elim)

/-! ## Keys and messages -/

theorem moves_onHotkey (s : Scheduler) (key modifiers : String) :
    Moves e s.core (s.onHotkey key modifiers).2.core := by
  refine moves_startAll fun hids => .inr (.inr fun hempty => hids ?_)
  rw [show s.roster = {} from hempty]
  rfl

theorem moves_onCommand (s : Scheduler) (text : String) : Moves e s.core (s.onCommand text).2.core := by
  refine moves_startAll fun hids => .inr (.inr fun hempty => hids ?_)
  rw [show s.roster = {} from hempty]
  rfl

theorem moves_onPress (s : Scheduler) (k : KeyPress) (injected : Bool) :
    Moves e s.core (s.onPress k injected).core := by
  rw [onPress]
  split
  · exact .refl
  · dsimp only
    generalize some (KeyboardHook.press _ k injected).2 = hook
    split
    · exact moves_onHotkey { s with hook := hook } _ _
    · exact .refl

theorem core_onRelease (s : Scheduler) (k : KeyPress) : (s.onRelease k).core = s.core := by
  rw [onRelease]
  split <;> rfl

theorem moves_onPaired (s : Scheduler) (chat : Int) : Moves e s.core (s.onPaired chat).core := by
  rcases onPaired_cases s chat with ⟨settings, h⟩ | ⟨_, h⟩ <;> rw [h]
  · exact Move.moves (.rows fun _ => Store.sameRows_save s.store settings)
  · exact .of_eq (core_report s _ _)

theorem moves_take (s : Scheduler) (d : Delivery) : Moves e s.core (s.take d).core := by
  rcases take_cases s d with h | ⟨text, h⟩ | ⟨chat, h⟩ <;> rw [h]
  · exact moves_onCommand s text
  · exact moves_onPaired s chat

theorem moves_foldl_take (s : Scheduler) (around : Surroundings) (ds : List Delivery) :
    Moves e s.core (ds.foldl take { s with around := around }).core := by
  induction ds generalizing s around with
  | nil => exact .refl
  | cons d rest ih => exact (moves_take { s with around := around } d).trans (ih (take _ d) _)

theorem moves_onMessage (s : Scheduler) (text : String) (chat : Int) :
    Moves e s.core (s.onMessage text chat).2.core := by
  rcases onMessage_cases s text chat with h | ⟨_, around, -, -, h⟩ <;> rw [h]
  exact moves_foldl_take s around _

theorem moves_onFetched (s : Scheduler) (connection : Nat) (text : String) (chat : Int) :
    Moves e s.core (s.onFetched connection text chat).core := by
  rcases onFetched_cases s connection text chat with h | h <;> rw [h]
  exact moves_onMessage s text chat

end Scheduler

end Deskhand
