import Deskhand.Proofs.Schedule.Attended
import Deskhand.Proofs.Schedule.Standing

/-!
# How runs come out

A run takes turns at its alarm: it starts to perform its scenario, or goes on with it (`Run.turn`). What performing
a scenario comes to decides everything else. A run that has performed every action is concluded: it is noted when
its scenario ran last, the run is counted, and every subscriber is told. Any other run leaves nothing but its
outcome. Neither a store that refuses the note nor a subscriber that fails makes a difference to that, and no other
event counts a run or tells of one. Main statements:

* `publish_spec`: who is told of an event, and who is a subscriber afterwards;
* `concludes_conclude`: what concluding a run changes;
* `IsNew.tallied`: the count is that of the runs that succeeded, and no run comes out twice;
* `IsNew.outcomes`: what becomes of runs at every event of every history.
-/

namespace Deskhand

namespace NoticeBoard

theorem subscribers_tell (b : NoticeBoard) (subscriber : String × Reaction) :
    (b.tell subscriber).subscribers = b.subscribers.filter fun other => (other.1, .leaves) ≠ subscriber := by
  rcases subscriber with ⟨name, reaction⟩
  cases reaction with
  | leaves => simp [tell, unsubscribe, bne, beq_eq_decide]
  | stays => simp [tell]
  | fails reason => simp [tell]

theorem foldl_tell (subscribers : List (String × Reaction)) (told : List String) (b : NoticeBoard) :
    subscribers.foldl (fun (told, board) subscriber => (told ++ [subscriber.1], board.tell subscriber)) (told, b) =
      (told ++ subscribers.map Prod.fst,
        ⟨b.subscribers.filter fun other => (other.1, .leaves) ∉ subscribers⟩) := by
  induction subscribers generalizing told b with
  | nil => simp
  | cons subscriber rest ih =>
    rw [List.foldl_cons, ih, subscribers_tell, List.filter_filter]
    simp [Bool.and_comm]

/-- Everyone who is a subscriber is told, in order, and all stay but those that leave. -/
theorem publish_spec (b : NoticeBoard) :
    b.publish = (b.subscribers.map Prod.fst,
      ⟨b.subscribers.filter fun subscriber => (subscriber.1, .leaves) ∉ b.subscribers⟩) :=
  foldl_tell b.subscribers [] b

end NoticeBoard

namespace Execution

/-- Anything may happen while a run waits. -/
def anything : Meanwhile :=
  fun _ _ _ => True

/-- What performing a scenario may come to: a fault before any action, or the end of its actions. -/
inductive Performs (s : Scenario) (bindings : List (String × Value)) : Except Fault Bool → Prop
  | crashed {fault : Fault} {w w' : Surroundings} :
      start s true bindings w = (.error fault, w') → Performs s bindings (.error fault)
  | finished {state : RunState} {success : Bool} {w w' w'' : Surroundings} :
      start s true bindings w = (.ok state, w') → Finishes anything state w' success w'' →
      Performs s bindings (.ok success)

/-- What performing a scenario has left, so that going on with it is performing the scenario. -/
def IsRest (s : Scenario) (bindings : List (String × Value)) (rest : Execution) : Prop :=
  ∀ w success w', Finishes anything (rest.resume w).1 (rest.resume w).2 success w' →
    ∃ w₀ state w₁, start s true bindings w₀ = (.ok state, w₁) ∧ Finishes anything state w₁ success w'

theorem isRest_of_start {s : Scenario} {bindings : List (String × Value)} {w w' : Surroundings} {seconds : Float}
    {rest : Execution} (h : start s true bindings w = (.ok (.waiting seconds rest), w')) :
    IsRest s bindings rest :=
  fun _ _ _ hfinishes => ⟨w, _, w', h, .waited trivial hfinishes⟩

theorem IsRest.resume {s : Scenario} {bindings : List (String × Value)} {rest rest' : Execution}
    (h : IsRest s bindings rest) {w w' : Surroundings} {seconds : Float}
    (hresume : rest.resume w = (.waiting seconds rest', w')) : IsRest s bindings rest' := by
  intro w₁ success w₂ hfinishes
  refine h w success w₂ ?_
  rw [hresume]
  exact .waited trivial hfinishes

end Execution

/-- A turn of a run: it starts to perform its scenario, or goes on with it. -/
def Run.turn (run : Run) (w : Surroundings) : Except Fault RunState × Surroundings :=
  match run.rest with
  | some rest => (.ok (rest.resume w).1, (rest.resume w).2)
  | none => Execution.start run.scenario true run.bindings w

namespace Run

/-- What is left of a run is what performing its scenario has left. -/
def IsInCourse (run : Run) : Prop :=
  ∀ rest, run.rest = some rest → Execution.IsRest run.scenario run.bindings rest

variable {run : Run} {w w' : Surroundings}

theorem chat_turn (run : Run) (w : Surroundings) : (run.turn w).2.chat = w.chat := by
  rw [turn]
  split
  · exact Execution.chat_resume _ w
  · exact Execution.chat_start _ _ _ w

/-- A turn that ends a run ends performing its scenario. -/
theorem performs_of_turn (h : run.IsInCourse) {success : Bool} (hturn : run.turn w = (.ok (.ended success), w')) :
    Execution.Performs run.scenario run.bindings (.ok success) := by
  rw [turn] at hturn
  split at hturn
  · next rest hrest =>
    obtain ⟨hstate, -⟩ := Prod.mk.inj hturn
    have hends : Execution.Finishes Execution.anything (rest.resume w).1 (rest.resume w).2 success
        (rest.resume w).2 := by
      rw [Except.ok.inj hstate]
      exact .ended
    obtain ⟨w₀, state, w₁, hstart, hfinishes⟩ := h rest hrest w success _ hends
    exact .finished hstart hfinishes
  · exact .finished hturn .ended

theorem performs_of_crash {fault : Fault} (hturn : run.turn w = (.error fault, w')) :
    Execution.Performs run.scenario run.bindings (.error fault) := by
  rw [turn] at hturn
  split at hturn
  · simp at hturn
  · exact .crashed hturn

theorem IsInCourse.setRest (h : run.IsInCourse) {seconds : Float} {rest : Execution}
    (hturn : run.turn w = (.ok (.waiting seconds rest), w')) : { run with rest := some rest }.IsInCourse := by
  intro rest' hrest'
  obtain rfl : rest = rest' := Option.some.inj hrest'
  rw [turn] at hturn
  split at hturn
  · next old hold =>
    obtain ⟨hstate, -⟩ := Prod.mk.inj hturn
    have hresume : old.resume w = (.waiting seconds rest, (old.resume w).2) :=
      Prod.ext (Except.ok.inj hstate) rfl
    exact (h old hold).resume hresume
  · exact Execution.isRest_of_start hturn

end Run

namespace Scheduler

/-! ## One run -/

/-- What is noted in the log when the store does not take the note of when a scenario ran last. -/
def refusals (s : Scheduler) (scenario : Scenario) (time : Instant) : List LogRecord :=
  match s.ask .setLastExecuted (.ok (s.store.setLastExecuted scenario.id ⟨time, none⟩)) with
  | .error fault => [⟨time, .error, source, unsaved scenario fault.message⟩]
  | .ok (.error refusal, _) => [⟨time, .warning, source, unsaved scenario refusal.message⟩]
  | .ok (.ok _, _) => []

/-- What is noted in the log when subscribers fail. -/
def complaints (s : Scheduler) (time : Instant) : List LogRecord :=
  s.board.complaints.map fun message => ⟨time, .error, NoticeBoard.source, message⟩

/-- A run is concluded at an instant, with what is noted in the log beyond some records: its scenario is noted as
having run last then, by whoever takes the note, the run is counted, and everyone is told. -/
structure Concludes (s t : Scheduler) (run : Run) (time : Instant) (log : List LogRecord) : Prop where
  runs : t.runs = s.runs.filter (·.number != run.number)
  results : t.results = s.results ++ [(run.number, true)]
  executed : t.executed = s.executed + 1
  /-- The loaded scenario shows it, if the run is of the present load. -/
  loaded : t.loaded =
    if run.load = some s.loads then
      s.loaded.map fun entry =>
        if entry.1 = run.scenario.id then (entry.1, { entry.2 with lastExecuted := some ⟨time, none⟩ }) else entry
    else s.loaded
  /-- The row of the scenario shows it, if the store is in order. -/
  rows : t.store.rows =
    if s.outage.contains .setLastExecuted then s.store.rows
    else s.store.rows.map fun r =>
      if r.id = run.scenario.id then { r with lastExecuted := .text (Stamp.text ⟨time, none⟩) } else r
  /-- Every subscriber is told once, in order. -/
  announced : ∃ status : SchedulerStatus,
    t.announced = s.announced ++
      s.board.subscribers.map (fun subscriber => ⟨subscriber.1, run.scenario.id, time, status⟩) ∧
    status.executed = s.executed + 1
  /-- Those stay subscribers that do not leave. -/
  board : t.board.subscribers =
    s.board.subscribers.filter fun subscriber => (subscriber.1, .leaves) ∉ s.board.subscribers
  log : t.around.log = log ++ s.refusals run.scenario time ++ s.complaints time

/-- A run leaves nothing but that it has failed. -/
structure Fails (s t : Scheduler) (run : Run) : Prop where
  runs : t.runs = s.runs.filter (·.number != run.number)
  results : t.results = s.results ++ [(run.number, false)]
  executed : t.executed = s.executed
  loaded : t.loaded = s.loaded
  rows : t.store.rows = s.store.rows
  announced : t.announced = s.announced
  board : t.board = s.board

/-- An event neither concludes a run nor lets one fail. -/
structure CountsNothing (e : Event) (s t : Scheduler) : Prop where
  results : t.results = s.results
  executed : t.executed = s.executed
  /-- The loaded scenarios stay as they are, unless they are loaded anew. -/
  loaded : t.loaded = s.loaded ∨ ∃ n, e = .alarm (.call n)
  /-- The rows stay as they are, unless someone else changes the store. -/
  rows : t.store.rows = s.store.rows ∨ ∃ kept, e = .store kept
  announced : t.announced = s.announced ∨ ∃ scene, e = .scene scene
  board : t.board = s.board ∨ ∃ scene, e = .scene scene

theorem log_report_foldl (messages : List String) (source : String) (w : Surroundings) :
    (messages.foldl (fun w message => w.report .error source message) w).log =
      w.log ++ messages.map fun message => ⟨w.now, .error, source, message⟩ := by
  induction messages generalizing w with
  | nil => simp
  | cons message rest ih =>
    rw [List.foldl_cons, ih]
    simp [Surroundings.report, Surroundings.now]

/-- Noting when a scenario ran last changes its row and no other. -/
theorem rows_setLastExecuted {s : Store} (hs : s.IsKeyed) (id : String) (time : Stamp) :
    (s.setLastExecuted id time).2.rows =
      s.rows.map fun r => if r.id = id then { r with lastExecuted := .text time.text } else r := by
  rw [Store.setLastExecuted]
  split
  · next hnone =>
    have hout : ∀ r ∈ s.rows, r.id ≠ id := fun r hr hid =>
      Store.row?_eq_none_iff.mp hnone (hid ▸ List.mem_map_of_mem hr)
    calc s.rows = s.rows.map fun r => r := (List.map_id' s.rows).symm
      _ = _ := List.map_congr_left fun r hr => (if_neg (hout r hr)).symm
  · next r hr =>
    refine List.map_congr_left fun old hold => ?_
    by_cases hid : old.id = id
    · rw [if_pos hid, if_pos (beq_iff_eq.mpr hid), hs.eq_of_row? hr hold hid]
    · rw [if_neg hid, if_neg (by simpa using hid)]

theorem noteLoaded_eq (s : Scheduler) (run : Run) (time : Instant) :
    ∃ loaded, s.noteLoaded run time = { s with loaded := loaded } ∧
      loaded =
        if run.load = some s.loads then
          s.loaded.map fun entry =>
            if entry.1 = run.scenario.id then (entry.1, { entry.2 with lastExecuted := some ⟨time, none⟩ })
            else entry
        else s.loaded := by
  rw [noteLoaded]
  by_cases hload : run.load = some s.loads
  · exact ⟨_, if_pos (by simpa using hload), by simp [hload]⟩
  · exact ⟨s.loaded, if_neg (by simpa using hload), by simp [hload]⟩

/-- The note in the store changes a row, or leaves a record of why it was not taken. -/
theorem noteInStore_eq (s : Scheduler) (scenario : Scenario) :
    ∃ store, s.noteInStore scenario s.now =
        { s with
          store := store
          around := { s.around with log := s.around.log ++ s.refusals scenario s.now } } ∧
      store.rows = if s.outage.contains .setLastExecuted then s.store.rows
        else (s.store.setLastExecuted scenario.id ⟨s.now, none⟩).2.rows := by
  rw [noteInStore, refusals, ask]
  by_cases hout : s.outage.contains .setLastExecuted = true
  · rw [if_pos hout, if_pos hout]
    exact ⟨s.store, rfl, rfl⟩
  · rw [if_neg hout, if_neg hout]
    cases hrow : s.store.row? scenario.id with
    | none =>
      simp only [Store.setLastExecuted, hrow]
      exact ⟨s.store, rfl, rfl⟩
    | some r =>
      simp only [Store.setLastExecuted, hrow, List.append_nil]
      exact ⟨_, rfl, rfl⟩

/-- Concluding a run at the instant at which it ends. -/
theorem concludes_conclude {s : Scheduler} (hs : s.store.IsKeyed) (run : Run) :
    Concludes s (s.conclude run) run s.now s.around.log := by
  obtain ⟨loaded, hloaded, hnewer⟩ := noteLoaded_eq s run s.now
  obtain ⟨store, hnoted, hrows⟩ := noteInStore_eq { s with loaded := loaded } run.scenario
  have hnoted : ({ s with loaded := loaded } : Scheduler).noteInStore run.scenario s.now = _ := hnoted
  rw [conclude, hloaded, hnoted]
  simp only [announce, s.board.publish_spec]
  exact
    { runs := rfl
      results := rfl
      executed := rfl
      loaded := hnewer
      rows := hrows.trans (by rw [rows_setLastExecuted hs]; rfl)
      announced := ⟨_, congrArg (s.announced ++ ·) List.map_map, rfl⟩
      board := rfl
      log := log_report_foldl _ _ _ }

/-! ## One event -/

variable {s : Scheduler} {e : Event}

/-- What a step of the standing that is no turn of a run counts. -/
theorem Standing.Step.counts {st st' : Standing} (h : Step e st st') (he : ∀ n, e ≠ .alarm (.run n)) :
    st'.results = st.results ∧ st'.executed = st.executed ∧
      (st'.loaded = st.loaded ∨ ∃ n, e = .alarm (.call n)) ∧ (st'.rows = st.rows ∨ ∃ kept, e = .store kept) ∧
      (st'.announced = st.announced ∨ ∃ scene, e = .scene scene) ∧
      (st'.board = st.board ∨ ∃ scene, e = .scene scene) := by
  cases h with
  | turn _ _ _ => exact absurd rfl (he _)
  | load => exact ⟨rfl, rfl, .inr ⟨_, rfl⟩, .inl rfl, .inl rfl, .inl rfl⟩
  | store => exact ⟨rfl, rfl, .inl rfl, .inr ⟨_, rfl⟩, .inl rfl, .inl rfl⟩
  | scene => exact ⟨rfl, rfl, .inl rfl, .inl rfl, .inr ⟨_, rfl⟩, .inr ⟨_, rfl⟩⟩
  | _ => exact ⟨rfl, rfl, .inl rfl, .inl rfl, .inl rfl, .inl rfl⟩

theorem CountsNothing.of_step {t : Scheduler} (h : Standing.Step e s.standing t.standing)
    (he : ∀ n, e ≠ .alarm (.run n)) : CountsNothing e s t := by
  obtain ⟨hresults, hexecuted, hloaded, hrows, hannounced, hboard⟩ := h.counts he
  exact ⟨hresults, hexecuted, hloaded, hrows, hannounced, hboard⟩

theorem CountsNothing.of_standing {t : Scheduler} (h : t.standing = s.standing) : CountsNothing e s t :=
  ⟨congrArg Standing.results h, congrArg Standing.executed h, .inl (congrArg Standing.loaded h),
    .inl (congrArg Standing.rows h), .inl (congrArg Standing.announced h), .inl (congrArg Standing.board h)⟩

/-- The run that an event lets come out, and what performing its scenario came to. -/
def ending? (s : Scheduler) : Event → Option (Run × Except Fault Bool)
  | .alarm (.run n) =>
    (s.runs.find? (·.number == n)).bind fun run =>
      match (run.turn s.around).1 with
      | .ok (.ended success) => some (run, .ok success)
      | .ok (.waiting _ _) => none
      | .error fault => some (run, .error fault)
  | _ => none

/-- What becomes of a run whose scenario came to something. -/
def ComesOut (s t : Scheduler) (run : Run) : Except Fault Bool → Prop
  | .ok true => Concludes s t run (run.turn s.around).2.now (run.turn s.around).2.log
  | .ok false | .error _ => Fails s t run

/-- A turn of a run. -/
theorem wakeRun_of_find {n : Nat} {run : Run} (h : s.runs.find? (·.number == n) = some run) :
    s.wakeRun n =
      match run.turn s.around with
      | (.ok state, around) => { s with around := around }.proceed run state
      | (.error fault, around) =>
        ({ s with around := around }.report .error
          ("Scenario '" ++ run.scenario.name ++ "' crashed: " ++ fault.message)).endRun n false := by
  rw [wakeRun, h]
  dsimp only
  cases hrest : run.rest with
  | some rest => simp only [Run.turn, hrest]
  | none =>
    rcases hstart : Execution.start run.scenario true run.bindings s.around with ⟨outcome, around⟩
    cases outcome <;> simp only [Run.turn, hrest, hstart]

/-- Going on with calls after a turn of a run leaves what the turn has come to. -/
theorem ring_run_frame (s : Scheduler) (n : Nat) :
    (s.ring (.run n)).standing = (s.wakeRun n).standing ∧ (s.ring (.run n)).runs = (s.wakeRun n).runs ∧
      (s.ring (.run n)).around = (s.wakeRun n).around := by
  obtain ⟨hruns, -, -, haround⟩ := followClearing_frame (s.wakeRun n)
  exact ⟨standing_ring s (.run n), hruns, haround⟩

/-- A turn of a run that neither concludes it nor lets it fail. -/
theorem runs_wakeRun_waiting {n : Nat} {run : Run} (h : s.runs.find? (·.number == n) = some run)
    {seconds : Float} {rest : Execution} {around : Surroundings}
    (hturn : run.turn s.around = (.ok (.waiting seconds rest), around)) :
    (s.wakeRun n).standing = s.standing ∧
      (s.wakeRun n).runs = s.runs.map fun r => if r.number == run.number then { r with rest := some rest } else r := by
  have hchat := run.chat_turn s.around
  rw [hturn] at hchat
  rw [wakeRun_of_find h, hturn]
  exact ⟨standing_around s (Surroundings.listeners?_congr hchat), rfl⟩

/-- What a run did to the surroundings before, and what goes on with calls afterwards, make no difference to its
conclusion. -/
theorem Concludes.congr {t t' : Scheduler} {around : Surroundings} {run : Run} {time : Instant}
    {log : List LogRecord} (h : Concludes { s with around := around } t run time log)
    (hstanding : t'.standing = t.standing) (hruns : t'.runs = t.runs) (haround : t'.around = t.around) :
    Concludes s t' run time log where
  runs := hruns.trans h.runs
  results := (congrArg Standing.results hstanding).trans h.results
  executed := (congrArg Standing.executed hstanding).trans h.executed
  loaded := (congrArg Standing.loaded hstanding).trans h.loaded
  rows := (congrArg Standing.rows hstanding).trans h.rows
  announced := by
    rw [show t'.announced = t.announced from congrArg Standing.announced hstanding]
    exact h.announced
  board := (congrArg (fun standing => standing.board.subscribers) hstanding).trans h.board
  log := by
    rw [haround]
    exact h.log

theorem fails_endRun {t : Scheduler} (s : Scheduler) (around : Surroundings) (run : Run)
    (hstanding : t.standing = ({ s with around := around }.endRun run.number false).standing)
    (hruns : t.runs = s.runs.filter (·.number != run.number)) : Fails s t run where
  runs := hruns
  results := congrArg Standing.results hstanding
  executed := congrArg Standing.executed hstanding
  loaded := congrArg Standing.loaded hstanding
  rows := congrArg Standing.rows hstanding
  announced := congrArg Standing.announced hstanding
  board := congrArg Standing.board hstanding

theorem ending?_eq_some {run : Run} {result : Except Fault Bool} (h : s.ending? e = some (run, result)) :
    e = .alarm (.run run.number) ∧ s.runs.find? (·.number == run.number) = some run ∧
      (run.turn s.around).1 = result.map RunState.ended := by
  rw [ending?.eq_def] at h
  split at h
  · next n =>
    obtain ⟨run', hfind, hends⟩ := Option.bind_eq_some_iff.mp h
    obtain rfl : run'.number = n := by simpa using List.find?_some hfind
    split at hends
    · next success hturn =>
      obtain ⟨rfl, rfl⟩ := Prod.mk.inj (Option.some.inj hends)
      exact ⟨rfl, hfind, hturn⟩
    · cases hends
    · next fault hturn =>
      obtain ⟨rfl, rfl⟩ := Prod.mk.inj (Option.some.inj hends)
      exact ⟨rfl, hfind, hturn⟩
  · cases h

/-- A run comes out as performing its scenario does. -/
theorem comesOut_after (hs : s.store.IsKeyed) {run : Run} {result : Except Fault Bool}
    (h : s.ending? e = some (run, result)) : ComesOut s (s.after e) run result := by
  obtain ⟨rfl, hfind, hturn⟩ := ending?_eq_some h
  obtain ⟨hstanding, hruns, haround⟩ := ring_run_frame s run.number
  have hwake := wakeRun_of_find hfind
  rcases hr : run.turn s.around with ⟨outcome, around⟩
  rw [hr] at hwake hturn
  obtain rfl : outcome = result.map RunState.ended := hturn
  cases result with
  | error fault =>
    refine fails_endRun s around run ?_ ?_
    · rw [after, hstanding, hwake]
      rfl
    · rw [after, hruns, hwake]
      rfl
  | ok success =>
    cases success with
    | false =>
      refine fails_endRun s around run ?_ ?_
      · rw [after, hstanding, hwake]
        rfl
      · rw [after, hruns, hwake]
        rfl
    | true =>
      have hconcludes := concludes_conclude (s := { s with around := around }) hs run
      rw [hwake] at hstanding hruns haround
      rw [ComesOut, hr]
      exact hconcludes.congr hstanding hruns haround

/-- A turn at which no run comes out: there is no run to take it, or it goes on later. -/
theorem wakeRun_of_none {n : Nat} (h : s.ending? (.alarm (.run n)) = none) :
    s.wakeRun n = s ∨ ∃ run seconds rest around, s.runs.find? (·.number == n) = some run ∧
      run.turn s.around = (.ok (.waiting seconds rest), around) := by
  rw [ending?] at h
  cases hfind : s.runs.find? (·.number == n) with
  | none =>
    refine .inl ?_
    rw [wakeRun, hfind]
  | some run =>
    rw [hfind, Option.bind_some] at h
    rcases hr : run.turn s.around with ⟨outcome, around⟩
    rw [hr] at h
    cases outcome with
    | error fault => cases h
    | ok state =>
      cases state with
      | ended success => cases h
      | waiting seconds rest => exact .inr ⟨run, seconds, rest, around, rfl, hr⟩

theorem countsNothing_of_none (h : s.ending? e = none) : CountsNothing e s (s.after e) := by
  by_cases he : ∃ n, e = .alarm (.run n)
  · obtain ⟨n, rfl⟩ := he
    obtain ⟨hstanding, -, -⟩ := ring_run_frame s n
    refine .of_standing (hstanding.trans ?_)
    rcases wakeRun_of_none h with hsame | ⟨run, seconds, rest, around, hfind, hturn⟩
    · rw [hsame]
    · exact (runs_wakeRun_waiting hfind hturn).1
  · exact .of_step (step_after s e) fun n hn => he ⟨n, hn⟩

/-! ## Every history -/

/-- What holds of runs over every history. -/
structure Tallied (new s : Scheduler) : Prop where
  /-- The runs that succeeded were counted, and no others. -/
  executed : s.executed = new.executed + s.results.countP (·.2)
  /-- No run comes out twice. -/
  distinct : (s.results.map Prod.fst).Nodup
  unfinished : ∀ run ∈ s.runs, run.number ∉ s.results.map Prod.fst
  results_lt : ∀ n ∈ s.results.map Prod.fst, n < s.numbered
  /-- Runs go on with what performing their scenarios has left. -/
  inCourse : ∀ run ∈ s.runs, run.IsInCourse

namespace Core

/-- A change of the core in the course of an event that is no turn of a run keeps runs as they are, or drops them,
and new ones have new numbers. -/
theorem runs_of_move {c d : Core} (h : Move e c d) (he : ∀ n, e ≠ .alarm (.run n)) {run : Run}
    (hrun : run ∈ d.runs) : run ∈ c.runs ∨ c.numbered ≤ run.number ∧ run.rest = none := by
  cases h with
  | spawn _ =>
    rcases List.mem_append.mp hrun with hold | hnew
    · exact .inl hold
    · obtain rfl := List.mem_singleton.mp hnew
      exact .inr ⟨Nat.le_refl _, rfl⟩
  | setRest hown => exact absurd hown (he _)
  | endRun hown => exact absurd hown (he _)
  | giveUp _ _ => exact .inl (List.mem_of_mem_filter hrun)
  | _ => exact .inl hrun

end Core

theorem numbered_le_after (hs : s.core.Sound) (e : Event) : s.numbered ≤ (s.after e).numbered :=
  after_induction (P := fun d => s.numbered ≤ d.numbered) hs (Nat.le_refl _) (fun _ _ => Nat.le_refl _)
    fun _ _ _ hmove hc => Nat.le_trans hc (Core.numbered_le_of_move hmove)

theorem runs_after (hs : s.core.Sound) (he : ∀ n, e ≠ .alarm (.run n)) :
    ∀ run ∈ (s.after e).runs, run ∈ s.runs ∨ s.numbered ≤ run.number ∧ run.rest = none := by
  let P : Core → Prop := fun d => s.numbered ≤ d.numbered ∧
    ∀ run ∈ d.runs, run ∈ s.runs ∨ s.numbered ≤ run.number ∧ run.rest = none
  have hself : P s.core := ⟨Nat.le_refl _, fun run hrun => .inl hrun⟩
  refine (after_induction (P := P) hs hself (fun _ _ => hself) fun c d hsound hmove hc => ?_).2
  refine ⟨Nat.le_trans hc.1 (Core.numbered_le_of_move hmove), fun run hrun => ?_⟩
  rcases Core.runs_of_move hmove he hrun with hold | ⟨hnew, hrest⟩
  · exact hc.2 run hold
  · exact .inr ⟨Nat.le_trans hc.1 hnew, hrest⟩

/-- The runs after an event at which none comes out. -/
theorem runs_of_none (hs : s.core.Sound) (h : s.ending? e = none) :
    ∀ run' ∈ (s.after e).runs, (∃ run ∈ s.runs, run'.number = run.number ∧ (run.IsInCourse → run'.IsInCourse)) ∨
      s.numbered ≤ run'.number ∧ run'.IsInCourse := by
  by_cases he : ∃ n, e = .alarm (.run n)
  · obtain ⟨n, rfl⟩ := he
    obtain ⟨-, hruns, -⟩ := ring_run_frame s n
    rw [after, hruns]
    rcases wakeRun_of_none h with hsame | ⟨run, seconds, rest, around, hfind, hturn⟩
    · rw [hsame]
      exact fun run hrun => .inl ⟨run, hrun, rfl, id⟩
    · rw [(runs_wakeRun_waiting hfind hturn).2]
      intro run' hrun'
      obtain ⟨old, hold, rfl⟩ := List.mem_map.mp hrun'
      refine .inl ⟨old, hold, ?_⟩
      split
      · next hn =>
        -- numbers are distinct, so this is the run that took its turn
        obtain rfl : old = run := List.inj_on_of_nodup_map hs.runNumbers hold (List.mem_of_find?_eq_some hfind)
          (beq_iff_eq.mp hn)
        exact ⟨rfl, fun hcourse => hcourse.setRest hturn⟩
      · exact ⟨rfl, id⟩
  · intro run' hrun'
    rcases runs_after hs (fun n hn => he ⟨n, hn⟩) run' hrun' with hold | ⟨hnew, hrest⟩
    · exact .inl ⟨run', hold, rfl, id⟩
    · exact .inr ⟨hnew, fun rest hsome => by simp [hrest] at hsome⟩

theorem IsNew.tallied_self {new : Scheduler} (hnew : IsNew new) : Tallied new new := by
  have hruns : new.runs = [] := congrArg Core.runs hnew.core
  have hresults : new.results = [] := congrArg Core.results hnew.core
  constructor <;> simp [hruns, hresults]

/-- A run that comes out is counted where it has succeeded, and never comes out again. -/
theorem Tallied.ends {new t : Scheduler} (h : Tallied new s) (hs : s.core.Sound) {run : Run} (hrun : run ∈ s.runs)
    (success : Bool) (hexecuted : t.executed = s.executed + success.toNat)
    (hresults : t.results = s.results ++ [(run.number, success)])
    (hruns : t.runs = s.runs.filter (·.number != run.number)) (hnumbered : s.numbered ≤ t.numbered) :
    Tallied new t where
  executed := by
    rw [hexecuted, hresults, List.countP_append, h.executed]
    cases success <;> simp [Nat.add_assoc]
  distinct := by
    rw [hresults, List.map_append, List.map_singleton]
    refine List.nodup_append'.mpr ⟨h.distinct, List.nodup_singleton _, ?_⟩
    rw [List.disjoint_singleton]
    exact h.unfinished run hrun
  unfinished := by
    intro other hother
    rw [hruns] at hother
    obtain ⟨hother, hne⟩ := List.mem_filter.mp hother
    rw [hresults, List.map_append, List.map_singleton, List.mem_append, List.mem_singleton]
    rintro (hover | hsame)
    · exact h.unfinished other hother hover
    · simp [hsame] at hne
  results_lt := by
    intro n hn
    rw [hresults, List.map_append, List.map_singleton, List.mem_append, List.mem_singleton] at hn
    refine Nat.lt_of_lt_of_le ?_ hnumbered
    rcases hn with hn | rfl
    · exact h.results_lt n hn
    · exact hs.runs_lt run hrun
  inCourse := by
    intro other hother
    rw [hruns] at hother
    exact h.inCourse other (List.mem_of_mem_filter hother)

theorem Tallied.after {new : Scheduler} (h : Tallied new s) (hs : s.core.Sound) (e : Event) :
    Tallied new (s.after e) := by
  have hnumbered := numbered_le_after hs e
  cases hends : s.ending? e with
  | none =>
    have hcounts := countsNothing_of_none hends
    have hruns := runs_of_none hs hends
    refine ⟨?_, ?_, fun run' hrun' => ?_, fun n hn => ?_, fun run' hrun' => ?_⟩
    · rw [hcounts.executed, hcounts.results, h.executed]
    · rw [hcounts.results]
      exact h.distinct
    · rw [hcounts.results]
      rcases hruns run' hrun' with ⟨run, hrun, hn, -⟩ | ⟨hn, -⟩
      · rw [hn]
        exact h.unfinished run hrun
      · exact fun hover => absurd (h.results_lt _ hover) (Nat.not_lt.mpr hn)
    · rw [hcounts.results] at hn
      exact Nat.lt_of_lt_of_le (h.results_lt n hn) hnumbered
    · rcases hruns run' hrun' with ⟨run, hrun, -, hcourse⟩ | ⟨-, hcourse⟩
      · exact hcourse (h.inCourse run hrun)
      · exact hcourse
  | some ended =>
    obtain ⟨run, result⟩ := ended
    obtain ⟨-, hfind, -⟩ := ending?_eq_some hends
    have hrun : run ∈ s.runs := List.mem_of_find?_eq_some hfind
    have hout := comesOut_after hs.keyed hends
    cases result with
    | error fault => exact h.ends hs hrun false hout.executed hout.results hout.runs hnumbered
    | ok success =>
      cases success with
      | true => exact h.ends hs hrun true hout.executed hout.results hout.runs hnumbered
      | false => exact h.ends hs hrun false hout.executed hout.results hout.runs hnumbered

/-- What performing a scenario came to when its run came out. -/
theorem Tallied.performs {new : Scheduler} (h : Tallied new s) {run : Run} {result : Except Fault Bool}
    (hends : s.ending? e = some (run, result)) :
    Execution.Performs run.scenario run.bindings result := by
  obtain ⟨-, hfind, hturn⟩ := ending?_eq_some hends
  rcases hr : run.turn s.around with ⟨outcome, around⟩
  rw [hr] at hturn
  obtain rfl : outcome = result.map RunState.ended := hturn
  cases result with
  | error fault => exact Run.performs_of_crash hr
  | ok success => exact Run.performs_of_turn (h.inCourse run (List.mem_of_find?_eq_some hfind)) hr

theorem IsNew.tallied {new : Scheduler} (hnew : IsNew new) {es : List Event} (hes : ∀ e ∈ es, e.Fits) :
    (new.afterAll es).core.Sound ∧ Tallied new (new.afterAll es) := by
  have hleads : Leads new (new.afterAll es) := ⟨es, hes, rfl⟩
  exact hleads.induction (P := fun s => s.core.Sound ∧ Tallied new s) ⟨hnew.sound, hnew.tallied_self⟩
    fun s e he hs => ⟨sound_after hs.1 he, hs.2.after hs.1 e⟩

/-- A row with an active scenario that has no actions. -/
def idleRow : Row :=
  { id := "a", name := "Idle", active := .int 1
    blocks := "[\x7b\"Type\":\"HotkeyTrigger\",\"Id\":\"t\",\"Parameters\":\x7b\"Key\":\"F1\"\x7d\x7d]" }

/-- A new scheduler over that row, with a store that takes no notes, a subscriber that fails and one that leaves. -/
def beset : Scheduler :=
  { ofRows [idleRow] none with
    outage := [.setLastExecuted], board := ⟨[("failing", .fails "no disk"), ("leaving", .leaves)]⟩ }

/-- The scenario is loaded, and two runs of it are under way. -/
def crowd : List Event :=
  [.reload, .alarm (.call 0), .run "a", .run "a"]

end Scheduler

end Deskhand
