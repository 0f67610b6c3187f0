import Deskhand.Proofs.Schedule.Outcomes

/-!
# A single run that is waited for

A scheduler that has nothing to do but one forced run lets time pass until the run is over. The run leaves no
trace in the store unless it succeeds. Main statements:

* `Agenda.next?_eq_some`: the alarm that rings next is one that was set, and is taken out;
* `IsIdle.runById`: a run that is asked for is all that there is to do;
* `Alone.ring`, `Alone.untilOver`: what holds of the scheduler while it waits;
* `store_awaitRun`: a run that does not succeed leaves the store as it is.
-/

namespace Deskhand

/-! ## Alarms -/

theorem Appointment.first?_mem {appointments : List Appointment} {p : Appointment}
    (h : first? appointments = some p) : p ∈ appointments := by
  induction appointments generalizing p with
  | nil => cases h
  | cons a rest ih =>
    rw [first?] at h
    cases hrest : first? rest with
    | none =>
      rw [hrest] at h
      rw [Option.some.inj h]
      exact List.mem_cons_self
    | some b =>
      rw [hrest] at h
      obtain rfl := Option.some.inj h
      split
      · exact List.mem_cons_of_mem _ (ih hrest)
      · exact List.mem_cons_self

namespace Agenda

/-- An agenda without the alarm of a place. -/
def without (a : Agenda) (order : Nat) : Agenda :=
  { a with appointments := a.appointments.filter (·.order != order) }

/-- The alarm that rings next was set for a time that has come, and is taken out. -/
theorem next?_eq_some {a b : Agenda} {now limit instant : Float} {alarm : Alarm}
    (h : a.next? now limit = some (alarm, instant, b)) :
    ∃ p ∈ a.appointments, p.alarm = alarm ∧ p.due < instant + resolution ∧ b = a.without p.order := by
  rw [next?] at h
  split at h
  · cases h
  · dsimp only at h
    split at h
    · cases h
    · obtain ⟨p, hfirst, hp⟩ := Option.map_eq_some_iff.mp h
      simp only [Prod.mk.injEq] at hp
      obtain ⟨rfl, rfl, rfl⟩ := hp
      obtain ⟨hmem, hdue⟩ := List.mem_filter.mp (Appointment.first?_mem hfirst)
      exact ⟨p, hmem, rfl, by simpa using hdue, rfl⟩

end Agenda

namespace Scheduler

/-- A scheduler has nothing to do but one forced run. Unless the run has succeeded the store is as it was. -/
structure Alone (n : Nat) (store : Store) (s : Scheduler) : Prop where
  calls : s.calls = []
  alarms : ∀ p ∈ s.agenda.appointments, p.alarm = .run n ∨ p.alarm = .signal
  runs : ∀ r ∈ s.runs, r.number = n
  /-- The run is under way, or it is over with an outcome. -/
  standing : (s.results = [] ∧ s.store = store) ∨
    (s.runs = [] ∧ ∃ success, s.results = [(n, success)] ∧ (success = false → s.store = store))

variable {n : Nat} {store : Store} {s : Scheduler}

theorem ring_of_no_calls {a : Alarm} (h : (s.handle a).calls = []) : s.ring a = s.handle a := by
  have hclearing : (s.handle a).followClearing = s.handle a := by
    rw [followClearing, h]
    rfl
  have hdrained : (s.handle a).endDrained = { s.handle a with calls := [] } := by
    rw [endDrained, h]
    rfl
  rw [ring, hclearing, hdrained, ← h]

theorem conclude_eq (run : Run) : ∃ t : Scheduler, s.conclude run = t.endRun run.number true ∧
    t.calls = s.calls ∧ t.agenda = s.agenda ∧ t.runs = s.runs ∧ t.results = s.results := by
  refine ⟨_, rfl, ?_⟩
  simp only [announce, noteInStore, noteLoaded, report, ask]
  repeat' split
  all_goals exact ⟨rfl, rfl, rfl, rfl⟩

/-- The run is over. -/
theorem Alone.endRun (h : Alone n store s) {t : Scheduler} (hcalls : t.calls = s.calls)
    (hagenda : t.agenda = s.agenda) (hruns : t.runs = s.runs) (hnone : t.results = []) {success : Bool}
    (hstore : success = false → t.store = store) : Alone n store (t.endRun n success) where
  calls := hcalls.trans h.calls
  alarms := fun p hp => h.alarms p (hagenda ▸ hp)
  runs := fun r hr => h.runs r (hruns ▸ List.mem_of_mem_filter hr)
  standing := by
    refine .inr ⟨List.filter_eq_nil_iff.mpr fun r hr => ?_, success, ?_, hstore⟩
    · simp [h.runs r (hruns ▸ hr)]
    · rw [Scheduler.endRun, hnone]
      rfl

/-- The run takes a turn. -/
theorem Alone.wakeRun (h : Alone n store s) : Alone n store (s.wakeRun n) := by
  cases hfind : s.runs.find? (·.number == n) with
  | none =>
    rw [Scheduler.wakeRun, hfind]
    exact h
  | some run =>
    have hnumber : run.number = n := by simpa using List.find?_some hfind
    -- a run that is under way has no outcome yet
    obtain ⟨hnone, hstore⟩ := h.standing.resolve_right fun hover => by
      rw [hover.1] at hfind
      cases hfind
    rw [wakeRun_of_find hfind]
    rcases run.turn s.around with ⟨outcome, around⟩
    cases outcome with
    | error fault =>
      exact h.endRun (t := ({ s with around := around } : Scheduler).report .error _) rfl rfl rfl hnone fun _ => hstore
    | ok state =>
      dsimp only
      cases state with
      | ended success =>
        cases success with
        | false =>
          rw [proceed.eq_def, hnumber]
          exact h.endRun (t := { s with around := around }) rfl rfl rfl hnone fun _ => hstore
        | true =>
          obtain ⟨t, hconclude, hcalls, hagenda, hruns, hresults⟩ :=
            conclude_eq (s := { s with around := around }) run
          rw [proceed.eq_def]
          dsimp only
          rw [hconclude, hnumber]
          exact h.endRun hcalls hagenda hruns (hresults.trans hnone) fun hfalse => by cases hfalse
      | waiting seconds rest =>
        exact {
          calls := h.calls
          alarms := fun p hp => by
            rcases List.mem_append.mp hp with hp | hp
            · exact h.alarms p hp
            · rw [List.mem_singleton.mp hp]
              exact .inl (congrArg Alarm.run hnumber)
          runs := fun r hr => by
            obtain ⟨r', hr', rfl⟩ := List.mem_map.mp hr
            split
            · exact h.runs r' hr'
            · exact h.runs r' hr'
          standing := .inl ⟨hnone, hstore⟩ }

/-- One of its alarms rings. -/
theorem Alone.ring (h : Alone n store s) {a : Alarm} (ha : a = .run n ∨ a = .signal) :
    Alone n store (s.ring a) := by
  rcases ha with rfl | rfl
  · rw [ring_of_no_calls (a := .run n) h.wakeRun.calls]
    exact h.wakeRun
  · rw [ring_of_no_calls (a := .signal) h.calls]
    exact h

theorem Alone.untilOver (h : Alone n store s) (isOver : Scheduler → Bool) (fuel : Nat) :
    Alone n store (Scheduler.untilOver isOver fuel s) := by
  refine untilOver_induction (fun {s t limit a} halarm hs => ?_) isOver fuel h
  obtain ⟨⟨a, instant, agenda⟩, hnext, heq⟩ := Option.map_eq_some_iff.mp halarm
  obtain ⟨rfl, rfl⟩ := Prod.mk.inj heq
  obtain ⟨p, hp, rfl, -, rfl⟩ := Agenda.next?_eq_some hnext
  have htimed : Alone n store ({ s with agenda := s.agenda.without p.order }.setElapsed instant) :=
    { hs with alarms := fun q hq => hs.alarms q (List.mem_of_mem_filter hq) }
  exact htimed.ring (hs.alarms p hp)

/-- A run that is waited for and does not succeed leaves the store as it is. -/
theorem store_awaitRun (h : Alone n store s) (hfails : (s.awaitRun n).1 ≠ some true) :
    (s.awaitRun n).2.store = store := by
  have hover := h.untilOver (fun s => s.runs.all (·.number != n)) alarmLimit
  rcases hover.standing with ⟨-, hstore⟩ | ⟨-, success, hresults, hstore⟩
  · exact hstore
  · refine hstore ?_
    cases success with
    | false => rfl
    | true =>
      refine absurd ?_ hfails
      simp [awaitRun, hresults]

/-- A scheduler that was built and has nothing to do but to hear that it is to end. -/
structure IsIdle (s : Scheduler) : Prop where
  calls : s.calls = []
  runs : s.runs = []
  results : s.results = []
  loaded : s.loaded = []
  alarms : ∀ p ∈ s.agenda.appointments, p.alarm = .signal

/-- What asking for a run by its id leaves of a scheduler without scenarios. -/
theorem IsIdle.runById (h : IsIdle s) {id : String} {outcome : Except Fault (Option Nat)} {t : Scheduler}
    (hrun : s.runById id = (outcome, t)) : t.store = s.store ∧ ∀ n, outcome = .ok (some n) → Alone n s.store t := by
  rw [Scheduler.runById, h.loaded] at hrun
  dsimp only [Entries.find?] at hrun
  split at hrun
  · obtain ⟨rfl, rfl⟩ := Prod.mk.inj hrun
    exact ⟨rfl, fun n hn => by cases hn⟩
  · obtain ⟨rfl, rfl⟩ := Prod.mk.inj hrun
    exact ⟨rfl, fun n hn => by cases hn⟩
  · next scenario _ =>
    obtain ⟨rfl, rfl⟩ := Prod.mk.inj hrun
    refine ⟨rfl, fun n hn => ?_⟩
    obtain rfl : s.numbered = n := Option.some.inj (Except.ok.inj hn)
    exact {
      calls := h.calls
      alarms := fun p hp => by
        rcases List.mem_append.mp hp with hp | hp
        · exact .inr (h.alarms p hp)
        · rw [List.mem_singleton.mp hp]
          exact .inl rfl
      runs := fun r hr => by
        rw [Scheduler.spawn, draw] at hr
        dsimp only [appoint] at hr
        rw [h.runs, List.nil_append] at hr
        rw [List.mem_singleton.mp hr]
      standing := .inl ⟨h.results, rfl⟩ }

end Scheduler

end Deskhand
