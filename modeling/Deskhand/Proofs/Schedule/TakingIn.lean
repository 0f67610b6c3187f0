import Deskhand.Proofs.Block.Bare
import Deskhand.Proofs.Schedule.Core
import Deskhand.Proofs.Trigger.Daily
import Deskhand.Proofs.Trigger.Noted

/-!
# Taking in scenarios

What a scenario waits for is decided by its name and the text of its chain (`Scenario.place?`), whatever ids
its blocks draw; a text that is refused puts it nowhere. Taking in scenarios enters each at its place in the
roster, in their order, and starts a loop for each of those that are polled. Main statements:

* `core_foldl_setUp`: the roster and the loops after taking in scenarios;
* `core_load`, `load_of_error`: what loading makes of the core, and what it does where the list cannot be read.
-/

namespace Deskhand

/-- A trigger whose block has no id. -/
def Trigger.bare (t : Trigger) : Trigger :=
  { t with block := t.block.bare }

/-- A place whose trigger has no id. -/
def Place.bare : Place → Place
  | loop t => loop t.bare
  | p => p

namespace Entries

theorem isSome_find?_foldl_put {κ ν : Type} [DecidableEq κ] (pairs : List (κ × ν)) (entries : Entries κ ν)
    {key : κ} (h : (find? entries key).isSome ∨ key ∈ pairs.map Prod.fst) :
    (find? (pairs.foldl (fun acc e => acc.put e.1 e.2) entries) key).isSome := by
  induction pairs generalizing entries with
  | nil => simpa using h
  | cons pair rest ih =>
    refine ih _ ?_
    rw [find?_put]
    rcases h with h | h
    · refine .inl ?_
      split
      · rfl
      · exact h
    · rcases List.mem_cons.mp h with rfl | h
      · exact .inl (by simp)
      · exact .inr h

end Entries

/-! ## Places -/

theorem Trigger.ofBlock?_bare (b : Block) :
    Trigger.ofBlock? b.bare = (Trigger.ofBlock? b).map Trigger.bare := by
  simp only [Trigger.ofBlock?, Option.map_map]
  rfl

theorem Place.ofTrigger_bare (name : String) (t : Trigger) :
    Place.ofTrigger name t.bare = (Place.ofTrigger name t).bare := by
  have hstate : t.bare.state = t.state := rfl
  simp only [Place.ofTrigger, hstate]
  cases t.state with
  | hotkey isRaised =>
    have hc : Trigger.combination? t.bare.block = Trigger.combination? t.block := rfl
    simp only [hc]
    cases Trigger.combination? t.block <;> rfl
  | chatCommand =>
    have hc : Trigger.command t.bare.block = Trigger.command t.block := rfl
    simp only [hc]
    split <;> rfl
  | _ => rfl

theorem Place.ofBlocks_bare (name : String) (blocks : List Block) :
    Place.ofBlocks name (blocks.map Block.bare) = (Place.ofBlocks name blocks).bare := by
  cases blocks with
  | nil => rfl
  | cons b rest =>
    simp only [List.map_cons, Place.ofBlocks, Trigger.ofBlock?_bare]
    cases Trigger.ofBlock? b with
    | none => rfl
    | some t => exact Place.ofTrigger_bare name t

/-- What a scenario waits for; nothing where the text of its chain is refused. -/
def Scenario.place? (s : Scenario) : Option Place :=
  ((Chain.read {} s.blocks).map (·.1.map Block.bare)).toOption.map (Place.ofBlocks s.name)

/-- Whether a scenario is polled. -/
def Scenario.isPolled (s : Scenario) : Bool :=
  match s.place? with
  | some (.loop _) => true
  | _ => false

namespace Execution

/-- Reading the blocks of a scenario changes nothing around it but the supply of ids and the log. -/
theorem blocksOf_spec (s : Scenario) (w : Surroundings) :
    (∃ fault, (blocksOf s w).1 = .error fault ∧ s.place? = none) ∨
      ∃ blocks, (blocksOf s w).1 = .ok blocks ∧ s.place? = some (Place.ofBlocks s.name blocks).bare := by
  have hb := Chain.bare_read (reportText s.blocks w).ids {} s.blocks
  simp only [blocksOf, Scenario.place?]
  rw [← hb]
  cases h : Chain.read (reportText s.blocks w).ids s.blocks with
  | error refusal => exact .inl ⟨_, rfl, rfl⟩
  | ok r => exact .inr ⟨r.1, rfl, congrArg some (Place.ofBlocks_bare s.name r.1)⟩

end Execution

namespace Roster

@[simp] theorem add_bare (r : Roster) (id : String) (p : Place) : r.add id p.bare = r.add id p := by
  cases p <;> rfl

/-- The roster with a scenario at its place, if it has one. -/
def enterScenario (r : Roster) (s : Scenario) : Roster :=
  match s.place? with
  | some p => r.add s.id p
  | none => r

/-- The roster with several scenarios at their places. -/
def enterAll (r : Roster) (scenarios : List Scenario) : Roster :=
  scenarios.foldl enterScenario r

end Roster

namespace Place

theorem ofTrigger_eq_loop {name : String} {t t' : Trigger} (h : ofTrigger name t = .loop t') : t = t' := by
  rw [ofTrigger] at h
  split at h
  · split at h <;> cases h
  · dsimp only at h
    split at h <;> cases h
  · exact Place.loop.inj h

/-- The trigger of a polled scenario was never checked. -/
theorem edge?_of_loop {name : String} {blocks : List Block} {t : Trigger} (h : ofBlocks name blocks = .loop t)
    {edge : Bool × Option String} (hedge : t.edge? = some edge) : edge = Watch.edgeOf [] := by
  cases blocks with
  | nil => cases h
  | cons b rest =>
    simp only [ofBlocks] at h
    cases ht : Trigger.ofBlock? b with
    | none => simp [ht] at h
    | some t' =>
      rw [ht] at h
      obtain rfl := ofTrigger_eq_loop h
      exact Trigger.edge?_of_ofBlock? ht hedge

end Place

namespace Scheduler

/-! ## Setting up -/

/-- A loop is that of a scenario. -/
structure IsLoopOf (generation : Nat) (scenario : Scenario) (l : PollingLoop) : Prop where
  generation_eq : l.generation = generation
  scenario_eq : l.scenario = scenario.id
  trigger : ∃ t, scenario.place? = some (.loop t) ∧ l.trigger.block.bare = t.block ∧
    l.trigger.isDaily = t.isDaily
  /-- It has noted nothing yet. -/
  edge : ∀ edge, l.trigger.edge? = some edge → edge = Watch.edgeOf []

/-- The loops of scenarios that were taken in are those of the polled ones, in their order, with fresh
numbers. -/
structure Taken (generation first : Nat) (scenarios : List Scenario) (loops : List PollingLoop) : Prop where
  each : List.Forall₂ (IsLoopOf generation) (scenarios.filter Scenario.isPolled) loops
  numbers : loops.map PollingLoop.number = List.range' first loops.length

/-- Every loop is that of a scenario that was taken in. -/
theorem Taken.exists_of_mem {generation first : Nat} {scenarios : List Scenario} {loops : List PollingLoop}
    (h : Taken generation first scenarios loops) {l : PollingLoop} (hl : l ∈ loops) :
    ∃ scenario ∈ scenarios, IsLoopOf generation scenario l := by
  obtain ⟨hlen, hget⟩ := List.forall₂_iff_get.mp h.each
  obtain ⟨i, hi, rfl⟩ := List.getElem_of_mem hl
  exact ⟨_, (List.mem_filter.mp (List.get_mem _ ⟨i, hlen ▸ hi⟩)).1, hget i (hlen ▸ hi) hi⟩

theorem Taken.generation_eq {generation first : Nat} {scenarios : List Scenario} {loops : List PollingLoop}
    (h : Taken generation first scenarios loops) : ∀ l ∈ loops, l.generation = generation := by
  intro l hl
  obtain ⟨scenario, -, hloop⟩ := h.exists_of_mem hl
  exact hloop.generation_eq

theorem Taken.scenarios_eq {generation first : Nat} {scenarios : List Scenario} {loops : List PollingLoop}
    (h : Taken generation first scenarios loops) :
    loops.map PollingLoop.scenario = (scenarios.filter Scenario.isPolled).map Scenario.id := by
  have heach := h.each
  generalize scenarios.filter Scenario.isPolled = polled at heach
  clear h
  induction heach with
  | nil => rfl
  | cons hl _ ih => simp [hl.scenario_eq, ih]

theorem core_addLoop (s : Scheduler) (generation : Nat) (id : String) (t : Trigger) :
    ∃ t' : Trigger, t'.block = t.block ∧ t'.isDaily = t.isDaily ∧ t'.edge? = t.edge? ∧
      (s.addLoop generation id t).core =
        { s.core with
          loops := s.loops ++ [⟨s.numbered, generation, id, t'⟩], numbered := s.numbered + 1 } := by
  rcases t with ⟨b, state⟩
  cases state with
  | fileChange w =>
    have hedge := Watch.edge_start b s.around.desk.tree {} w
    exact ⟨⟨b, .fileChange (w.start b s.around.desk.tree {}).2⟩, rfl, rfl, congrArg some hedge, rfl⟩
  | _ => exact ⟨⟨b, _⟩, rfl, rfl, rfl, rfl⟩

/-- What setting up a scenario does: one without a place is passed over, one that is polled gets a loop, and
any other one is entered into the roster. -/
theorem core_setUp (generation : Nat) (s : Scheduler) (scenario : Scenario) :
    (scenario.isPolled = false ∧
      (setUp generation s scenario).core = { s.core with roster := s.roster.enterScenario scenario }) ∨
    (scenario.isPolled = true ∧ ∃ l, IsLoopOf generation scenario l ∧ l.number = s.numbered ∧
      (setUp generation s scenario).core =
        { s.core with
          roster := s.roster.enterScenario scenario, loops := s.loops ++ [l]
          numbered := s.numbered + 1 }) := by
  rcases hr : Execution.blocksOf scenario s.around with ⟨outcome, around⟩
  have hspec := Execution.blocksOf_spec scenario s.around
  rw [hr] at hspec
  rcases hspec with ⟨fault, rfl, hp⟩ | ⟨blocks, rfl, hp⟩
  · refine .inl ⟨by simp [Scenario.isPolled, hp], ?_⟩
    simp only [setUp, hr, Roster.enterScenario, hp]
    rfl
  · simp only [setUp, hr, Roster.enterScenario, hp, Roster.add_bare]
    cases hpl : Place.ofBlocks scenario.name blocks with
    | loop t =>
      rw [hpl] at hp
      obtain ⟨t', hb, hd, hedge, hc⟩ := core_addLoop
        { s with around := around, roster := s.roster.add scenario.id (.loop t) } generation scenario.id t
      refine .inr ⟨by simp [Scenario.isPolled, hp, Place.bare],
        ⟨s.numbered, generation, scenario.id, t'⟩,
        ⟨rfl, rfl, ⟨t.bare, hp, ?_, hd⟩, fun edge h => Place.edge?_of_loop hpl (hedge ▸ h)⟩, rfl, hc⟩
      simp only [hb]
      rfl
    | idle why =>
      rw [hpl] at hp
      refine .inl ⟨by simp [Scenario.isPolled, hp, Place.bare], ?_⟩
      simp only [settle, core_reportIdle]
      rfl
    | _ =>
      rw [hpl] at hp
      exact .inl ⟨by simp [Scenario.isPolled, hp, Place.bare], rfl⟩

/-- The roster and the loops after taking in scenarios. -/
theorem core_foldl_setUp (generation : Nat) (scenarios : List Scenario) (s : Scheduler) :
    ∃ added, Taken generation s.numbered scenarios added ∧
      (scenarios.foldl (setUp generation) s).core =
        { s.core with
          roster := s.roster.enterAll scenarios, loops := s.loops ++ added
          numbered := s.numbered + added.length } := by
  induction scenarios generalizing s with
  | nil => exact ⟨[], ⟨.nil, rfl⟩, by simp [Roster.enterAll, core]⟩
  | cons scenario rest ih =>
    obtain ⟨added, htaken, hc⟩ := ih (setUp generation s scenario)
    rw [List.foldl_cons, hc]
    rcases core_setUp generation s scenario with ⟨hpol, hset⟩ | ⟨hpol, l, hl, hn, hset⟩
    · have hnum : (setUp generation s scenario).numbered = s.numbered := congrArg Core.numbered hset
      have hros : (setUp generation s scenario).roster = _ := congrArg Core.roster hset
      have hloops : (setUp generation s scenario).loops = s.loops := congrArg Core.loops hset
      rw [hnum] at htaken
      refine ⟨added, ⟨?_, htaken.numbers⟩, ?_⟩
      · simpa [hpol] using htaken.each
      · rw [hset, hros, hloops, hnum]
        rfl
    · have hnum : (setUp generation s scenario).numbered = s.numbered + 1 := congrArg Core.numbered hset
      have hros : (setUp generation s scenario).roster = _ := congrArg Core.roster hset
      have hloops : (setUp generation s scenario).loops = s.loops ++ [l] := congrArg Core.loops hset
      rw [hnum] at htaken
      refine ⟨l :: added, ⟨?_, ?_⟩, ?_⟩
      · simpa [hpol] using ⟨hl, htaken.each⟩
      · rw [List.map_cons, htaken.numbers, hn, List.length_cons, List.range'_succ]
      · rw [hset, hros, hloops, hnum, List.append_assoc, List.length_cons, Nat.add_assoc, Nat.add_comm 1]
        rfl

/-! ## Loading -/

/-- The scenarios as they are kept once they are loaded. -/
def kept (scenarios : List Scenario) : Entries String Scenario :=
  Entries.ofPairs (scenarios.map fun scenario => (scenario.id, scenario))

theorem isSome_find?_kept {scenarios : List Scenario} {id : String}
    (h : id ∈ scenarios.map Scenario.id) : ((kept scenarios).find? id).isSome := by
  refine Entries.isSome_find?_foldl_put _ [] (.inr ?_)
  rw [List.map_map]
  exact h

theorem core_takeIn (s : Scheduler) (generation : Nat) (scenarios : List Scenario) :
    ∃ added, Taken generation s.numbered scenarios added ∧
      (s.takeIn generation scenarios).core =
        { s.core with
          loaded := kept scenarios, loads := s.loads + 1, roster := s.roster.enterAll scenarios
          loops := s.loops ++ added, numbered := s.numbered + added.length } := by
  obtain ⟨added, htaken, hc⟩ :=
    core_foldl_setUp generation scenarios { s with loaded := kept scenarios, loads := s.loads + 1 }
  exact ⟨added, htaken, (core_publishMenu _).trans hc⟩

/-- A scheduler whose next generation may run. -/
def renewed (s : Scheduler) : Scheduler :=
  { s with generation := some (s.generations + 1), generations := s.generations + 1 }

theorem load_of_ok {s : Scheduler} {scenarios : List Scenario}
    (h : s.ask .list (s.store.list true) = .ok scenarios) :
    s.load = s.renewed.takeIn (s.generations + 1) scenarios := by
  rw [load]
  dsimp only
  split
  · next read hread =>
    obtain rfl : scenarios = read := Except.ok.inj (h.symm.trans hread)
    rfl
  · next fault hread => cases h.symm.trans hread

theorem load_of_error {s : Scheduler} {fault : Fault}
    (h : s.ask .list (s.store.list true) = .error fault) :
    s.load = s.renewed.report .error ("Failed to load scenarios: " ++ fault.message) := by
  rw [load]
  dsimp only
  split
  · next read hread => cases h.symm.trans hread
  · next fault' hread =>
    obtain rfl : fault = fault' := Except.error.inj (h.symm.trans hread)
    rfl

/-- The core after loading. -/
theorem core_load {s : Scheduler} {scenarios : List Scenario}
    (h : s.ask .list (s.store.list true) = .ok scenarios) :
    ∃ added, Taken (s.generations + 1) s.numbered scenarios added ∧
      s.load.core =
        { s.core with
          generation := some (s.generations + 1), generations := s.generations + 1
          loaded := kept scenarios, loads := s.loads + 1, roster := s.roster.enterAll scenarios
          loops := s.loops ++ added, numbered := s.numbered + added.length } := by
  rw [load_of_ok h]
  exact core_takeIn s.renewed (s.generations + 1) scenarios

end Scheduler

end Deskhand
