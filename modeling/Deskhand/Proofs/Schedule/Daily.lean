import Deskhand.Proofs.Schedule.Generations
import Deskhand.Proofs.Schedule.Rosters

/-!
# Scenarios that start at a time of day

A scenario led by a trigger at a time of day is to start once on each day that counts. Its loops start it at every
turn at which the trigger fires, and what keeps the trigger from firing again on a day is the last run that is
noted for the scenario. That is noted when a run succeeds, so that a run that lasts longer than a loop waits, that
fails, or that ends at the very time of day does not keep the next turn from starting another one.

`turns` lists the turns of the loops of a scenario in a history. Main statements:

* `starts_iff`: the turns that start a run;
* `starts_once_iff`: a scenario starts once a day at most iff the day is settled at each turn that comes after
  one that started it.
-/

namespace Deskhand

/-! ## Leading blocks -/

/-- The trigger of a polled scenario is its leading block. -/
theorem Scenario.trigger_of_lead? {s : Scenario} {b : Block} {t : Trigger} (hlead : s.lead? = some b)
    (hplace : s.place? = some (.loop t)) : t.block = b ∧ (b.kind = .timeTrigger → t.isDaily = true) := by
  simp only [place?, Option.map_eq_some_iff] at hplace
  obtain ⟨blocks, hread, hplace⟩ := hplace
  rw [lead?, hread, Option.bind_some] at hlead
  cases blocks with
  | nil => cases hlead
  | cons b' rest =>
    obtain rfl : b' = b := Option.some.inj hlead
    simp only [Place.ofBlocks] at hplace
    cases ht : Trigger.ofBlock? b' with
    | none => simp [ht] at hplace
    | some t' =>
      rw [ht] at hplace
      obtain rfl := Place.ofTrigger_eq_loop hplace
      obtain ⟨state, hstate, rfl⟩ := Option.map_eq_some_iff.mp ht
      refine ⟨rfl, fun hkind => ?_⟩
      rw [hkind] at hstate
      obtain rfl := Option.some.inj hstate
      rfl

/-- Every row with an id has a chain led by a block. -/
def Store.IsLedBy (s : Store) (id : String) (b : Block) : Prop :=
  ∀ r ∈ s.rows, r.id = id → ∃ scenario, r.timeless.scenario = .ok scenario ∧ scenario.lead? = some b

theorem Store.SameRows.isLedBy {s t : Store} (h : s.SameRows t) {id : String} {b : Block}
    (hs : s.IsLedBy id b) : t.IsLedBy id b := by
  intro r hr hid
  have hmem : r.timeless ∈ s.rows.map Row.timeless := h ▸ List.mem_map_of_mem hr
  obtain ⟨old, hold, hsame⟩ := List.mem_map.mp hmem
  have hid' : old.id = id := (congrArg Row.id hsame).trans hid
  exact hsame ▸ hs old hold hid'

/-- The scenarios that are listed are led as their rows are. -/
theorem Store.IsLedBy.lead? {s : Store} {id : String} {b : Block} (hs : s.IsLedBy id b)
    {scenarios : List Scenario} (hlist : s.list true = .ok scenarios) {scenario : Scenario}
    (hmem : scenario ∈ scenarios) (hid : scenario.id = id) : scenario.lead? = some b := by
  obtain ⟨r, hr, -, hscenario⟩ := exists_row_of_mem_list hlist hmem
  obtain ⟨other, hother, hlead⟩ := hs r hr ((Row.id_of_scenario hscenario).symm.trans hid)
  obtain rfl : other = scenario.timeless := Except.ok.inj (hother.symm.trans (Row.scenario_timeless hscenario))
  exact hlead

namespace Scheduler

/-- An event after which a scenario is still led by a block. -/
def Event.IsLedBy (id : String) (b : Block) : Event → Prop
  | .store kept => kept.IsLedBy id b
  | _ => True

/-- The rows and the loops of a scenario are those of a block. -/
structure Core.IsLedBy (c : Core) (id : String) (b : Block) : Prop where
  store : c.store.IsLedBy id b
  loops : ∀ l ∈ c.loops, l.scenario = id → l.trigger.block.bare = b ∧ l.trigger.isDaily = true

variable {id : String} {b : Block}

theorem Core.IsLedBy.move (hb : b.kind = .timeTrigger) {e : Event} {c d : Core} (h : c.IsLedBy id b)
    (hmove : Move e c d) (hs : c.Sound) : d.IsLedBy id b := by
  cases hmove with
  | triggers hbadges _ =>
    refine ⟨h.store, fun l hl hid => ?_⟩
    have hmem : l.badge ∈ c.loops.map PollingLoop.badge := hbadges ▸ List.mem_map_of_mem hl
    obtain ⟨old, hold, hbadge⟩ := List.mem_map.mp hmem
    obtain ⟨-, -, hscenario, hblock, hdaily⟩ := PollingLoop.badge_eq_iff.mp hbadge
    rw [← hblock, ← hdaily]
    exact h.loops old hold (hscenario.trans hid)
  | endLoop _ _ => exact ⟨h.store, fun l hl => h.loops l (List.mem_filter.mp hl).1⟩
  | dropLoops _ => exact ⟨h.store, fun l hl => h.loops l (List.mem_filter.mp hl).1⟩
  | rows hrows => exact ⟨(hrows hs.keyed).isLedBy h.store, h.loops⟩
  | load _ _ hlist htaken =>
    refine ⟨h.store, fun l hl hid => ?_⟩
    rcases List.mem_append.mp hl with hl | hl
    · exact h.loops l hl hid
    · obtain ⟨scenario, hmem, hloop⟩ := htaken.exists_of_mem hl
      have hlead := h.store.lead? hlist hmem (hloop.scenario_eq.symm.trans hid)
      obtain ⟨t, hplace, hblock, hdaily⟩ := hloop.trigger
      obtain ⟨hb', hd⟩ := Scenario.trigger_of_lead? hlead hplace
      exact ⟨hblock.trans hb', hdaily.trans (hd hb)⟩
  | _ => exact ⟨h.store, h.loops⟩

theorem isLedBy_after (hb : b.kind = .timeTrigger) {s : Scheduler} (hs : s.core.Sound)
    (h : s.core.IsLedBy id b) {e : Event} (he : e.IsLedBy id b) : (s.after e).core.IsLedBy id b := by
  refine after_induction (P := fun c => c.IsLedBy id b) hs h (fun kept hkept => ?_)
    fun _ _ hsound hmove hc => hc.move hb hmove hsound
  subst hkept
  exact ⟨he, h.loops⟩

/-! ## Turns -/

/-- A turn of a loop. -/
structure LoopTurn where
  time : Instant
  /-- When the scenario ran last. -/
  last : Option Instant
  /-- Whether the generation of the loop may run, so that its trigger is asked. -/
  asks : Bool
  /-- Whether a run is started. -/
  starts : Bool
  deriving DecidableEq, Repr, Inhabited

/-- The turn that a loop of a scenario takes at an event. -/
def turnOf? (s : Scheduler) (id : String) : Event → Option LoopTurn
  | .alarm (.loop n) =>
    (s.loops.find? fun l => l.number == n && l.scenario == id).map fun l =>
      { time := s.now, last := s.lastRun id, asks := s.generation == some l.generation
        starts := s.runs.length < (s.ring (.loop n)).runs.length }
  | _ => none

theorem turnOf?_eq_some {s : Scheduler} {id : String} {e : Event} {turn : LoopTurn}
    (h : s.turnOf? id e = some turn) :
    ∃ l ∈ s.loops, l.scenario = id ∧ e = .alarm (.loop l.number) ∧
      turn = { time := s.now, last := s.lastRun id, asks := s.generation == some l.generation
               starts := s.runs.length < (s.ring (.loop l.number)).runs.length } := by
  unfold turnOf? at h
  split at h
  · obtain ⟨l, hfind, rfl⟩ := Option.map_eq_some_iff.mp h
    have hmatch := List.find?_some hfind
    simp only [Bool.and_eq_true, beq_iff_eq] at hmatch
    obtain ⟨rfl, hscenario⟩ := hmatch
    exact ⟨l, List.mem_of_find?_eq_some hfind, hscenario, rfl, rfl⟩
  · cases h

/-- The turns that the loops of a scenario take in a history. -/
def turns (id : String) : Scheduler → List Event → List LoopTurn
  | _, [] => []
  | s, e :: rest => (s.turnOf? id e).toList ++ turns id (s.after e) rest

/-- The clock is never put back in a history. -/
def NeverBack : Scheduler → List Event → Prop
  | _, [] => True
  | s, e :: rest => s.now ≤ (s.after e).now ∧ NeverBack (s.after e) rest

instance decidableNeverBack : (s : Scheduler) → (es : List Event) → Decidable (NeverBack s es)
  | _, [] => isTrue trivial
  | s, e :: rest =>
    have := decidableNeverBack (s.after e) rest
    inferInstanceAs (Decidable (s.now ≤ (s.after e).now ∧ NeverBack (s.after e) rest))

theorem runs_ring_loop (s : Scheduler) (n : Nat) : (s.ring (.loop n)).runs = (s.wakeLoop n).runs :=
  (followClearing_frame (s.wakeLoop n)).1

/-- A loop of a daily trigger starts a run at its turn iff the trigger fires. -/
theorem length_runs_takeTurn {s : Scheduler} {l : PollingLoop} (h : l.trigger.isDaily = true)
    (hloaded : (s.loaded.find? l.scenario).isSome) :
    s.runs.length < (s.takeTurn l).runs.length ↔
      Daily.shouldFire l.trigger.block (s.lastRun l.scenario) s.now = .ok true := by
  have hlook := Trigger.check_of_isDaily h s.around.bot? (s.lastRun l.scenario) s.now
  obtain ⟨scenario, hfind⟩ := Option.isSome_iff_exists.mp hloaded
  simp only [takeTurn, PollingLoop.look, hlook]
  cases Daily.shouldFire l.trigger.block (s.lastRun l.scenario) s.now with
  | error fault => simp [follow, appoint, report, setLoop]
  | ok fires =>
    cases fires with
    | false => simp [follow, appoint, setLoop]
    | true =>
      have hbindings : PollingLoop.takeBindings l.trigger = ([], l.trigger) := by
        have hstate := Trigger.state_of_isDaily h
        rw [PollingLoop.takeBindings]
        split
        · next hw _ => rw [hstate] at hw; cases hw
        · rfl
      have hspawn : (s.setLoop l).loaded.find? l.scenario = some scenario := hfind
      have hruns : (((s.setLoop l).spawnLoaded l.scenario []).runs).length = s.runs.length + 1 := by
        simp only [spawnLoaded, hspawn]
        exact List.length_append
      simp only [hbindings, follow]
      refine iff_of_true ?_ trivial
      show s.runs.length < ((s.setLoop l).spawnLoaded l.scenario []).runs.length
      rw [hruns]
      exact Nat.lt_succ_self _

/-- A turn starts a run iff its loop may ask the trigger and the trigger fires. -/
theorem starts_iff {s : Scheduler} (hs : s.core.Sound) (h : s.core.IsLedBy id b) {e : Event} {turn : LoopTurn}
    (hturn : s.turnOf? id e = some turn) :
    turn.starts = true ↔ turn.asks = true ∧ Daily.shouldFire b turn.last turn.time = .ok true := by
  obtain ⟨l, hl, hscenario, -, rfl⟩ := turnOf?_eq_some hturn
  obtain ⟨hblock, hdaily⟩ := h.loops l hl hscenario
  have hwake : s.loops.find? (·.number == l.number) = some l := find?_number hs.loopNumbers hl
  simp only [decide_eq_true_eq, runs_ring_loop, wakeLoop, hwake, ← hscenario]
  by_cases hasks : s.generation = some l.generation
  · have hloaded := hs.loaded l hl hasks
    have hfires : Daily.shouldFire l.trigger.block = Daily.shouldFire b := hblock ▸ rfl
    rw [if_pos (beq_iff_eq.mpr hasks), length_runs_takeTurn hdaily hloaded, hfires]
    simp [hasks]
  · rw [if_neg (by simpa using hasks)]
    simp [hasks, dropLoops]

/-! ## Days -/

theorem le_time_of_mem_turns {s : Scheduler} {es : List Event} (h : NeverBack s es) {turn : LoopTurn}
    (hturn : turn ∈ turns id s es) : s.now ≤ turn.time := by
  induction es generalizing s with
  | nil => cases hturn
  | cons e rest ih =>
    obtain ⟨hle, hrest⟩ := h
    rcases List.mem_append.mp hturn with hhere | hlater
    · obtain ⟨l, -, -, -, rfl⟩ := turnOf?_eq_some (Option.mem_toList.mp hhere)
      exact Nat.le_refl _
    · exact Nat.le_trans hle (ih hrest hlater)

/-- Where the clock is never put back, turns come in the order of their times. -/
theorem pairwise_turns {s : Scheduler} {es : List Event} (h : NeverBack s es) :
    (turns id s es).Pairwise fun t u => t.time ≤ u.time := by
  induction es generalizing s with
  | nil => exact .nil
  | cons e rest ih =>
    obtain ⟨hle, hrest⟩ := h
    refine List.pairwise_append.mpr ⟨?_, ih hrest, fun t ht u hu => ?_⟩
    · cases s.turnOf? id e <;> simp
    · obtain ⟨l, -, -, -, rfl⟩ := turnOf?_eq_some (Option.mem_toList.mp ht)
      exact Nat.le_trans hle (le_time_of_mem_turns hrest hu)

/-- Every turn of a history starts a run iff it asks the trigger and the trigger fires. -/
theorem starts_iff_of_mem_turns (hb : b.kind = .timeTrigger) {s : Scheduler} (hs : s.core.Sound)
    (h : s.core.IsLedBy id b) {es : List Event} (hfits : ∀ e ∈ es, e.Fits) (hes : ∀ e ∈ es, e.IsLedBy id b)
    {turn : LoopTurn} (hturn : turn ∈ turns id s es) :
    turn.starts = true ↔ turn.asks = true ∧ Daily.shouldFire b turn.last turn.time = .ok true := by
  induction es generalizing s with
  | nil => cases hturn
  | cons e rest ih =>
    obtain ⟨hfit, hfits⟩ := List.forall_mem_cons.mp hfits
    obtain ⟨he, hes⟩ := List.forall_mem_cons.mp hes
    rcases List.mem_append.mp hturn with hhere | hlater
    · exact starts_iff hs h (Option.mem_toList.mp hhere)
    · exact ih (sound_after hs hfit) (isLedBy_after hb hs h he) hfits hes hlater

/-- Of those that count, no two fall on one day iff at most one falls on each day. -/
theorem length_filter_le_one_iff {α : Type} (p : α → Bool) (day : α → Nat) (items : List α) :
    (∀ d, (items.filter fun a => p a && day a == d).length ≤ 1) ↔
      items.Pairwise fun a b => p a = true → day a = day b → p b = false := by
  induction items with
  | nil => simp
  | cons a rest ih =>
    rw [List.pairwise_cons, ← ih]
    by_cases ha : p a = true
    · have hday : ∀ d, ((a :: rest).filter fun b => p b && day b == d).length =
          (if day a = d then 1 else 0) + (rest.filter fun b => p b && day b == d).length := by
        intro d
        by_cases hd : day a = d
        · simp [ha, hd, Nat.add_comm]
        · simp [ha, hd]
      have hnone : (∀ b ∈ rest, p a = true → day a = day b → p b = false) ↔
          (rest.filter fun b => p b && day b == day a).length = 0 := by
        rw [List.length_eq_zero_iff, List.filter_eq_nil_iff]
        refine forall₂_congr fun b _ => ?_
        by_cases hd : day a = day b
        · simp [ha, hd]
        · simp [hd, Ne.symm hd]
      simp only [hday, hnone]
      refine ⟨fun h => ⟨?_, fun d => ?_⟩, fun h d => ?_⟩
      · have hsame := h (day a)
        rw [if_pos rfl] at hsame
        omega
      · have hd := h d
        omega
      · split
        · next hd =>
          have hzero := h.1
          rw [hd] at hzero
          omega
        · have hd := h.2 d
          omega
    · simp only [ha, Bool.false_eq_true, false_implies, implies_true, true_and, List.filter_cons,
        Bool.false_and, if_false]

/-- A scenario led by a daily trigger starts at most once on each day iff, at every turn of its loops that comes
on the same day after one that started it, the day is settled: the last run that is noted is of that day and came
after the time of day, or it is of another day and the minute in which the trigger fires is over. -/
theorem IsNew.starts_once_iff {new : Scheduler} (hnew : IsNew new) {target : Nat} (hb : b.kind = .timeTrigger)
    (htarget : Daily.target? b = some target) (hstore : new.store.IsLedBy id b) {es : List Event}
    (hfits : ∀ e ∈ es, e.Fits) (hes : ∀ e ∈ es, e.IsLedBy id b) (hclock : NeverBack new es) :
    (∀ day, ((turns id new es).filter fun t => t.starts && t.time.days == day).length ≤ 1) ↔
      (turns id new es).Pairwise fun t u => t.starts = true → t.time.days = u.time.days → u.asks = true →
        Daily.isSettled target u.last u.time = true := by
  have hled : new.core.IsLedBy id b := by
    have hcore := hnew.core
    refine ⟨hstore, fun l hl => ?_⟩
    rw [hcore] at hl
    exact absurd hl List.not_mem_nil
  have hstarts : ∀ t ∈ turns id new es,
      (t.starts = true ↔ t.asks = true ∧ Daily.shouldFire b t.last t.time = .ok true) :=
    fun t => starts_iff_of_mem_turns hb hnew.sound hled hfits hes
  have horder : (turns id new es).Pairwise fun t u => t.time ≤ u.time := pairwise_turns hclock
  -- of two turns on one day of which the first one starts a run, the second one does not iff the day is settled
  have hsecond : ∀ t ∈ turns id new es, ∀ u ∈ turns id new es, t.time ≤ u.time → t.starts = true →
      t.time.days = u.time.days → (u.starts = false ↔ (u.asks = true → Daily.isSettled target u.last u.time)) := by
    intro t ht u hu hle hstart hday
    obtain ⟨-, hfires⟩ := (hstarts t ht).mp hstart
    obtain ⟨hallowed, hreached⟩ := Daily.of_shouldFire htarget hfires
    have hallowed' : Daily.isAllowed b u.time = true := Daily.isAllowed_congr hday ▸ hallowed
    have hreached' : target ≤ u.time.timeOfDay := Nat.le_trans hreached (Instant.timeOfDay_le hle hday)
    rw [← Bool.not_eq_true, hstarts u hu, Daily.shouldFire_iff htarget hallowed' hreached', not_and]
    simp
  refine (length_filter_le_one_iff LoopTurn.starts (fun t => t.time.days) _).trans ?_
  constructor
  · intro h
    refine (h.and horder).imp_of_mem fun ht hu hboth hstart hday => ?_
    exact (hsecond _ ht _ hu hboth.2 hstart hday).mp (hboth.1 hstart hday)
  · intro h
    refine (h.and horder).imp_of_mem fun ht hu hboth hstart hday => ?_
    exact (hsecond _ ht _ hu hboth.2 hstart hday).mpr (hboth.1 hstart hday)

/-- A row with an active scenario that is to start at midnight and then waits for three seconds. -/
def waitingRow : Row :=
  { id := "a", name := "Wait", active := .int 1
    blocks := "[\x7b\"Type\":\"TimeTrigger\",\"Id\":\"t\",\"Parameters\":\x7b\"Time\":\"00:00\"\x7d\x7d," ++
      "\x7b\"Type\":\"Delay\",\"Id\":\"d\",\"Parameters\":\x7b\"Milliseconds\":\"3000\"\x7d\x7d]" }

/-- The block that leads it. -/
def midnightBlock : Block :=
  { kind := .timeTrigger, id := "", parameters := [("Time", "00:00")] }

/-- A scheduler over that row. -/
def waiting : Scheduler :=
  ofRows [waitingRow] none

theorem isNew_waiting : IsNew waiting :=
  isNew_ofRows (by decide) none

theorem isLedBy_waiting : waiting.store.IsLedBy "a" midnightBlock := by
  intro r hr _
  obtain rfl := List.mem_singleton.mp hr
  exact ⟨_, rfl, by decide +kernel⟩

/-- The clock shows some microseconds after midnight. -/
def atMicros (micros : Nat) : Event :=
  .scene { waiting with around := { clock := ⟨⟨Clock.start.micros + micros⟩, 0.0⟩ } }

/-- The scheduler is started and has loaded the scenario, whose loop takes a turn half a second past midnight. -/
def begun : List Event :=
  [.start, .alarm (.call 0), atMicros 500000, .alarm (.loop 1), .alarm (.run 2)]

/-- The loop takes its next turn while the run waits. -/
def hasty : List Event :=
  begun ++ [atMicros 1500000, .alarm (.loop 1)]

/-- The loop takes its next turn once the run has ended. -/
def patient : List Event :=
  begun ++ [atMicros 3500000, .alarm (.run 2), atMicros 4500000, .alarm (.loop 1)]

/-- A scenario led by a daily trigger may start twice on one day. -/
theorem hasty_starts_twice :
    IsNew waiting ∧ waiting.store.IsLedBy "a" midnightBlock ∧ (∀ e ∈ hasty, e.Fits) ∧
      (∀ e ∈ hasty, e.IsLedBy "a" midnightBlock) ∧ NeverBack waiting hasty ∧
      ((turns "a" waiting hasty).filter fun t =>
        t.starts && t.time.days == Clock.start.days).length = 2 := by
  refine ⟨isNew_waiting, isLedBy_waiting, ?_, ?_, by decide +kernel, by decide +kernel⟩
  · simp [hasty, begun, atMicros, Event.Fits]
  · simp [hasty, begun, atMicros, Event.IsLedBy]

theorem patient_starts_once :
    NeverBack waiting patient ∧
      ((turns "a" waiting patient).filter fun t =>
        t.starts && t.time.days == Clock.start.days).length ≤ 1 := by
  have hfits : ∀ e ∈ patient, e.Fits := by simp [patient, begun, atMicros, Event.Fits]
  have hes : ∀ e ∈ patient, e.IsLedBy "a" midnightBlock := by
    simp [patient, begun, atMicros, Event.IsLedBy]
  have htarget : Daily.target? midnightBlock = some 0 := by decide
  have hclock : NeverBack waiting patient := by decide +kernel
  refine ⟨hclock, ?_⟩
  refine (isNew_waiting.starts_once_iff rfl htarget isLedBy_waiting hfits hes hclock).mpr ?_ _
  decide +kernel

end Scheduler

end Deskhand
