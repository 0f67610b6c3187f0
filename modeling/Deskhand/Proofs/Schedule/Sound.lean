import Deskhand.Proofs.Schedule.Calls

/-!
# What holds at any time

Every move keeps the core of a scheduler sound (`Sound.move`), so it is sound in every reachable state. The
moves fall into a few groups, each with a lemma: loops end, runs come and go, a call is put at another stage,
the call that has the lock ends, and scenarios are taken in. Main statements:

* `Core.Sound.move`: a move keeps the core sound;
* `Reachable.sound`: the core is sound in every reachable state;
* `Leads.core_induction`: invariants of the core, move by move;
* `loops_eq_nil_of_over`: once the loops that a call told have ended, there are none at all.
-/

namespace Deskhand

namespace Entries

theorem find?_map_of_keys {κ ν : Type} [DecidableEq κ] {f : κ × ν → κ × ν} (hf : ∀ entry, (f entry).1 = entry.1)
    (entries : Entries κ ν) (key : κ) :
    (find? (entries.map f) key).isSome = (find? entries key).isSome := by
  induction entries with
  | nil => rfl
  | cons entry rest ih =>
    have hkey := hf entry
    rcases hentry : f entry with ⟨k, v⟩
    rw [hentry] at hkey
    rw [List.map_cons, hentry, find?, find?, show k = entry.1 from hkey]
    split
    · rfl
    · exact ih

end Entries

namespace Scheduler

/-- A number that is greater than all others makes one more distinct number. -/
theorem nodup_numbers_snoc {α : Type} {number : α → Nat} {items : List α} (h : (items.map number).Nodup) {a : α}
    (hlt : ∀ b ∈ items, number b < number a) : ((items ++ [a]).map number).Nodup := by
  simp only [List.map_append, List.map_cons, List.map_nil]
  refine List.nodup_append'.mpr ⟨h, List.nodup_singleton _, ?_⟩
  rw [List.disjoint_singleton]
  intro hmem
  obtain ⟨b, hb, heq⟩ := List.mem_map.mp hmem
  have hless := hlt b hb
  omega

/-- What has a number is found by it, where numbers are distinct. -/
theorem find?_number {α : Type} {number : α → Nat} {items : List α} (h : (items.map number).Nodup) {a : α}
    (ha : a ∈ items) : items.find? (fun b => number b == number a) = some a := by
  cases hf : items.find? (fun b => number b == number a) with
  | none => exact absurd (List.find?_eq_none.mp hf a ha) (by simp)
  | some b =>
    have hn : number b = number a := by simpa using List.find?_some hf
    rw [List.inj_on_of_nodup_map h (List.mem_of_find?_eq_some hf) ha hn]

namespace Core

namespace Sound

variable {c : Core} {n : Nat} {kind : CallKind} {stage : Stage} {told : List Nat}

/-! ## The call that has the lock -/

/-- Only one call at a time is about what it has the lock for. -/
theorem eq_of_inside (h : c.Sound) {call call' : Call} (hcall : call ∈ c.calls) (hcall' : call' ∈ c.calls)
    (hin : call.stage.isInside = true) (hin' : call'.stage.isInside = true) : call = call' := by
  have hhead := h.inside call hcall hin
  have hhead' := h.inside call' hcall' hin'
  exact h.number_inj hcall hcall' (Option.some.inj (hhead.symm.trans hhead'))

theorem head_of_turn (h : c.Sound) (hcall : ⟨n, kind, stage⟩ ∈ c.calls) (hturn : c.HasTurn n stage) :
    c.lock.head? = some n := by
  rcases hturn with ⟨-, hhead⟩ | ⟨settings, rfl⟩
  · exact hhead
  · exact h.inside _ hcall rfl

/-- When a call begins to clear, no other one waits for loops: without a generation there is none. -/
theorem loops_eq_nil_of_turn (h : c.Sound) (hcall : ⟨n, kind, stage⟩ ∈ c.calls) (hturn : c.HasTurn n stage)
    (hgen : c.generation = none) : c.loops = [] := by
  refine List.eq_nil_iff_forall_not_mem.mpr fun l hl => ?_
  obtain ⟨call, hmem, told, hstage, -⟩ := h.told hgen l hl
  have hhead := h.inside call hmem (by rw [hstage]; rfl)
  have hn : call.number = n := Option.some.inj (hhead.symm.trans (h.head_of_turn hcall hturn))
  obtain rfl := h.number_inj hmem hcall hn
  obtain rfl : stage = .clearing told := hstage
  rcases hturn with ⟨hq, -⟩ | ⟨settings, hd⟩
  · cases hq
  · cases hd

/-- Once the loops that a call told have ended, there are none at all. -/
theorem loops_eq_nil_of_over (h : c.Sound) (hcall : ⟨n, kind, .clearing told⟩ ∈ c.calls)
    (hover : ∀ l ∈ c.loops, l.number ∉ told) : c.loops = [] := by
  refine List.eq_nil_iff_forall_not_mem.mpr fun l hl => ?_
  have hgen := (h.quiet _ hcall rfl).1
  obtain ⟨call, hmem, told', hstage, hin⟩ := h.told hgen l hl
  obtain rfl := h.eq_of_inside hmem hcall (by rw [hstage]; rfl) rfl
  obtain rfl : told = told' := by simpa using hstage
  exact hover l hl hin

/-- Only the call that has the lock is about what it has it for. -/
theorem not_inside_of_head (h : c.Sound) (hhead : c.lock.head? = some n) {call : Call} (hmem : call ∈ c.calls)
    (hne : call.number ≠ n) : call.stage.isInside = false := by
  by_contra hin
  have hin : call.stage.isInside = true := by simpa using hin
  exact hne (Option.some.inj ((h.inside call hmem hin).symm.trans hhead))

/-! ## Loops -/

theorem triggers (h : c.Sound) {loops : List PollingLoop}
    (hb : loops.map PollingLoop.badge = c.loops.map PollingLoop.badge) : Sound { c with loops := loops } := by
  have hmem : ∀ l ∈ loops, ∃ l' ∈ c.loops, l'.number = l.number ∧ l'.generation = l.generation ∧
      l'.scenario = l.scenario := by
    intro l hl
    have hin : l.badge ∈ c.loops.map PollingLoop.badge := hb ▸ List.mem_map_of_mem hl
    obtain ⟨l', hl', heq⟩ := List.mem_map.mp hin
    obtain ⟨hn, hg, hs, -, -⟩ := PollingLoop.badge_eq_iff.mp heq
    exact ⟨l', hl', hn, hg, hs⟩
  have hnumbers : loops.map PollingLoop.number = c.loops.map PollingLoop.number := by
    have hfst := congrArg (List.map Prod.fst) hb
    simp only [List.map_map] at hfst
    exact hfst
  have hscenarios : loops.map PollingLoop.scenario = c.loops.map PollingLoop.scenario := by
    have hthird := congrArg (List.map fun badge => badge.2.2.1) hb
    simp only [List.map_map] at hthird
    exact hthird
  exact {
    h with
    loopNumbers := by
      show (loops.map PollingLoop.number).Nodup
      rw [hnumbers]
      exact h.loopNumbers
    loops_lt := fun l hl => by
      obtain ⟨l', hl', hn, -, -⟩ := hmem l hl
      exact hn ▸ h.loops_lt l' hl'
    scenarios := by
      show (loops.map PollingLoop.scenario).Nodup
      rw [hscenarios]
      exact h.scenarios
    current := fun g hg => by
      obtain ⟨hlast, hall⟩ := h.current g hg
      refine ⟨hlast, fun l hl => ?_⟩
      obtain ⟨l', hl', -, hgen, -⟩ := hmem l hl
      exact hgen.symm.trans (hall l' hl')
    told := fun hgen l hl => by
      obtain ⟨l', hl', hn, -, -⟩ := hmem l hl
      exact hn ▸ h.told hgen l' hl'
    loaded := fun l hl hgen => by
      obtain ⟨l', hl', -, hg, hs⟩ := hmem l hl
      exact hs ▸ h.loaded l' hl' (hg ▸ hgen)
    settled := fun call hcall hstage => by
      have hnil : c.loops = [] := h.settled call hcall hstage
      rw [hnil] at hb
      exact List.map_eq_nil_iff.mp hb }

theorem filterLoops (h : c.Sound) (stays : PollingLoop → Bool) :
    Sound { c with loops := c.loops.filter stays } :=
  { h with
    loopNumbers := h.loopNumbers.sublist (List.filter_sublist.map _)
    loops_lt := fun l hl => h.loops_lt l (List.mem_filter.mp hl).1
    scenarios := h.scenarios.sublist (List.filter_sublist.map _)
    current := fun g hg =>
      ⟨(h.current g hg).1, fun l hl => (h.current g hg).2 l (List.mem_filter.mp hl).1⟩
    told := fun hgen l hl => h.told hgen l (List.mem_filter.mp hl).1
    loaded := fun l hl => h.loaded l (List.mem_filter.mp hl).1
    settled := fun call hcall hstage => by
      show c.loops.filter stays = []
      rw [h.settled call hcall hstage, List.filter_nil] }

/-! ## Runs -/

theorem spawn (h : c.Sound) (run : Run) (hn : run.number = c.numbered) :
    Sound { c with runs := c.runs ++ [run], numbered := c.numbered + 1 } :=
  { h with
    loops_lt := fun l hl => Nat.lt_succ_of_lt (h.loops_lt l hl)
    calls_lt := fun call hcall => Nat.lt_succ_of_lt (h.calls_lt call hcall)
    runNumbers := nodup_numbers_snoc h.runNumbers fun r hr => hn ▸ h.runs_lt r hr
    runs_lt := fun r hr => by
      show r.number < c.numbered + 1
      rcases List.mem_append.mp hr with hr | hr
      · exact Nat.lt_succ_of_lt (h.runs_lt r hr)
      · rw [List.mem_singleton.mp hr, hn]
        exact Nat.lt_succ_self _ }

/-- Runs go on or are dropped. -/
theorem withRuns (h : c.Sound) {runs : List Run} {results : List (Nat × Bool)}
    (hsub : (runs.map Run.number).Sublist (c.runs.map Run.number)) :
    Sound { c with runs := runs, results := results } :=
  { h with
    runNumbers := h.runNumbers.sublist hsub
    runs_lt := fun r hr => by
      obtain ⟨old, hold, heq⟩ := List.mem_map.mp (hsub.subset (List.mem_map_of_mem hr))
      exact heq ▸ h.runs_lt old hold }

theorem setRest (h : c.Sound) (n : Nat) (rest : Execution) :
    Sound { c with runs := c.runs.map fun r => if r.number == n then { r with rest := some rest } else r } := by
  have hnumbers : (c.runs.map fun r => if r.number == n then { r with rest := some rest } else r).map
      Run.number = c.runs.map Run.number := by
    rw [List.map_map]
    refine List.map_congr_left fun r _ => ?_
    simp only [Function.comp_apply]
    split <;> rfl
  exact h.withRuns (hnumbers ▸ List.Sublist.refl _)

theorem stamp (h : c.Sound) (id : String) (time : Instant) :
    Sound { c with
      loaded := c.loaded.map fun entry =>
        if entry.1 == id then (entry.1, { entry.2 with lastExecuted := some ⟨time, none⟩ }) else entry } :=
  { h with
    loaded := fun l hl hgen => by
      refine (Entries.find?_map_of_keys (fun entry => ?_) c.loaded l.scenario).trans (h.loaded l hl hgen)
      split <;> rfl }

theorem rows (h : c.Sound) {store : Store} (hrows : c.store.IsKeyed → c.store.SameRows store) :
    Sound { c with store := store } :=
  { h with keyed := (hrows h.keyed).isKeyed h.keyed }

/-! ## Stages of calls -/

theorem ask (h : c.Sound) (kind : CallKind) :
    Sound { c with calls := c.calls ++ [{ number := c.numbered, kind := kind }], numbered := c.numbered + 1 } := by
  have hcases : ∀ call ∈ c.calls ++ [{ number := c.numbered, kind := kind }],
      call ∈ c.calls ∨ call = { number := c.numbered, kind := kind } := fun call hcall => by
    simpa using hcall
  exact {
    h with
    loops_lt := fun l hl => Nat.lt_succ_of_lt (h.loops_lt l hl)
    runs_lt := fun r hr => Nat.lt_succ_of_lt (h.runs_lt r hr)
    callNumbers := nodup_numbers_snoc h.callNumbers h.calls_lt
    calls_lt := fun call hcall => by
      show call.number < c.numbered + 1
      rcases hcases call hcall with hcall | rfl
      · exact Nat.lt_succ_of_lt (h.calls_lt call hcall)
      · exact Nat.lt_succ_self _
    told := fun hgen l hl => by
      obtain ⟨call, hcall, told, hstage, hin⟩ := h.told hgen l hl
      exact ⟨call, List.mem_append_left _ hcall, told, hstage, hin⟩
    inside := fun call hcall hin => by
      rcases hcases call hcall with hcall | rfl
      · exact h.inside call hcall hin
      · cases hin
    kinds := fun call hcall => by
      rcases hcases call hcall with hcall | rfl
      · exact h.kinds call hcall
      · rfl
    quiet := fun call hcall hq => by
      rcases hcases call hcall with hcall | rfl
      · exact h.quiet call hcall hq
      · cases hq
    settled := fun call hcall hstage => by
      rcases hcases call hcall with hcall | rfl
      · exact h.settled call hcall hstage
      · cases hstage }

theorem mem_setStage {call : Call} (h : call ∈ (c.setStage n stage).calls) :
    (call ∈ c.calls ∧ call.number ≠ n) ∨
      call.number = n ∧ call.stage = stage ∧ ∃ old ∈ c.calls, old.number = n ∧ old.kind = call.kind := by
  obtain ⟨old, hold, rfl⟩ := List.mem_map.mp h
  split
  · next hn => exact .inr ⟨beq_iff_eq.mp hn, rfl, old, hold, beq_iff_eq.mp hn, rfl⟩
  · next hn => exact .inl ⟨hold, by simpa using hn⟩

theorem numbers_setStage (c : Core) (n : Nat) (stage : Stage) :
    (c.setStage n stage).calls.map Call.number = c.calls.map Call.number := by
  simp only [Core.setStage, List.map_map]
  refine List.map_congr_left fun call _ => ?_
  simp only [Function.comp_apply]
  split <;> rfl

theorem nodup_setStage (h : c.Sound) (n : Nat) (stage : Stage) :
    ((c.setStage n stage).calls.map Call.number).Nodup := by
  rw [numbers_setStage]
  exact h.callNumbers

theorem lt_of_mem_setStage (h : c.Sound) {stage : Stage} {call : Call} (hmem : call ∈ (c.setStage n stage).calls) :
    call.number < c.numbered := by
  obtain ⟨old, hold, rfl⟩ := List.mem_map.mp hmem
  have hlt := h.calls_lt old hold
  split <;> exact hlt

theorem suits_of_mem_setStage (h : c.Sound) {stage' : Stage} (hcall : ⟨n, kind, stage⟩ ∈ c.calls)
    (hsuits : stage'.suits kind = true) {call : Call} (hmem : call ∈ (c.setStage n stage').calls) :
    call.stage.suits call.kind = true := by
  rcases mem_setStage hmem with ⟨hmem, -⟩ | ⟨-, hstage, old, hold, hn, hkind⟩
  · exact h.kinds call hmem
  · rw [hstage, ← hkind, h.number_inj hold hcall hn]
    exact hsuits

/-- A call is put at another stage, and the lock changes. -/
theorem putAt (h : c.Sound) {stage' : Stage} {lock : List Nat} (hcall : ⟨n, kind, stage⟩ ∈ c.calls)
    (hsuits : stage'.suits kind = true) (hinside : stage'.isInside = true → lock.head? = some n)
    (hothers : ∀ call ∈ c.calls, call.number ≠ n → call.stage.isInside = true →
      lock.head? = some call.number)
    (hquiet : stage'.isQuiet = true → c.generation = none ∧ c.roster = {})
    (hsettled : stage' = .settling → c.loops = []) (htold : stage.isQuiet = true → c.loops = []) :
    Sound { c.setStage n stage' with lock := lock } := by
  exact {
    h with
    callNumbers := h.nodup_setStage n stage'
    calls_lt := fun call hmem => h.lt_of_mem_setStage hmem
    told := fun hgen l hl => by
      obtain ⟨call, hmem, told, hstage, hin⟩ := h.told hgen l hl
      have hne : call.number ≠ n := by
        intro hn
        obtain rfl := h.number_inj hmem hcall hn
        have hnil := htold (by rw [show stage = .clearing told from hstage]; rfl)
        exact absurd (hnil ▸ hl) List.not_mem_nil
      exact ⟨call, List.mem_map.mpr ⟨call, hmem, by simp [hne]⟩, told, hstage, hin⟩
    inside := fun call hmem hin => by
      rcases mem_setStage hmem with ⟨hmem, hne⟩ | ⟨hn, hstage, -⟩
      · exact hothers call hmem hne hin
      · rw [hn]
        exact hinside (hstage ▸ hin)
    kinds := fun call hmem => h.suits_of_mem_setStage hcall hsuits hmem
    quiet := fun call hmem hq => by
      rcases mem_setStage hmem with ⟨hmem, -⟩ | ⟨-, hstage, -⟩
      · exact h.quiet call hmem hq
      · exact hquiet (hstage ▸ hq)
    settled := fun call hmem hst => by
      rcases mem_setStage hmem with ⟨hmem, -⟩ | ⟨-, hstage, -⟩
      · exact h.settled call hmem hst
      · exact hsettled (hstage.symm.trans hst) }

theorem clear (h : c.Sound) (hcall : ⟨n, kind, stage⟩ ∈ c.calls) (hturn : c.HasTurn n stage) :
    Sound { c.setStage n (.clearing (c.current.map PollingLoop.number)) with
      generation := none, roster := {} } := by
  have hhead := h.head_of_turn hcall hturn
  have hold : stage.isQuiet = false := by
    rcases hturn with ⟨rfl, -⟩ | ⟨settings, rfl⟩ <;> rfl
  -- every loop is of the generation that ends here, so every loop is told
  have htold : ∀ l ∈ c.loops, l.number ∈ c.current.map PollingLoop.number := by
    intro l hl
    cases hgen : c.generation with
    | none => exact absurd (h.loops_eq_nil_of_turn hcall hturn hgen ▸ hl) List.not_mem_nil
    | some g =>
      have hl' : c.generation = some l.generation := by rw [hgen, (h.current g hgen).2 l hl]
      exact List.mem_map_of_mem (List.mem_filter.mpr ⟨hl, beq_iff_eq.mpr hl'⟩)
  have hothers : ∀ call ∈ c.calls, call.number ≠ n → call.stage.isInside = false :=
    fun call hmem hne => h.not_inside_of_head hhead hmem hne
  exact {
    h with
    callNumbers := h.nodup_setStage n _
    calls_lt := fun call hmem => h.lt_of_mem_setStage hmem
    current := fun g hg => by cases hg
    told := fun _ l hl =>
      ⟨_, mem_setStage_self hcall, _, rfl, htold l hl⟩
    loaded := fun l _ hgen => by cases hgen
    inside := fun call hmem hin => by
      rcases mem_setStage hmem with ⟨hmem, hne⟩ | ⟨hn, -⟩
      · exact absurd hin (by rw [hothers call hmem hne]; exact Bool.false_ne_true)
      · rw [hn]
        exact hhead
    kinds := fun call hmem => h.suits_of_mem_setStage hcall rfl hmem
    quiet := fun _ _ _ => ⟨rfl, rfl⟩
    settled := fun call hmem hst => by
      rcases mem_setStage hmem with ⟨hmem, hne⟩ | ⟨-, hstage, -⟩
      · have hin := hothers call hmem hne
        rw [hst] at hin
        cases hin
      · cases hstage.symm.trans hst }

theorem endCalls (h : c.Sound) {stays : Call → Bool}
    (hstays : ∀ call ∈ c.calls, stays call = false → ∃ numbers, call.stage = .draining numbers) :
    Sound { c with calls := c.calls.filter stays } :=
  { h with
    callNumbers := h.callNumbers.sublist (List.filter_sublist.map _)
    calls_lt := fun call hcall => h.calls_lt call (List.mem_filter.mp hcall).1
    told := fun hgen l hl => by
      obtain ⟨call, hcall, told, hstage, hin⟩ := h.told hgen l hl
      refine ⟨call, List.mem_filter.mpr ⟨hcall, ?_⟩, told, hstage, hin⟩
      by_contra hgone
      obtain ⟨numbers, hdrain⟩ := hstays call hcall (by simpa using hgone)
      cases hstage.symm.trans hdrain
    inside := fun call hcall => h.inside call (List.mem_filter.mp hcall).1
    kinds := fun call hcall => h.kinds call (List.mem_filter.mp hcall).1
    quiet := fun call hcall => h.quiet call (List.mem_filter.mp hcall).1
    settled := fun call hcall => h.settled call (List.mem_filter.mp hcall).1 }

/-- The call that has the lock ends and hands it on. -/
theorem endHolder (h : c.Sound) (hhead : c.lock.head? = some n) (hloops : c.generation = none → c.loops = []) :
    (c.endCall n).release.Sound ∧ ∀ call ∈ (c.endCall n).release.calls, call.stage.isInside = false := by
  have hleft : ∀ call ∈ (c.endCall n).calls, call ∈ c.calls ∧ call.stage.isInside = false := by
    intro call hmem
    obtain ⟨hmem, hne⟩ := List.mem_filter.mp hmem
    exact ⟨hmem, h.not_inside_of_head hhead hmem (by simpa using hne)⟩
  refine ⟨{
    h with
    callNumbers := h.callNumbers.sublist (List.filter_sublist.map _)
    calls_lt := fun call hcall => h.calls_lt call (hleft call hcall).1
    told := fun hgen l hl => absurd (hloops hgen ▸ hl) List.not_mem_nil
    inside := fun call hcall hin => by
      rw [(hleft call hcall).2] at hin
      cases hin
    kinds := fun call hcall => h.kinds call (hleft call hcall).1
    quiet := fun call hcall => h.quiet call (hleft call hcall).1
    settled := fun call hcall => h.settled call (hleft call hcall).1 }, fun call hcall => (hleft call hcall).2⟩

/-! ## Loading -/

/-- A new generation may run, as long as there are no loops and no call waits to load. -/
theorem renew (h : c.Sound) (hloops : c.loops = []) (hout : ∀ call ∈ c.calls, call.stage.isInside = false) :
    Sound { c with generation := some (c.generations + 1), generations := c.generations + 1 } :=
  { h with
    current := fun g hg => by
      refine ⟨(Option.some.inj hg).symm, fun l hl => ?_⟩
      exact absurd (hloops ▸ hl) List.not_mem_nil
    told := fun hgen => by cases hgen
    loaded := fun l hl => absurd (hloops ▸ hl) List.not_mem_nil
    quiet := fun call hcall hq => by
      have hin := Stage.isInside_of_isQuiet hq
      rw [hout call hcall] at hin
      cases hin
    settled := fun call hcall hstage => by
      have hin := hout call hcall
      rw [hstage] at hin
      cases hin }

/-- The generation that may run gets the loops of scenarios that are taken in. -/
theorem takeIn (h : c.Sound) {g : Nat} {scenarios : List Scenario} {added : List PollingLoop}
    (hgen : c.generation = some g) (hloops : c.loops = [])
    (hout : ∀ call ∈ c.calls, call.stage.isInside = false) (hlist : c.store.list true = .ok scenarios)
    (htaken : Taken g c.numbered scenarios added) (loads : Nat) (roster : Roster) :
    Sound { c with
      loaded := kept scenarios, loads := loads, roster := roster, loops := c.loops ++ added
      numbered := c.numbered + added.length } := by
  have hnumber : ∀ l ∈ added, c.numbered ≤ l.number ∧ l.number < c.numbered + added.length := by
    intro l hl
    have hmem : l.number ∈ List.range' c.numbered added.length :=
      htaken.numbers ▸ List.mem_map_of_mem hl
    exact List.mem_range'_1.mp hmem
  have hscenario := htaken.scenarios_eq
  rw [hloops, List.nil_append]
  exact {
    h with
    loopNumbers := by
      show (added.map PollingLoop.number).Nodup
      rw [htaken.numbers]
      exact List.nodup_range'
    loops_lt := fun l hl => (hnumber l hl).2
    calls_lt := fun call hcall => Nat.lt_of_lt_of_le (h.calls_lt call hcall) (Nat.le_add_right _ _)
    runs_lt := fun r hr => Nat.lt_of_lt_of_le (h.runs_lt r hr) (Nat.le_add_right _ _)
    scenarios := by
      show (added.map PollingLoop.scenario).Nodup
      rw [hscenario]
      exact (Store.nodup_list h.keyed hlist).sublist (List.filter_sublist.map _)
    current := fun g' hg' => by
      obtain rfl : g = g' := Option.some.inj (hgen.symm.trans hg')
      exact ⟨(h.current g hgen).1, fun l hl => htaken.generation_eq l hl⟩
    told := fun hnone => by cases hgen.symm.trans hnone
    loaded := fun l hl _ => by
      have hmem : l.scenario ∈ (scenarios.filter Scenario.isPolled).map Scenario.id :=
        hscenario ▸ List.mem_map_of_mem hl
      exact isSome_find?_kept ((List.filter_sublist.map _).subset hmem)
    quiet := fun call hcall hq => by
      have hin := Stage.isInside_of_isQuiet hq
      rw [hout call hcall] at hin
      cases hin
    settled := fun call hcall hstage => by
      have hin := hout call hcall
      rw [hstage] at hin
      cases hin }

/-! ## Moves -/

/-- A move keeps the core sound. -/
theorem move {e : Event} {d : Core} (h : c.Sound) (hmove : Move e c d) : d.Sound := by
  cases hmove with
  | triggers hb _ => exact h.triggers hb
  | endLoop _ _ => exact h.filterLoops _
  | dropLoops _ => exact h.filterLoops _
  | spawn _ => exact h.spawn _ rfl
  | setRest _ => exact h.setRest _ _
  | endRun _ => exact h.withRuns (List.filter_sublist.map _)
  | stamp _ _ _ => exact h.stamp _ _
  | rows hrows => exact h.rows hrows
  | ask _ => exact h.ask _
  | close _ hcall =>
    exact h.putAt hcall rfl (by simp [Stage.isInside]) (fun call hmem _ => h.inside call hmem)
      (by simp [Stage.isQuiet]) (by simp) (by simp [Stage.isQuiet])
  | @queue n kind stage hcall hstage =>
    have hquiet : stage.isQuiet = false := by
      rcases hstage with rfl | ⟨inTime, rfl⟩ <;> rfl
    refine h.putAt hcall rfl (by simp [Stage.isInside]) (fun call hmem _ hin => ?_)
      (by simp [Stage.isQuiet]) (by simp) (by simp [hquiet])
    -- a call that waits for the lock does not change who has it
    rw [List.head?_append, h.inside call hmem hin, Option.some_or]
  | disconnect hcall hhead =>
    exact h.putAt hcall rfl (fun _ => hhead) (fun call hmem _ => h.inside call hmem)
      (by simp [Stage.isQuiet]) (by simp) (by simp [Stage.isQuiet])
  | clear hcall hturn => exact h.clear hcall hturn
  | settle hcall hover =>
    have hnil := h.loops_eq_nil_of_over hcall hover
    exact h.putAt hcall rfl (fun _ => h.inside _ hcall rfl) (fun call hmem _ => h.inside call hmem)
      (fun _ => h.quiet _ hcall rfl) (fun _ => hnil) (fun _ => hnil)
  | @leave n told hcall hover =>
    have hnil := h.loops_eq_nil_of_over hcall hover
    have hhead := h.inside _ hcall rfl
    refine h.putAt hcall rfl (by simp [Stage.isInside]) (fun call hmem hne hin => ?_)
      (by simp [Stage.isQuiet]) (by simp) (fun _ => hnil)
    rw [h.not_inside_of_head hhead hmem hne] at hin
    cases hin
  | giveUp _ _ => exact h.withRuns (List.filter_sublist.map _)
  | endCalls hstays => exact h.endCalls fun call hcall hgone => (hstays call hcall hgone).imp fun _ hdrain => hdrain.1
  | fail hcall hturn =>
    exact { (h.endHolder (h.head_of_turn hcall hturn) (h.loops_eq_nil_of_turn hcall hturn)).1 with }
  | load _ hcall hlist htaken =>
    have hnil := h.settled _ hcall rfl
    obtain ⟨hend, hout⟩ := h.endHolder (h.inside _ hcall rfl) fun _ => hnil
    exact (hend.renew hnil hout).takeIn rfl hnil hout hlist htaken _ _
  | loadNothing _ hcall =>
    have hnil := h.settled _ hcall rfl
    obtain ⟨hend, hout⟩ := h.endHolder (h.inside _ hcall rfl) fun _ => hnil
    exact hend.renew hnil hout

theorem moves {e : Event} {d : Core} (h : c.Sound) (hmoves : Moves e c d) : d.Sound := by
  induction hmoves with
  | refl => exact h
  | tail _ hmove ih => exact ih.move hmove

end Sound

end Core

/-- What every move of an event keeps is kept by the event. -/
theorem Moves.induction {P : Core → Prop} {e : Event} {c d : Core} (hmoves : Moves e c d) (hs : c.Sound)
    (h : P c) (hmove : ∀ c d, c.Sound → Move e c d → P c → P d) : P d := by
  induction hmoves with
  | refl => exact h
  | tail hpre hlast ih => exact hmove _ _ (hs.moves hpre) hlast ih

/-! ## Reachable states -/

theorem IsNew.sound {s : Scheduler} (h : IsNew s) : s.core.Sound := by
  rw [h.core]
  exact {
    keyed := h.keyed
    loopNumbers := List.nodup_nil
    loops_lt := by simp
    callNumbers := List.nodup_nil
    calls_lt := by simp
    runNumbers := List.nodup_nil
    runs_lt := by simp
    scenarios := List.nodup_nil
    current := by simp
    told := by simp
    loaded := by simp
    inside := by simp
    kinds := by simp
    quiet := by simp
    settled := by simp }

/-- What every move of an event keeps holds after the event, if it does when the event is a change of the store
by someone else. -/
theorem after_induction {P : Core → Prop} {s : Scheduler} {e : Event} (hs : s.core.Sound) (h : P s.core)
    (hstore : ∀ kept, e = .store kept → P { s.core with store := kept })
    (hmove : ∀ c d, c.Sound → Move e c d → P c → P d) : P (s.after e).core := by
  by_cases hkept : ∃ kept, e = .store kept
  · obtain ⟨kept, rfl⟩ := hkept
    exact hstore kept rfl
  · exact (moves_after hs fun kept heq => hkept ⟨kept, heq⟩).induction hs h hmove

/-- An event keeps the core sound. -/
theorem sound_after {s : Scheduler} (h : s.core.Sound) {e : Event} (he : e.Fits) :
    (s.after e).core.Sound := by
  refine after_induction h h (fun kept hkept => ?_) fun _ _ hsound hmove _ => hsound.move hmove
  subst hkept
  exact { h with keyed := he }

theorem sound_afterAll {s : Scheduler} (h : s.core.Sound) {es : List Event} (hes : ∀ e ∈ es, e.Fits) :
    (s.afterAll es).core.Sound :=
  Leads.induction (P := fun u => u.core.Sound) ⟨es, hes, rfl⟩ h fun _ _ he hu => sound_after hu he

/-- What every move and every change of the store by someone else keeps holds wherever events lead to. -/
theorem Leads.core_induction {P : Core → Prop} {s t : Scheduler} (hst : Leads s t) (hs : s.core.Sound)
    (h : P s.core) (hstore : ∀ c kept, P c → P { c with store := kept })
    (hmove : ∀ e c d, c.Sound → Move e c d → P c → P d) : P t.core := by
  refine (hst.induction (P := fun u => u.core.Sound ∧ P u.core) ⟨hs, h⟩ fun u e he hu => ?_).2
  exact ⟨sound_after hu.1 he, after_induction hu.1 hu.2 (fun kept _ => hstore u.core kept hu.2) (hmove e)⟩

/-- The core is sound in every reachable state. -/
theorem Reachable.sound {s : Scheduler} (h : Reachable s) : s.core.Sound := by
  obtain ⟨new, hnew, hleads⟩ := h
  exact hleads.induction (P := fun u => u.core.Sound) hnew.sound fun _ _ he hu => sound_after hu he

end Scheduler

end Deskhand
