import Deskhand.Proofs.Schedule.Sound

/-!
# Generations of loops

Loading anew ends the loops of one generation and starts those of the next one. Several loads and stops may be
asked for at once; they take turns. Main statements, for every reachable state:

* `Reachable.current_of_outside`: while no call is about what it has the lock for, every loop is of the latest
  generation, which may run, and no scenario has two;
* `ring_loop_of_not_current`: a loop whose generation may not run asks nothing and starts nothing, but ends;
* `Reachable.loops_after_load`: once a load has ended, no loop of an earlier generation comes back;
* `Reachable.run_stays`: a run goes only by its own turn or when a stop gives it up;
* `Reachable.generations_apart`: all of this.
-/

namespace Deskhand

namespace Scheduler

/-! ## What becomes of calls and loops -/

/-- The calls after a move were there before, with their kinds, unless the event asked for one. -/
theorem calls_of_move {e : Event} {c d : Core} (h : Move e c d) {call : Call} (hcall : call ∈ d.calls) :
    (∃ old ∈ c.calls, old.number = call.number ∧ old.kind = call.kind) ∨ e.asks = true := by
  have hstage : ∀ {c : Core} {n : Nat} {stage : Stage}, call ∈ (c.setStage n stage).calls →
      ∃ old ∈ c.calls, old.number = call.number ∧ old.kind = call.kind := by
    intro c n stage hmem
    obtain ⟨old, hold, rfl⟩ := List.mem_map.mp hmem
    refine ⟨old, hold, ?_⟩
    split <;> exact ⟨rfl, rfl⟩
  cases h with
  | ask he => exact .inr he
  | close _ _ => exact .inl (hstage hcall)
  | queue _ _ => exact .inl (hstage hcall)
  | disconnect _ _ => exact .inl (hstage hcall)
  | clear _ _ => exact .inl (hstage hcall)
  | settle _ _ => exact .inl (hstage hcall)
  | leave _ _ => exact .inl (hstage hcall)
  | endCalls _ => exact .inl ⟨call, (List.mem_filter.mp hcall).1, rfl, rfl⟩
  | fail _ _ => exact .inl ⟨call, (List.mem_filter.mp hcall).1, rfl, rfl⟩
  | load _ _ _ _ => exact .inl ⟨call, (List.mem_filter.mp hcall).1, rfl, rfl⟩
  | loadNothing _ _ => exact .inl ⟨call, (List.mem_filter.mp hcall).1, rfl, rfl⟩
  | _ => exact .inl ⟨call, hcall, rfl, rfl⟩

/-- The generation counter never goes back. -/
theorem generations_le_of_move {e : Event} {c d : Core} (h : Move e c d) : c.generations ≤ d.generations := by
  cases h with
  | load _ _ _ _ => exact Nat.le_succ _
  | loadNothing _ _ => exact Nat.le_succ _
  | _ => exact Nat.le_refl _

/-- A loop after a move was there before, or is of a generation that is new and has a number that is. -/
theorem loops_of_move {e : Event} {c d : Core} (h : Move e c d) {l : PollingLoop} (hl : l ∈ d.loops) :
    (∃ old ∈ c.loops, old.badge = l.badge) ∨
      c.generations < l.generation ∧ l.generation ≤ d.generations ∧ c.numbered ≤ l.number := by
  cases h with
  | triggers hb _ =>
    have hmem : l.badge ∈ c.loops.map PollingLoop.badge := hb ▸ List.mem_map_of_mem hl
    exact .inl (List.mem_map.mp hmem)
  | endLoop _ _ => exact .inl ⟨l, (List.mem_filter.mp hl).1, rfl⟩
  | dropLoops _ => exact .inl ⟨l, (List.mem_filter.mp hl).1, rfl⟩
  | load _ _ _ htaken =>
    rcases List.mem_append.mp hl with hl | hl
    · exact .inl ⟨l, hl, rfl⟩
    · have hnumber : l.number ∈ List.range' c.numbered _ := htaken.numbers ▸ List.mem_map_of_mem hl
      rw [htaken.generation_eq l hl]
      exact .inr ⟨Nat.lt_succ_self _, Nat.le_refl _, (List.mem_range'_1.mp hnumber).1⟩
  | _ => exact .inl ⟨l, hl, rfl⟩

/-! ## After a load -/

namespace Core

/-- All loops are of later generations than one that came before. -/
def IsPast (g : Nat) (c : Core) : Prop :=
  g ≤ c.generations ∧ ∀ l ∈ c.loops, g < l.generation

theorem IsPast.move {e : Event} {c d : Core} {g : Nat} (h : c.IsPast g) (hmove : Move e c d) : d.IsPast g := by
  refine ⟨Nat.le_trans h.1 (generations_le_of_move hmove), fun l hl => ?_⟩
  rcases loops_of_move hmove hl with ⟨old, hold, hb⟩ | ⟨hnew, -⟩
  · rw [← (PollingLoop.badge_eq_iff.mp hb).2.1]
    exact h.2 old hold
  · exact Nat.lt_of_le_of_lt h.1 hnew

/-- A load is under way. -/
def IsUnderWay (n : Nat) (c : Core) : Prop :=
  ∃ call ∈ c.calls, call.number = n ∧ call.kind = .load

theorem isUnderWay_setStage {c : Core} {n m : Nat} {stage : Stage} (h : c.IsUnderWay n) :
    (c.setStage m stage).IsUnderWay n := by
  obtain ⟨call, hcall, hn, hk⟩ := h
  refine ⟨_, List.mem_map_of_mem hcall, ?_⟩
  split <;> exact ⟨hn, hk⟩

/-- A move that ends another call leaves a load under way. -/
theorem IsUnderWay.filter {c : Core} {n : Nat} (h : c.IsUnderWay n) {stays : Call → Bool}
    (hstays : ∀ call ∈ c.calls, call.number = n → call.kind = .load → stays call = true) :
    ∃ call ∈ c.calls.filter stays, call.number = n ∧ call.kind = .load := by
  obtain ⟨call, hcall, hn, hk⟩ := h
  exact ⟨call, List.mem_filter.mpr ⟨hcall, hstays call hcall hn hk⟩, hn, hk⟩

/-- A load goes on, or ends with a fault, or ends at its alarm and leaves only loops that are new. -/
theorem IsUnderWay.move {e : Event} {c d : Core} {n : Nat} (h : c.IsUnderWay n) (hs : c.Sound)
    (hmove : Move e c d) :
    d.IsUnderWay n ∨ n ∈ d.failed.map Prod.fst ∨
      e = .alarm (.call n) ∧ ∀ l ∈ d.loops, c.generations < l.generation := by
  cases hmove with
  | ask _ =>
    obtain ⟨call, hcall, hn, hk⟩ := h
    exact .inl ⟨call, List.mem_append_left _ hcall, hn, hk⟩
  | close _ _ => exact .inl (isUnderWay_setStage h)
  | queue _ _ => exact .inl (isUnderWay_setStage h)
  | disconnect _ _ => exact .inl (isUnderWay_setStage h)
  | clear _ _ => exact .inl (isUnderWay_setStage h)
  | settle _ _ => exact .inl (isUnderWay_setStage h)
  | leave _ _ => exact .inl (isUnderWay_setStage h)
  | endCalls hstays =>
    refine .inl (h.filter fun call hcall _ hk => ?_)
    by_contra hgone
    obtain ⟨numbers, hdrain, -⟩ := hstays call hcall (by simpa using hgone)
    have hsuits := hs.kinds call hcall
    rw [hdrain, hk] at hsuits
    cases hsuits
  | @fail m stage fault _ _ =>
    by_cases hm : n = m
    · exact .inr (.inl (by simp [Core.release, Core.endCall, hm]))
    · exact .inl (h.filter fun call _ hn _ => by simp [hn, hm])
  | @load m scenarios added he hcall _ htaken =>
    by_cases hm : n = m
    · refine .inr (.inr ⟨hm ▸ he, fun l hl => ?_⟩)
      have hnil := hs.settled _ hcall rfl
      have hl : l ∈ c.loops ++ added := hl
      rw [hnil, List.nil_append] at hl
      rw [htaken.generation_eq l hl]
      exact Nat.lt_succ_self _
    · exact .inl (h.filter fun call _ hn _ => by simp [hn, hm])
  | @loadNothing m he hcall =>
    by_cases hm : n = m
    · refine .inr (.inr ⟨hm ▸ he, fun l hl => ?_⟩)
      have hnil := hs.settled _ hcall rfl
      exact absurd (hnil ▸ hl) List.not_mem_nil
    · exact .inl (h.filter fun call _ hn _ => by simp [hn, hm])
  | _ => exact .inl h

/-- The faults that calls met are kept. -/
theorem failed_of_move {e : Event} {c d : Core} (hmove : Move e c d) {n : Nat}
    (h : n ∈ c.failed.map Prod.fst) : n ∈ d.failed.map Prod.fst := by
  cases hmove with
  | fail _ _ => simp [Core.release, Core.endCall, h]
  | _ => exact h

/-- A load that was asked for is under way, or has met a fault, or has left no earlier loop. -/
def IsLoading (n g : Nat) (c : Core) : Prop :=
  g ≤ c.generations ∧ (c.IsUnderWay n ∨ n ∈ c.failed.map Prod.fst ∨ c.IsPast g)

theorem IsLoading.move {e : Event} {c d : Core} {n g : Nat} (h : c.IsLoading n g) (hs : c.Sound)
    (hmove : Move e c d) : d.IsLoading n g := by
  have hle := Nat.le_trans h.1 (generations_le_of_move hmove)
  refine ⟨hle, ?_⟩
  obtain ⟨hle', hload | hfault | hpast⟩ := h
  · rcases hload.move hs hmove with hgoes | hfails | ⟨-, hnew⟩
    · exact .inl hgoes
    · exact .inr (.inl hfails)
    · exact .inr (.inr ⟨hle, fun l hl => Nat.lt_of_le_of_lt hle' (hnew l hl)⟩)
  · exact .inr (.inl (failed_of_move hmove hfault))
  · exact .inr (.inr (hpast.move hmove))

end Core

theorem Core.IsPast.leads {s t : Scheduler} {g : Nat} (h : s.core.IsPast g) (hs : s.core.Sound)
    (hst : Leads s t) : t.core.IsPast g :=
  hst.core_induction hs h (fun _ _ hc => hc) fun _ _ _ _ hmove hc => hc.move hmove

theorem Core.IsLoading.leads {s t : Scheduler} {n g : Nat} (h : s.core.IsLoading n g) (hs : s.core.Sound)
    (hst : Leads s t) : t.core.IsLoading n g :=
  hst.core_induction hs h (fun _ _ hc => hc) fun _ _ _ hsound hmove hc => hc.move hsound hmove

/-- Once a load that was asked for has ended without a fault, no loop of a generation from before that comes
back. -/
theorem Reachable.loops_after_load {s t u : Scheduler} (hs : Reachable s) {call : Call} (hcall : call ∈ s.calls)
    (hkind : call.kind = .load) (hst : Leads s t) (hover : ∀ c ∈ t.calls, c.number ≠ call.number)
    (hfault : call.number ∉ t.failed.map Prod.fst) (htu : Leads t u) :
    ∀ l ∈ u.loops, s.generations < l.generation := by
  have hload : s.core.IsLoading call.number s.generations :=
    ⟨Nat.le_refl _, .inl ⟨call, hcall, rfl, hkind⟩⟩
  obtain ⟨-, hthere | hfailed | hpast⟩ := hload.leads hs.sound hst
  · obtain ⟨c, hc, hn, -⟩ := hthere
    exact absurd hn (hover c hc)
  · exact absurd hfailed hfault
  · exact (hpast.leads (hs.leads hst).sound htu).2

/-! ## Turns of loops -/

/-- While no call is about what it has the lock for, every loop is of the latest generation, which may run. -/
theorem Reachable.current_of_outside {s : Scheduler} (hs : Reachable s)
    (hout : ∀ call ∈ s.calls, call.stage.isInside = false) :
    ∀ l ∈ s.loops, s.generation = some l.generation ∧ l.generation = s.generations := by
  intro l hl
  cases hgen : s.generation with
  | none =>
    obtain ⟨call, hcall, told, hstage, -⟩ := hs.sound.told hgen l hl
    have hin := hout call hcall
    rw [hstage] at hin
    cases hin
  | some g =>
    obtain ⟨hlast, hall⟩ := hs.sound.current g hgen
    have hlg : l.generation = g := hall l hl
    exact ⟨congrArg some hlg.symm, hlg.trans hlast⟩

/-- What handing on the lock leaves as it is. -/
theorem release_frame (s : Scheduler) :
    s.release.runs = s.runs ∧ s.release.loops = s.loops ∧ s.release.roster = s.roster ∧
      s.release.around = s.around := by
  simp only [release]
  split <;> exact ⟨rfl, rfl, rfl, rfl⟩

/-- What going on with calls leaves as it is. -/
theorem followClearing_frame (s : Scheduler) :
    s.followClearing.runs = s.runs ∧ s.followClearing.loops = s.loops ∧
      s.followClearing.roster = s.roster ∧ s.followClearing.around = s.around := by
  have hdrain : ∀ (s : Scheduler) (n : Nat), (s.beginDraining n).runs = s.runs ∧
      (s.beginDraining n).loops = s.loops ∧ (s.beginDraining n).roster = s.roster ∧
      (s.beginDraining n).around = s.around := by
    intro s n
    rw [beginDraining]
    split <;> exact ⟨rfl, rfl, rfl, rfl⟩
  rw [followClearing]
  split
  · next c _ =>
    rcases c with ⟨m, kind, stage⟩
    cases kind with
    | load => exact ⟨rfl, rfl, rfl, rfl⟩
    | stop =>
      generalize hkeep : ({ s with agenda := s.agenda.keep (· != Alarm.call m) } : Scheduler) = s'
      have hleave : s.leaveClearing m .stop = s'.release.beginDraining m := by rw [← hkeep]; rfl
      obtain ⟨hr, hl, ho, ha⟩ := hdrain s'.release m
      obtain ⟨hr', hl', ho', ha'⟩ := release_frame s'
      rw [hleave, hr, hl, ho, ha, hr', hl', ho', ha', ← hkeep]
      exact ⟨rfl, rfl, rfl, rfl⟩
  · exact ⟨rfl, rfl, rfl, rfl⟩

/-- A loop whose generation may not run asks nothing and starts nothing at its turn, but ends. -/
theorem ring_loop_of_not_current {s : Scheduler} {n : Nat}
    (h : ∀ l ∈ s.loops, l.number = n → s.generation ≠ some l.generation) :
    (s.ring (.loop n)).runs = s.runs ∧ (s.ring (.loop n)).around = s.around ∧
      (s.ring (.loop n)).loops = s.loops.filter fun l => l.number != n := by
  have hwake : (s.wakeLoop n).runs = s.runs ∧ (s.wakeLoop n).around = s.around ∧
      (s.wakeLoop n).loops = s.loops.filter fun l => l.number != n := by
    rw [wakeLoop]
    split
    · next hfind =>
      refine ⟨rfl, rfl, (List.filter_eq_self.mpr fun l hl => ?_).symm⟩
      have hne := List.find?_eq_none.mp hfind l hl
      simpa using hne
    · next l hfind =>
      have hl := h l (List.mem_of_find?_eq_some hfind) (by simpa using List.find?_some hfind)
      rw [if_neg (by simpa using hl)]
      refine ⟨rfl, rfl, ?_⟩
      show (s.loops.filter fun l => !([n].contains l.number)) = _
      refine List.filter_congr fun l _ => ?_
      simp [bne, beq_eq_decide]
  obtain ⟨hr, hl, -, ha⟩ := followClearing_frame (s.wakeLoop n)
  exact ⟨hr.trans hwake.1, ha.trans hwake.2.1, hl.trans hwake.2.2⟩

/-! ## Runs -/

/-- What keeps a run: the event is neither its turn nor that of a stop. -/
def Core.HasRun (e : Event) (run : Run) (c : Core) : Prop :=
  run ∈ c.runs ∧ ∀ call ∈ c.calls, call.kind = .stop → e ≠ .alarm (.call call.number)

theorem Core.HasRun.move {e : Event} {run : Run} {c d : Core} (h : c.HasRun e run) (hs : c.Sound)
    (hown : e ≠ .alarm (.run run.number)) (hmove : Move e c d) : d.HasRun e run := by
  refine ⟨?_, fun call hcall hkind => ?_⟩
  · cases hmove with
    | spawn _ => exact List.mem_append_left _ h.1
    | @setRest n rest he =>
      have hne : run.number ≠ n := fun hn => hown (hn ▸ he)
      exact List.mem_map.mpr ⟨run, h.1, by simp [hne]⟩
    | @endRun n success he =>
      have hne : run.number ≠ n := fun hn => hown (hn ▸ he)
      exact List.mem_filter.mpr ⟨h.1, by simpa using hne⟩
    | @giveUp n kind numbers he hcall =>
      have hkind : kind = .stop := beq_iff_eq.mp (hs.kinds _ hcall)
      exact absurd he (h.2 _ hcall hkind)
    | _ => exact h.1
  · rcases calls_of_move hmove hcall with ⟨old, hold, hn, hk⟩ | hasks
    · exact hn ▸ h.2 old hold (hk.trans hkind)
    · rintro rfl
      cases hasks

/-- A run stays as it is, but for its own turns and for a stop that gives it up. -/
theorem Reachable.run_stays {s : Scheduler} (hs : Reachable s) {e : Event} {run : Run} (hrun : run ∈ s.runs)
    (hown : e ≠ .alarm (.run run.number))
    (hstop : ∀ call ∈ s.calls, call.kind = .stop → e ≠ .alarm (.call call.number)) :
    run ∈ (s.after e).runs := by
  have hrun' : s.core.HasRun e run := ⟨hrun, hstop⟩
  exact (after_induction hs.sound hrun' (fun _ _ => hrun') fun _ _ hsound hmove hc =>
    hc.move hsound hown hmove).1

/-- Generations of loops are kept apart, whatever is asked of a scheduler and in whatever order. While no load
and no stop is about what it has the lock for, every loop is of the latest generation, which may run, and no
scenario has two. At its turn a loop whose generation may not run asks nothing and starts nothing. Once a load
has ended without a fault, no loop of an earlier generation comes back. No load takes a run away. -/
theorem Reachable.generations_apart {s : Scheduler} (hs : Reachable s) :
    ((∀ call ∈ s.calls, call.stage.isInside = false) →
      (∀ l ∈ s.loops, s.generation = some l.generation ∧ l.generation = s.generations) ∧
        (s.loops.map PollingLoop.scenario).Nodup) ∧
    (∀ n, (∀ l ∈ s.loops, l.number = n → s.generation ≠ some l.generation) →
      (s.ring (.loop n)).runs = s.runs ∧ (s.ring (.loop n)).around = s.around ∧
        (s.ring (.loop n)).loops = s.loops.filter fun l => l.number != n) ∧
    (∀ call ∈ s.calls, call.kind = .load → ∀ t, Leads s t → (∀ c ∈ t.calls, c.number ≠ call.number) →
      call.number ∉ t.failed.map Prod.fst → ∀ u, Leads t u → ∀ l ∈ u.loops, s.generations < l.generation) ∧
    (∀ e, ∀ run ∈ s.runs, e ≠ .alarm (.run run.number) →
      (∀ call ∈ s.calls, call.kind = .stop → e ≠ .alarm (.call call.number)) → run ∈ (s.after e).runs) :=
  ⟨fun hout => ⟨hs.current_of_outside hout, hs.sound.scenarios⟩,
    fun _ => ring_loop_of_not_current,
    fun _ hcall hkind _ hst hover hfault _ htu => hs.loops_after_load hcall hkind hst hover hfault htu,
    fun _ _ hrun hown hstop => hs.run_stays hrun hown hstop⟩

/-- A row with an active scenario that is polled. -/
def pollingRow : Row :=
  { id := "a", name := "Poll", active := .int 1
    blocks := "[\x7b\"Type\":\"CyclicTrigger\",\"Id\":\"t\"\x7d]" }

/-- A scheduler that was started and has loaded that scenario, with a second load under way. -/
def polling : Scheduler :=
  (ofRows [pollingRow] none).afterAll [.start, .alarm (.call 0), .reload]

theorem generations_apart_polling :
    Reachable polling ∧ polling.loops.length = 1 ∧ polling.calls.length = 1 ∧
      (polling.ring (.loop 1)).runs = polling.runs := by
  have hnew : IsNew (ofRows [pollingRow] none) := isNew_ofRows (by decide) none
  have hs : Reachable polling := by
    rw [polling, afterAll_cons, afterAll_cons, afterAll_cons, afterAll_nil]
    exact ((hnew.reachable.after (e := .start) trivial).after (e := .alarm (.call 0)) trivial).after
      (e := .reload) trivial
  have hgen : polling.generation = none := by decide +kernel
  refine ⟨hs, by decide +kernel, by decide +kernel, ?_⟩
  exact (hs.generations_apart.2.1 1 fun l _ _ => by simp [hgen]).1

end Scheduler

end Deskhand
