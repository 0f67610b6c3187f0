import Deskhand.Proofs.Entries
import Deskhand.Proofs.Schedule.Placement

/-!
# One load at a time

Where all that was asked of a scheduler is one load (`Core.Attended`), each event either leaves what is loaded as
it is, or is the alarm with which that load ends (`Attended.after`). A load that ends so leaves what counts of the
active scenarios of the store, if they can be read, and what was loaded before otherwise (`Scheduler.refreshed`).
A scenario counts with its id, its name and its chain. Main statements:

* `Store.mem_counted_of_list`: what counts of the scenarios that are listed is what the rows say;
* `Core.Attended.moves`: what other events leave as it is;
* `Core.Attended.ends`: the end of the load;
* `Core.Attended.after`: every event.
-/

namespace Deskhand

/-- What of a scenario counts: its id, its name and its chain. -/
def Scenario.counted (s : Scenario) : String × String × String :=
  (s.id, s.name, s.blocks)

/-- What of the scenario of a row counts. -/
def Row.counted (r : Row) : String × String × String :=
  (r.id, r.name, Row.orDefault (some r.blocks) Scenario.noBlocks)

theorem Row.counted_of_scenario {r : Row} {s : Scenario} (h : r.scenario = .ok s) : s.counted = r.counted := by
  obtain ⟨last, -, rfl⟩ := eq_of_scenario h
  rfl

namespace Store

/-- What counts of the active scenarios of a store. -/
def counted (s : Store) : List (String × String × String) :=
  (s.rows.filter Row.isActive).map Row.counted

/-- What counts of the scenarios that are listed is what their rows say, in their order. -/
theorem counted_of_list {s : Store} {scenarios : List Scenario} (h : s.list true = .ok scenarios) :
    scenarios.map Scenario.counted = (s.listed true).map Row.counted :=
  map_list Row.counted_of_scenario h

/-- What counts of the scenarios that are listed is what the active rows say. -/
theorem mem_counted_of_list {s : Store} {scenarios : List Scenario} (h : s.list true = .ok scenarios)
    (c : String × String × String) : c ∈ scenarios.map Scenario.counted ↔ c ∈ s.counted := by
  simp only [counted_of_list h, counted, List.mem_map, List.mem_filter, mem_listed]

end Store

namespace Scheduler

namespace Core

variable {c d : Core} {e : Event} {n : Nat}

/-- What counts of the loaded scenarios, in their order. -/
def counted (c : Core) : List (String × String × String) :=
  c.loaded.map fun entry => entry.2.counted

/-- Nothing was asked of a scheduler but loads, of which one at most is under way. -/
structure Attended (awaited : Option Nat) (c : Core) : Prop where
  sound : c.Sound
  calls : ∀ call ∈ c.calls, call.kind = .load ∧ awaited = some call.number
  failed_lt : ∀ n ∈ c.failed.map Prod.fst, n < c.numbered
  /-- A call that met a fault is over. -/
  unfailed : ∀ call ∈ c.calls, call.number ∉ c.failed.map Prod.fst

/-! ## What a move leaves as it is -/

theorem counted_of_move (h : Move e c d) (he : ∀ n, e ≠ .alarm (.call n)) : d.counted = c.counted := by
  cases h with
  | stamp _ _ _ =>
    simp only [counted, List.map_map]
    refine List.map_congr_left fun entry _ => ?_
    simp only [Function.comp_apply]
    split <;> rfl
  | load hown _ _ _ => exact absurd hown (he _)
  | _ => rfl

theorem numbered_le_of_move (h : Move e c d) : c.numbered ≤ d.numbered := by
  cases h with
  | spawn _ => exact Nat.le_succ _
  | ask _ => exact Nat.le_succ _
  | load _ _ _ _ => exact Nat.le_add_right _ _
  | _ => exact Nat.le_refl _

/-- What meets a fault is a call, which is over then. -/
theorem new_failed_of_move (h : Move e c d) (hn : n ∈ d.failed.map Prod.fst) :
    n ∈ c.failed.map Prod.fst ∨ n ∈ c.calls.map Call.number ∧ n ∉ d.calls.map Call.number := by
  cases h with
  | @fail m stage fault hcall _ =>
    simp only [release, endCall, List.map_append, List.mem_append, List.map_cons, List.map_nil,
      List.mem_singleton] at hn
    refine hn.imp id ?_
    rintro rfl
    refine ⟨List.mem_map_of_mem hcall, fun hmem => ?_⟩
    obtain ⟨call, hleft, hnumber⟩ := List.mem_map.mp hmem
    have hne := (List.mem_filter.mp hleft).2
    simp [hnumber] at hne
  | _ => exact .inl hn

namespace Attended

variable {awaited : Option Nat}

theorem move (h : c.Attended awaited) (he : e.asks = false) (hmove : Move e c d) : d.Attended awaited := by
  have hcalls : ∀ call ∈ d.calls, ∃ old ∈ c.calls, old.number = call.number ∧ old.kind = call.kind := by
    intro call hcall
    rcases calls_of_move hmove hcall with hold | hasks
    · exact hold
    · cases he.symm.trans hasks
  refine ⟨h.sound.move hmove, fun call hcall => ?_, fun n hn => ?_, fun call hcall hn => ?_⟩
  · obtain ⟨old, hold, hnumber, hkind⟩ := hcalls call hcall
    exact hnumber ▸ hkind ▸ h.calls old hold
  · refine Nat.lt_of_lt_of_le ?_ (numbered_le_of_move hmove)
    rcases new_failed_of_move hmove hn with hn | ⟨hn, -⟩
    · exact h.failed_lt n hn
    · obtain ⟨call, hcall, rfl⟩ := List.mem_map.mp hn
      exact h.sound.calls_lt call hcall
  · obtain ⟨old, hold, hnumber, -⟩ := hcalls call hcall
    rcases new_failed_of_move hmove hn with hn | ⟨-, hgone⟩
    · exact h.unfailed old hold (hnumber ▸ hn)
    · exact hgone (List.mem_map_of_mem hcall)

/-- A load is open after a move iff it was before. -/
theorem isOpen_iff_of_move (h : c.Attended awaited) (he : e.asks = false) (hmove : Move e c d)
    (hcall : ∀ n, e ≠ .alarm (.call n)) : d.IsOpen n ↔ c.IsOpen n := by
  have hload : n ∈ c.calls.map Call.number → c.IsUnderWay n := fun hn => by
    obtain ⟨call, hcall, hnumber⟩ := List.mem_map.mp hn
    exact ⟨call, hcall, hnumber, (h.calls call hcall).1⟩
  constructor
  · rintro (⟨call, hcall, hnumber, -⟩ | hfault)
    · rcases calls_of_move hmove hcall with ⟨old, hold, hsame, -⟩ | hasks
      · exact .inl (hload (List.mem_map.mpr ⟨old, hold, hsame.trans hnumber⟩))
      · cases he.symm.trans hasks
    · rcases new_failed_of_move hmove hfault with hold | ⟨hcall, -⟩
      · exact .inr hold
      · exact .inl (hload hcall)
  · exact fun hopen => hopen.move h.sound (hcall n) hmove

/-- What moves in the course of an event leave as it is, unless the event asks for a call or is the alarm of one. -/
theorem moves (h : c.Attended awaited) (he : e.asks = false) (hmoves : Moves e c d)
    (hcall : ∀ n, e ≠ .alarm (.call n)) :
    d.Attended awaited ∧ d.counted = c.counted ∧ ∀ n, d.IsOpen n ↔ c.IsOpen n := by
  induction hmoves with
  | refl => exact ⟨h, rfl, fun _ => Iff.rfl⟩
  | tail _ hlast ih =>
    obtain ⟨hatt, hcounted, hopen⟩ := ih
    exact ⟨hatt.move he hlast, (counted_of_move hlast hcall).trans hcounted,
      fun n => (hatt.isOpen_iff_of_move he hlast hcall).trans (hopen n)⟩

/-- With no call under way, any one may be awaited. -/
theorem of_calls_nil (h : c.Attended awaited) (hnil : c.calls = []) (awaited' : Option Nat) :
    c.Attended awaited' :=
  { h with calls := fun _ hcall => absurd (hnil ▸ hcall) List.not_mem_nil }

theorem calls_eq_nil (h : c.Attended none) : c.calls = [] :=
  List.eq_nil_iff_forall_not_mem.mpr fun _ hcall => nomatch (h.calls _ hcall).2

/-- With no call under way, what is open has met a fault. -/
theorem isOpen_iff (h : c.Attended none) : c.IsOpen n ↔ n ∈ c.failed.map Prod.fst := by
  have hnot : ¬c.IsUnderWay n := fun ⟨call, hcall, _⟩ => nomatch (h.calls call hcall).2
  exact or_iff_right hnot

end Attended

end Core

/-! ## Events -/

/-- Whether an event comes from outside: someone asks for a run, or a key, a message or a report comes. -/
def Event.isInbound : Event → Bool
  | .run _ | .hotkey _ _ | .press _ _ | .release _ | .command _ | .message _ _ | .paired _ | .report _ _ => true
  | _ => false

/-- What comes from outside asks for no call, and is no alarm of one. -/
theorem Event.asks_of_isInbound {e : Event} (he : e.isInbound = true) :
    e.asks = false ∧ (∀ kept, e ≠ .store kept) ∧ ∀ n, e ≠ .alarm (.call n) := by
  cases e <;> simp_all [isInbound, asks]

/-- What would count of the loaded scenarios if a load ended now. -/
def refreshed (s : Scheduler) : List (String × String × String) :=
  match s.ask .list (s.store.list true) with
  | .ok scenarios => scenarios.map Scenario.counted
  | .error _ => s.core.counted

theorem kept_of_nodup {scenarios : List Scenario} (h : (scenarios.map Scenario.id).Nodup) :
    kept scenarios = scenarios.map fun scenario => (scenario.id, scenario) := by
  refine Entries.ofPairs_of_nodup ?_
  rw [List.map_map]
  exact h

variable {s : Scheduler} {n : Nat}

theorem counted_load (hs : s.core.Sound) : s.load.core.counted = s.refreshed := by
  rw [refreshed]
  split
  · next scenarios hask =>
    obtain ⟨added, -, hload⟩ := core_load hask
    have hkept := kept_of_nodup (Store.nodup_list hs.keyed (eq_of_ask hask))
    rw [hload]
    simp only [Core.counted, hkept, List.map_map]
    rfl
  · next fault hask =>
    rw [load_of_error hask]
    rfl

/-- What loading leaves as it is. -/
theorem load_frame (s : Scheduler) :
    s.load.calls = s.calls ∧ s.load.failed = s.failed ∧ s.numbered ≤ s.load.numbered := by
  cases hask : s.ask .list (s.store.list true) with
  | ok scenarios =>
    obtain ⟨added, -, hload⟩ := core_load hask
    refine ⟨congrArg Core.calls hload, congrArg Core.failed hload, ?_⟩
    rw [show s.load.numbered = s.numbered + added.length from congrArg Core.numbered hload]
    exact Nat.le_add_right _ _
  | error fault =>
    rw [load_of_error hask]
    exact ⟨rfl, rfl, Nat.le_refl _⟩

/-- The end of a load leaves what counts of the store, if that can be read. -/
theorem Core.Attended.finishLoading (h : s.core.Attended (some n)) (hcall : ⟨n, .load, .settling⟩ ∈ s.calls) :
    (s.finishLoading n).core.Attended none ∧ n ∉ (s.finishLoading n).core.failed.map Prod.fst ∧
      (s.finishLoading n).core.counted = s.refreshed := by
  obtain ⟨hcalls, hfailed, hnumbered⟩ := load_frame s
  have hload : (s.finishLoading n).core = (s.load.core.endCall n).release := by
    rw [Scheduler.finishLoading, core_release]
    rfl
  have hsound : (s.finishLoading n).core.Sound :=
    h.sound.moves (moves_finishLoading (e := .alarm (.call n)) rfl hcall)
  have hover : (s.finishLoading n).core.calls = [] := by
    rw [hload]
    show s.load.calls.filter (·.number != n) = []
    rw [hcalls, List.filter_eq_nil_iff]
    intro call hmem
    have hnumber := Option.some.inj (h.calls call hmem).2
    simp [hnumber]
  have hfaults : (s.finishLoading n).core.failed = s.failed := by
    rw [hload]
    exact hfailed
  refine ⟨⟨hsound, fun _ hmem => ?_, fun m hm => ?_, fun _ hmem => ?_⟩, ?_, ?_⟩
  · exact absurd (hover ▸ hmem) List.not_mem_nil
  · rw [hfaults] at hm
    rw [hload]
    exact Nat.lt_of_lt_of_le (h.failed_lt m hm) hnumbered
  · exact absurd (hover ▸ hmem) List.not_mem_nil
  · rw [hfaults]
    exact h.unfailed _ hcall
  · calc (s.finishLoading n).core.counted = s.load.core.counted := by rw [hload]; rfl
      _ = s.refreshed := counted_load h.sound

/-- A load that ends at its alarm leaves what counts of the store, if that can be read. -/
theorem Core.Attended.ends (h : s.core.Attended (some n)) (hcall : ⟨n, .load, .settling⟩ ∈ s.calls) :
    (s.ring (.call n)).core.Attended none ∧ ¬(s.ring (.call n)).core.IsOpen n ∧
      (s.ring (.call n)).core.counted = s.refreshed := by
  have hfind : s.calls.find? (·.number == n) = some ⟨n, .load, .settling⟩ :=
    find?_number h.sound.callNumbers hcall
  have hring : s.ring (.call n) = (s.finishLoading n).followClearing.endDrained := by
    rw [ring, handle, wakeCall, hfind]
  have hrest : Moves (.alarm .signal) (s.finishLoading n).core (s.ring (.call n)).core := by
    rw [hring]
    exact (moves_followClearing _).trans (moves_endDrained _)
  obtain ⟨hatt, hfault, hloaded⟩ := h.finishLoading hcall
  obtain ⟨hatt', hcounted, hopen⟩ := hatt.moves rfl hrest (by simp)
  refine ⟨hatt', ?_, hcounted.trans hloaded⟩
  rw [hopen n, hatt.isOpen_iff]
  exact hfault

/-- An alarm of a call that is not about to load does nothing that anything else could not do as well. -/
theorem Core.Attended.moves_ring_call {awaited : Option Nat} (h : s.core.Attended awaited)
    (hstage : ∀ call ∈ s.calls, call.number = n → call.stage ≠ .settling) :
    Moves (.alarm .signal) s.core (s.ring (.call n)).core := by
  have hwake : Moves (.alarm .signal) s.core (s.wakeCall n).core := by
    refine moves_wakeCall h.sound n fun call hcall hnum hlate => ?_
    rcases hlate with hsettling | ⟨numbers, hdraining⟩
    · exact absurd hsettling (hstage call hcall hnum)
    · -- only stops wait for runs, and none was asked for
      have hsuits := h.sound.kinds call hcall
      rw [hdraining, (h.calls call hcall).1] at hsuits
      cases hsuits
  exact (hwake.trans (moves_followClearing _)).trans (moves_endDrained _)

/-- What an event does to a scheduler of which one load at most was asked: either it leaves what is loaded as it
is, and the load open or not, or it is the end of that load. -/
theorem Core.Attended.after {awaited : Option Nat} (h : s.core.Attended awaited) {e : Event}
    (he : (∃ a, e = .alarm a) ∨ e.isInbound = true) :
    ((s.after e).core.Attended awaited ∧ (s.after e).core.counted = s.core.counted ∧
      ∀ n, (s.after e).core.IsOpen n ↔ s.core.IsOpen n) ∨
    ∃ n, awaited = some n ∧ (s.after e).core.Attended none ∧ s.core.IsOpen n ∧ ¬(s.after e).core.IsOpen n ∧
      (s.after e).core.counted = s.refreshed := by
  rcases he with ⟨a, rfl⟩ | he
  · by_cases hcall : ∃ n, a = .call n
    · obtain ⟨n, rfl⟩ := hcall
      by_cases hsettling : ∃ call ∈ s.calls, call.number = n ∧ call.stage = .settling
      · obtain ⟨⟨m, kind, stage⟩, hmem, rfl, rfl⟩ := hsettling
        obtain ⟨rfl, hawaited⟩ := h.calls _ hmem
        rw [hawaited] at h
        obtain ⟨hatt, hopen, hcounted⟩ := h.ends hmem
        exact .inr ⟨m, hawaited, hatt, .inl ⟨_, hmem, rfl, rfl⟩, hopen, hcounted⟩
      · refine .inl (h.moves rfl (h.moves_ring_call fun call hmem hnum hstage => ?_) (by simp))
        exact hsettling ⟨call, hmem, hnum, hstage⟩
    · have hmoves : Moves (.alarm a) s.core (s.after (.alarm a)).core := moves_after h.sound (by simp)
      exact .inl (h.moves rfl hmoves fun n hn => hcall ⟨n, Event.alarm.inj hn⟩)
  · obtain ⟨hasks, hstore, hcall⟩ := Event.asks_of_isInbound he
    exact .inl (h.moves hasks (moves_after h.sound hstore) hcall)

/-- Asking for a load anew, with no call under way. -/
theorem Core.Attended.reload (h : s.core.Attended none) :
    s.reload.1 = s.numbered ∧ s.reload.2.core.Attended (some s.numbered) ∧
      s.reload.2.core.counted = s.core.counted ∧ s.reload.2.core.IsOpen s.numbered := by
  have honly : (s.addCall .load).2.core.calls = [{ number := s.numbered, kind := .load }] := by
    show s.calls ++ [_] = _
    rw [show s.calls = [] from h.calls_eq_nil, List.nil_append]
  have hasked : (s.addCall .load).2.core.Attended (some s.numbered) :=
    { sound := h.sound.ask .load
      calls := fun call hcall => by
        rw [honly, List.mem_singleton] at hcall
        rw [hcall]
        exact ⟨rfl, rfl⟩
      failed_lt := fun n hn => Nat.lt_succ_of_lt (h.failed_lt n hn)
      unfailed := fun call hcall hn => by
        rw [honly, List.mem_singleton] at hcall
        rw [hcall] at hn
        exact Nat.lt_irrefl _ (h.failed_lt _ hn) }
  have hmoves : Moves (.alarm .signal) (s.addCall .load).2.core s.reload.2.core :=
    moves_enqueue (mem_addCall s .load) (.inl rfl)
  obtain ⟨hatt, hcounted, hopen⟩ := hasked.moves rfl hmoves (by simp)
  exact ⟨rfl, hatt, hcounted, (hopen _).mpr (.inl ⟨_, mem_addCall s .load, rfl, rfl⟩)⟩

end Scheduler

end Deskhand
