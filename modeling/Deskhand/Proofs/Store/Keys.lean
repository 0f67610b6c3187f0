import Deskhand.Store.Basic
import Mathlib.Data.List.Perm.Basic
import Mathlib.Data.List.Forall2
import Mathlib.Data.List.Nodup

/-!
# The ids of a store

No two rows of a store have the same id (`Store.IsKeyed`). The store starts so, and every operation keeps it
so: `create` asks whether an id is taken, and no other operation touches an id. What is listed then has
distinct ids as well. Main statements:

* `isKeyed_create`, `isKeyed_update`, `isKeyed_write`, `isKeyed_setLastExecuted`, `isKeyed_delete`,
  `isKeyed_save`: the operations keep the ids distinct;
* `sameRows_setLastExecuted`: noting when a scenario ran last changes nothing else;
* `list_spec`, `map_list`: the scenarios that are listed are those of the rows that count, one for one, in their
  order;
* `nodup_list`: their ids are distinct;
* `SameRows.list`: what is listed does not depend on when scenarios ran last.
-/

namespace Deskhand

/-- A scenario without the time at which it ran last. -/
def Scenario.timeless (s : Scenario) : Scenario :=
  { s with lastExecuted := none }

namespace Row

/-- A row without the time at which its scenario ran last. -/
def timeless (r : Row) : Row :=
  { r with lastExecuted := .null }

theorem eq_of_scenario {r : Row} {s : Scenario} (h : r.scenario = .ok s) :
    ∃ last, instant r.lastExecuted = .ok last ∧
      s = { id := r.id, name := r.name, isActive := r.active.isTruthy
            blocks := orDefault (some r.blocks) Scenario.noBlocks, lastExecuted := last
            color := some (orDefault r.color Scenario.defaultColor), lastContext := r.context } := by
  rw [scenario] at h
  cases hlast : instant r.lastExecuted with
  | error fault => simp [hlast, bind, Except.bind] at h
  | ok last =>
    simp only [hlast, bind, Except.bind, pure, Except.pure, Except.ok.injEq] at h
    exact ⟨last, rfl, h.symm⟩

/-- The scenario of a row without the time is that of the row without the time. -/
theorem scenario_timeless {r : Row} {s : Scenario} (h : r.scenario = .ok s) :
    r.timeless.scenario = .ok s.timeless := by
  obtain ⟨last, -, rfl⟩ := eq_of_scenario h
  rfl

theorem id_of_set {r r' : Row} {column : Column} {v : Value} (h : r.set column v = .ok r') :
    r'.id = r.id := by
  cases column <;> simp only [set] at h
  case name =>
    cases hf : filled .name v with
    | error fault => simp [hf, Except.map] at h
    | ok text =>
      rw [hf] at h
      rw [← Except.ok.inj h]
  case blocks =>
    cases hf : filled .blocks v with
    | error fault => simp [hf, Except.map] at h
    | ok text =>
      rw [hf] at h
      rw [← Except.ok.inj h]
  all_goals rw [← Except.ok.inj h]

theorem id_of_foldlM_set {changes : List (Column × Value)} {r r' : Row}
    (h : changes.foldlM (fun r e => r.set e.1 e.2) r = .ok r') : r'.id = r.id := by
  induction changes generalizing r with
  | nil =>
    obtain rfl : r = r' := by simpa [pure, Except.pure] using h
    rfl
  | cons e rest ih =>
    rw [List.foldlM_cons] at h
    cases hs : r.set e.1 e.2 with
    | error fault => simp [hs, bind, Except.bind] at h
    | ok r₁ =>
      simp only [hs, bind, Except.bind] at h
      rw [ih h, id_of_set hs]

theorem id_of_scenario {r : Row} {s : Scenario} (h : r.scenario = .ok s) : s.id = r.id := by
  obtain ⟨last, -, rfl⟩ := eq_of_scenario h
  rfl

end Row

namespace Store

/-- No two rows have the same id. -/
def IsKeyed (s : Store) : Prop :=
  (s.rows.map Row.id).Nodup

theorem isKeyed_empty : IsKeyed {} :=
  List.nodup_nil

/-! ## The operations -/

theorem row?_eq_none_iff {s : Store} {id : String} : s.row? id = none ↔ id ∉ s.rows.map Row.id := by
  simp [row?]

theorem id_of_row? {s : Store} {id : String} {r : Row} (h : s.row? id = some r) : r.id = id := by
  simpa using List.find?_some h

/-- Replacing the row with an id by one with the same id changes no id. -/
theorem ids_replace {s : Store} {id : String} {r : Row} (h : r.id = id) :
    (s.replace id r).rows.map Row.id = s.rows.map Row.id := by
  simp only [replace, List.map_map]
  refine List.map_congr_left fun old _ => ?_
  simp only [Function.comp_apply]
  split
  · simp_all
  · rfl

theorem IsKeyed.replace {s : Store} (hs : s.IsKeyed) {id : String} {r : Row} (h : r.id = id) :
    (s.replace id r).IsKeyed := by
  rw [IsKeyed, ids_replace h]
  exact hs

theorem isKeyed_create {s : Store} (hs : s.IsKeyed) (now : Instant) (ids : IdSupply) (d : Draft) :
    (s.create now ids d).2.1.IsKeyed := by
  rw [create]
  split
  · exact hs
  · exact hs
  · dsimp only
    split
    · exact hs
    · split
      · exact hs
      · split
        · exact hs
        · next hfree =>
          -- the one row that comes in has an id that is not taken
          have hnew := row?_eq_none_iff.mp (Option.not_isSome_iff_eq_none.mp hfree)
          simp only [IsKeyed, List.map_append, List.map_cons, List.map_nil]
          refine List.nodup_append'.mpr ⟨hs, List.nodup_singleton _, ?_⟩
          rw [List.disjoint_singleton]
          exact hnew

theorem isKeyed_update {s : Store} (hs : s.IsKeyed) (id : String) (changes : Entries String Value) :
    (s.update id changes).2.IsKeyed := by
  rw [update]
  repeat' split
  all_goals try exact hs
  next hrow _ _ hset =>
    exact hs.replace ((Row.id_of_foldlM_set hset).trans (id_of_row? hrow))

theorem isKeyed_write {s t : Store} (hs : s.IsKeyed) {id : String} {column : Column} {v : Value}
    (h : s.write id column v = .ok t) : t.IsKeyed := by
  simp only [write, bind, Except.bind, pure, Except.pure] at h
  repeat' split at h
  all_goals try cases h
  next hrow _ _ hset =>
    exact hs.replace ((Row.id_of_set hset).trans (id_of_row? hrow))
  exact hs

theorem isKeyed_setLastExecuted {s : Store} (hs : s.IsKeyed) (id : String) (time : Stamp) :
    (s.setLastExecuted id time).2.IsKeyed := by
  rw [setLastExecuted]
  split
  · exact hs
  · next hrow => exact hs.replace (id_of_row? hrow : _)

theorem isKeyed_delete {s : Store} (hs : s.IsKeyed) (id : String) : (s.delete id).2.IsKeyed := by
  rw [delete]
  split
  · exact hs
  · exact hs.sublist (List.filter_sublist.map _)

theorem isKeyed_save {s : Store} (hs : s.IsKeyed) (settings : Settings) :
    (s.save settings).2.IsKeyed := by
  rw [save]
  split <;> exact hs

/-! ## The rows but for the times -/

/-- Two stores have the same rows but for the times at which scenarios ran last. -/
def SameRows (s t : Store) : Prop :=
  t.rows.map Row.timeless = s.rows.map Row.timeless

theorem SameRows.ids {s t : Store} (h : s.SameRows t) : t.rows.map Row.id = s.rows.map Row.id := by
  have hid := congrArg (List.map Row.id) h
  simp only [List.map_map] at hid
  exact hid

theorem SameRows.isKeyed {s t : Store} (h : s.SameRows t) (hs : s.IsKeyed) : t.IsKeyed := by
  rw [IsKeyed, h.ids]
  exact hs

theorem IsKeyed.eq_of_row? {s : Store} (hs : s.IsKeyed) {id : String} {r old : Row}
    (hrow : s.row? id = some r) (hold : old ∈ s.rows) (hid : old.id = id) : old = r :=
  List.inj_on_of_nodup_map hs hold (List.mem_of_find?_eq_some hrow) (hid.trans (id_of_row? hrow).symm)

theorem sameRows_setLastExecuted {s : Store} (hs : s.IsKeyed) (id : String) (time : Stamp) :
    s.SameRows (s.setLastExecuted id time).2 := by
  rw [setLastExecuted]
  split
  · rfl
  · next r hrow =>
    simp only [SameRows, Store.replace, List.map_map]
    refine List.map_congr_left fun old hold => ?_
    simp only [Function.comp_apply]
    split
    · next hid => rw [hs.eq_of_row? hrow hold (beq_iff_eq.mp hid), Row.timeless, Row.timeless]
    · rfl

theorem sameRows_save (s : Store) (settings : Settings) : s.SameRows (s.save settings).2 := by
  rw [save]
  split <;> rfl

/-! ## What is listed -/

theorem place_perm (r : Row) (rows : List Row) : (place r rows).Perm (r :: rows) := by
  induction rows with
  | nil => exact .refl _
  | cons s rest ih =>
    rw [place]
    split
    · exact .refl _
    · exact (ih.cons s).trans (.swap r s rest)

theorem foldl_place_perm (rows acc : List Row) :
    (rows.foldl (fun acc r => place r acc) acc).Perm (rows ++ acc) := by
  induction rows generalizing acc with
  | nil => exact .refl _
  | cons r rest ih =>
    refine (ih (place r acc)).trans ?_
    exact ((place_perm r acc).append_left rest).trans List.perm_middle

theorem sorted_perm (rows : List Row) : (sorted rows).Perm rows := by
  simpa [sorted] using foldl_place_perm rows []

theorem mem_listed {s : Store} {r : Row} :
    r ∈ s.listed true ↔ r ∈ s.rows ∧ r.isActive = true := by
  rw [listed, (sorted_perm _).mem_iff]
  simp

/-- The scenarios that are listed are those of the rows that count, one for one, in their order. -/
theorem list_spec {s : Store} {activeOnly : Bool} {scenarios : List Scenario}
    (h : s.list activeOnly = .ok scenarios) :
    List.Forall₂ (fun r scenario => r.scenario = .ok scenario) (s.listed activeOnly) scenarios := by
  rw [list] at h
  generalize s.listed activeOnly = rows at h
  induction rows generalizing scenarios with
  | nil =>
    obtain rfl : scenarios = [] := by simpa [pure, Except.pure, eq_comm] using h
    exact .nil
  | cons r rest ih =>
    rw [List.mapM_cons] at h
    cases hr : r.scenario with
    | error fault => simp [hr, bind, Except.bind] at h
    | ok scenario =>
      cases hm : rest.mapM Row.scenario with
      | error fault => simp [hr, hm, bind, Except.bind] at h
      | ok others =>
        simp only [hr, hm, bind, Except.bind, pure, Except.pure, Except.ok.injEq] at h
        rw [← h]
        exact .cons hr (ih hm)

/-- What the scenario of a row takes over from it, the scenarios that are listed take over from the rows that count. -/
theorem map_list {α : Type} {f : Scenario → α} {g : Row → α}
    (hfg : ∀ {r scenario}, Row.scenario r = .ok scenario → f scenario = g r) {s : Store} {activeOnly : Bool}
    {scenarios : List Scenario} (h : s.list activeOnly = .ok scenarios) :
    scenarios.map f = (s.listed activeOnly).map g := by
  have hspec := list_spec h
  clear h
  generalize s.listed activeOnly = rows at hspec
  induction hspec with
  | nil => rfl
  | cons hr _ ih => rw [List.map_cons, List.map_cons, hfg hr, ih]

theorem ids_list {s : Store} {activeOnly : Bool} {scenarios : List Scenario}
    (h : s.list activeOnly = .ok scenarios) :
    scenarios.map Scenario.id = (s.listed activeOnly).map Row.id :=
  map_list Row.id_of_scenario h

/-- The scenarios that are listed have distinct ids. -/
theorem nodup_list {s : Store} (hs : s.IsKeyed) {activeOnly : Bool} {scenarios : List Scenario}
    (h : s.list activeOnly = .ok scenarios) : (scenarios.map Scenario.id).Nodup := by
  rw [ids_list h, listed]
  refine (((sorted_perm _).map Row.id).nodup_iff).mpr ?_
  exact hs.sublist (List.filter_sublist.map _)

theorem place_map {f : Row → Row} (hf : ∀ a b, Row.before (f a) (f b) = Row.before a b) (r : Row)
    (rows : List Row) : (place r rows).map f = place (f r) (rows.map f) := by
  induction rows with
  | nil => rfl
  | cons s rest ih =>
    simp only [place, List.map_cons, hf]
    split
    · rfl
    · rw [List.map_cons, ih]

/-- Rows are put in order in the same way, whatever is done to them that their order does not depend on. -/
theorem sorted_map {f : Row → Row} (hf : ∀ a b, Row.before (f a) (f b) = Row.before a b) (rows : List Row) :
    (sorted rows).map f = sorted (rows.map f) := by
  rw [sorted, sorted, List.foldl_map]
  exact (List.foldl_hom (List.map f) fun rows r => (place_map hf r rows).symm).symm

/-- The order in which rows are listed does not depend on when their scenarios ran last. -/
theorem SameRows.listed {s t : Store} (h : s.SameRows t) (activeOnly : Bool) :
    (t.listed activeOnly).map Row.timeless = (s.listed activeOnly).map Row.timeless := by
  have hfilter : ∀ u : Store, (u.listed activeOnly).map Row.timeless =
      sorted ((u.rows.map Row.timeless).filter fun r => !activeOnly || r.isActive) := by
    intro u
    have hbefore : ∀ r r' : Row, Row.before r.timeless r'.timeless = Row.before r r' := fun _ _ => rfl
    rw [Store.listed, sorted_map hbefore, List.filter_map]
    rfl
  rw [hfilter, hfilter, h]

/-- Two stores with the same rows list the same scenarios, but for the times. -/
theorem SameRows.list {s t : Store} (h : s.SameRows t) {activeOnly : Bool} {scenarios scenarios' : List Scenario}
    (hs : s.list activeOnly = .ok scenarios) (ht : t.list activeOnly = .ok scenarios') :
    scenarios'.map Scenario.timeless = scenarios.map Scenario.timeless := by
  have hread : ∀ {u : Store} {scenarios : List Scenario}, u.list activeOnly = .ok scenarios →
      scenarios.map (fun scenario => Except.ok scenario.timeless) =
        ((u.listed activeOnly).map Row.timeless).map Row.scenario := fun hu => by
    rw [List.map_map]
    exact map_list (fun hr => (Row.scenario_timeless hr).symm) hu
  have hsame : (scenarios'.map Scenario.timeless).map (Except.ok : Scenario → Except Fault Scenario) =
      (scenarios.map Scenario.timeless).map Except.ok := by
    rw [List.map_map, List.map_map]
    exact (hread ht).trans ((congrArg (List.map Row.scenario) (h.listed activeOnly)).trans (hread hs).symm)
  exact List.map_injective_iff.mpr (fun _ _ => Except.ok.inj) hsame

/-- Every active scenario that is listed has a row that counts as active. -/
theorem exists_row_of_mem_list {s : Store} {scenarios : List Scenario} (h : s.list true = .ok scenarios)
    {scenario : Scenario} (hmem : scenario ∈ scenarios) :
    ∃ r ∈ s.rows, r.isActive = true ∧ r.scenario = .ok scenario := by
  obtain ⟨hl, hget⟩ := List.forall₂_iff_get.mp (list_spec h)
  obtain ⟨i, hi, rfl⟩ := List.getElem_of_mem hmem
  have hr := mem_listed.mp (List.get_mem (s.listed true) ⟨i, hl ▸ hi⟩)
  exact ⟨_, hr.1, hr.2, hget i (hl ▸ hi) hi⟩

end Store

end Deskhand
