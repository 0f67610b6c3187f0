import Deskhand.Proofs.Entries
import Deskhand.Proofs.Store.Ledger

/-!
# Changes of a scenario

Changes of different fields are made column by column, in an order of the columns' own, which comes to the same
as one after the other (`Change.foldl_ordered`). Main statements:

* `Store.update_entries`: what an update does with changes of the right kinds;
* `Change.shows_foldl`: a row that stands for a scenario stands for the changed one after the changes;
* `Change.find?_record_foldl`: the fields that no change names stay as they are.
-/

namespace Deskhand

theorem mapM_ok_of_forall {α β ε : Type} {g : α → Except ε β} {h : α → β} {xs : List α}
    (hall : ∀ x ∈ xs, g x = .ok (h x)) : xs.mapM g = .ok (xs.map h) := by
  induction xs with
  | nil => rfl
  | cons x rest ih =>
    obtain ⟨hx, hrest⟩ := List.forall_mem_cons.mp hall
    simp only [List.mapM_cons, hx, ih hrest]
    rfl

theorem foldlM_ok_of_forall {α β ε : Type} {g : β → α → Except ε β} {h : β → α → β} {xs : List α} (b : β)
    (hall : ∀ b, ∀ x ∈ xs, g b x = .ok (h b x)) : xs.foldlM g b = .ok (xs.foldl h b) := by
  induction xs generalizing b with
  | nil => rfl
  | cons x rest ih =>
    rw [List.foldlM_cons, hall b x List.mem_cons_self]
    exact ih _ fun b x hx => hall b x (List.mem_cons_of_mem _ hx)

/-- Items that are picked key by key are the same items, if each has one of the keys. -/
theorem perm_flatMap_filter {α κ : Type} [DecidableEq κ] {f : α → κ} {keys : List κ} (hkeys : keys.Nodup)
    {xs : List α} (h : ∀ x ∈ xs, f x ∈ keys) : (keys.flatMap fun k => xs.filter (f · == k)).Perm xs := by
  induction xs with
  | nil => simp
  | cons x rest ih =>
    obtain ⟨hx, hrest⟩ := List.forall_mem_cons.mp h
    obtain ⟨front, back, rfl⟩ := List.append_of_mem hx
    have hother : ∀ k ∈ front ++ back, (x :: rest).filter (f · == k) = rest.filter (f · == k) := fun k hk => by
      have hne : f x ≠ k := by
        rintro rfl
        exact (List.nodup_cons.mp (List.nodup_middle.mp hkeys)).1 hk
      simp [hne]
    have hfront := List.flatMap_congr (l := front) fun k hk => hother k (List.mem_append_left _ hk)
    have hback := List.flatMap_congr (l := back) fun k hk => hother k (List.mem_append_right _ hk)
    have hrest := ih hrest
    rw [List.flatMap_append, List.flatMap_cons] at hrest ⊢
    rw [hfront, hback, List.filter_cons_of_pos (by simp)]
    exact (List.perm_middle).trans (hrest.cons x)

/-! ## Changes -/

namespace Change

/-- The column of a change of a known field. -/
def column (c : Change) : Column :=
  c.column?.getD .name

/-- The cell of a change. -/
def cell : Change → Value
  | active b => .int (if b then 1 else 0)
  | c => c.value

/-- The row after a change. -/
def applyRow (r : Row) : Change → Row
  | name text => { r with name := text }
  | active b => { r with active := .int (if b then 1 else 0) }
  | blocks text => { r with blocks := text }
  | color text => { r with color := text }
  | context text => { r with context := text }
  | other _ _ => r

/-- Whether a change is one of a known field. -/
def IsKnown (c : Change) : Prop :=
  c.column? = some c.column

theorem isKnown_iff {c : Change} : c.IsKnown ↔ c.column?.isNone = false := by
  cases c <;> simp [IsKnown, column, column?]

theorem field_of_isKnown {c : Change} (h : c.IsKnown) : c.field = c.column.title := by
  cases c with
  | other => cases h
  | _ => rfl

theorem set_cell (r : Row) {c : Change} (h : c.IsKnown) : r.set c.column c.cell = .ok (c.applyRow r) := by
  cases c with
  | other => cases h
  | color text | context text => cases text <;> rfl
  | name text | active b | blocks text => rfl

theorem changeCell_value {c : Change} (h : c.IsKnown) :
    Store.changeCell c.column c.value = .ok c.cell := by
  cases c with
  | other => cases h
  | active b => cases b <;> rfl
  | color text | context text => cases text <;> rfl
  | name text | blocks text => rfl

theorem ofValue_cell {c : Change} (h : c.IsKnown) : Cell.ofValue c.cell = .ok c.cell := by
  cases c with
  | other => cases h
  | active b => cases b <;> rfl
  | color text | context text => cases text <;> rfl
  | name text | blocks text => rfl

theorem shows_applyRow {r : Row} {e : LedgerEntry} (h : r.Shows e) (c : Change) :
    (applyRow r c).Shows { e with scenario := c.apply e.scenario } := by
  cases c with
  | name text => exact { h with name := rfl }
  | active b => exact { h with active := rfl }
  | blocks text => exact { h with blocks := rfl }
  | color text => exact { h with color := rfl }
  | context text => exact { h with context := rfl }
  | other field v => exact h

theorem shows_foldl {r : Row} {e : LedgerEntry} (h : r.Shows e) (changes : List Change) :
    (changes.foldl applyRow r).Shows { e with scenario := changes.foldl apply e.scenario } := by
  induction changes generalizing r e with
  | nil => exact h
  | cons c rest ih => exact ih (shows_applyRow h c)

/-- No change touches the id. -/
theorem id_foldl (changes : List Change) (s : Scenario) : (changes.foldl apply s).id = s.id := by
  induction changes generalizing s with
  | nil => rfl
  | cons c rest ih =>
    rw [List.foldl_cons, ih]
    cases c <;> rfl

/-- Changes of different columns can be made in either order. -/
theorem apply_comm {c d : Change} (h : c.column? ≠ d.column?) (s : Scenario) :
    apply (apply s c) d = apply (apply s d) c := by
  cases c <;> cases d <;> first | rfl | exact absurd rfl h

/-- A change leaves the fields that it does not name alone. -/
theorem find?_record_apply (s : Scenario) {c : Change} {f : String} (h : c.field ≠ f) :
    Entries.find? (apply s c).record f = Entries.find? s.record f := by
  cases c with
  | name text => exact Entries.find?_of_ne (s.record.take 1) h _ _ (s.record.drop 2)
  | active b => exact Entries.find?_of_ne (s.record.take 2) h _ _ (s.record.drop 3)
  | blocks text => exact Entries.find?_of_ne (s.record.take 3) h _ _ (s.record.drop 4)
  | color text => exact Entries.find?_of_ne (s.record.take 5) h _ _ (s.record.drop 6)
  | context text => exact Entries.find?_of_ne (s.record.take 6) h _ _ (s.record.drop 7)
  | other => rfl

theorem find?_record_foldl {changes : List Change} {f : String} (h : f ∉ changes.map field) (s : Scenario) :
    Entries.find? (changes.foldl apply s).record f = Entries.find? s.record f := by
  induction changes generalizing s with
  | nil => rfl
  | cons c rest ih =>
    simp only [List.map_cons, List.mem_cons, not_or] at h
    rw [List.foldl_cons, ih h.2, find?_record_apply s (Ne.symm h.1)]

/-- Changes in the order of the columns. -/
def ordered (changes : List Change) : List Change :=
  Column.all.flatMap fun c => changes.filter fun e => e.column == c

theorem ordered_perm (changes : List Change) : (ordered changes).Perm changes :=
  perm_flatMap_filter (by decide) fun c _ => by
    cases c.column <;> decide

/-- Changes of known fields in the order of the columns come to the same as one after the other. -/
theorem foldl_ordered {changes : List Change} (h : AreDistinct changes) (hknown : ∀ c ∈ changes, c.IsKnown)
    (s : Scenario) : (ordered changes).foldl apply s = changes.foldl apply s := by
  refine (ordered_perm changes).foldl_eq' (fun c hc d hd s => ?_) s
  have hc := (ordered_perm changes).mem_iff.mp hc
  have hd := (ordered_perm changes).mem_iff.mp hd
  by_cases heq : c = d
  · rw [heq]
  · -- two changes of one column would name one field
    refine apply_comm (fun hcolumn => heq (List.inj_on_of_nodup_map h.1 hc hd ?_)) s
    rw [field_of_isKnown (hknown c hc), field_of_isKnown (hknown d hd), column, column, hcolumn]

end Change

namespace Store

theorem inOrder_map (changes : List Change) :
    inOrder (changes.map fun c => (c.column, c.cell)) =
      (Change.ordered changes).map fun c => (c.column, c.cell) := by
  rw [inOrder, Change.ordered, List.map_flatMap]
  refine List.flatMap_congr fun c _ => ?_
  rw [List.filter_map]
  rfl

/-- The names among changes that are no fields. -/
def unknownNames (changes : List Change) : List String :=
  (changes.filter fun c => c.column?.isNone).map Change.field

theorem isKnown_of_mem {changes : List Change} (h : (unknownNames changes).isEmpty = true) :
    ∀ c ∈ changes, c.IsKnown := by
  intro c hc
  rw [Change.isKnown_iff]
  rw [unknownNames, List.isEmpty_map, List.isEmpty_iff, List.filter_eq_nil_iff] at h
  exact Bool.eq_false_iff.mpr (h c hc)

theorem columns_entries {changes : List Change} (h : Change.AreDistinct changes) :
    columns (changes.map Change.entry) =
      if !(unknownNames changes).isEmpty then .error (.unknownFields ((unknownNames changes).mergeSort (· ≤ ·)))
      else if changes.isEmpty then .error .nothingToChange
      else .ok (changes.map fun c => (c.column, c.value)) := by
  have hunknown : ((changes.map Change.entry).map (·.1)).filter (fun name => (Column.ofChange? name).isNone) =
      unknownNames changes := by
    rw [List.map_map, List.filter_map, unknownNames]
    refine congrArg (List.map Change.field) (List.filter_congr fun c hc => ?_)
    exact congrArg Option.isNone (h.2 c hc)
  have hpairs : (unknownNames changes).isEmpty = true →
      (changes.map Change.entry).filterMap (fun e => (Column.ofChange? e.1).map fun c => (c, e.2)) =
        changes.map fun c => (c.column, c.value) := fun hnone => by
    rw [List.filterMap_map]
    refine (List.filterMap_congr fun c hc => ?_).trans (congrFun List.filterMap_eq_map changes)
    have hcolumn : Column.ofChange? c.field = some c.column := (h.2 c hc).trans (isKnown_of_mem hnone c hc)
    simp only [Function.comp_apply, Change.entry, hcolumn, Option.map_some]
  simp only [columns, hunknown, List.isEmpty_map]
  split
  · rfl
  · next hnone =>
    split
    · rfl
    · rw [hpairs (by simpa using hnone)]

/-- What an update does with changes of the right kinds: unless it is declined, all of them are made. -/
theorem update_entries {changes : List Change} (h : Change.AreDistinct changes) (s : Store) (id : String) :
    s.update id (changes.map Change.entry) =
      if !(unknownNames changes).isEmpty then
        (.ok (.error (.unknownFields ((unknownNames changes).mergeSort (· ≤ ·)))), s)
      else if changes.isEmpty then (.ok (.error .nothingToChange), s)
      else
        match s.row? id with
        | none => (.ok (.error (.unknownScenario id)), s)
        | some r =>
          let r := (Change.ordered changes).foldl Change.applyRow r
          (r.scenario.map .ok, s.replace id r) := by
  rw [update, columns_entries h]
  by_cases hnone : (unknownNames changes).isEmpty = true
  case neg => simp only [hnone, Bool.not_false, if_true]
  by_cases hempty : changes.isEmpty = true
  case pos => simp only [hnone, hempty, Bool.not_true, Bool.false_eq_true, if_true, if_false]
  have hknown := isKnown_of_mem hnone
  have hcolumns : (changes.map fun c => (c.column, c.value)).mapM
      (fun e => (changeCell e.1 e.2).map fun v => (e.1, v)) = .ok (changes.map fun c => (c.column, c.cell)) := by
    rw [List.mapM_map]
    exact mapM_ok_of_forall fun c hc => by simp [Change.changeCell_value (hknown c hc), Except.map]
  have hcells : (changes.map fun c => (c.column, c.cell)).mapM
      (fun e => (Cell.ofValue e.2).map fun v => (e.1, v)) = .ok (changes.map fun c => (c.column, c.cell)) := by
    rw [List.mapM_map]
    exact mapM_ok_of_forall fun c hc => by simp [Change.ofValue_cell (hknown c hc), Except.map]
  have hset : ∀ r : Row, (inOrder (changes.map fun c => (c.column, c.cell))).foldlM (fun r e => r.set e.1 e.2) r =
      .ok ((Change.ordered changes).foldl Change.applyRow r) := fun r => by
    rw [inOrder_map, List.foldlM_map]
    exact foldlM_ok_of_forall r fun r c hc =>
      Change.set_cell r (hknown c ((Change.ordered_perm changes).mem_iff.mp hc))
  cases s.row? id <;> simp only [hnone, hempty, Bool.not_true, Bool.false_eq_true, if_false, hcolumns, hcells, hset]

end Store

end Deskhand
