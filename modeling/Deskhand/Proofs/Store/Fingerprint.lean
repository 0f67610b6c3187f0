import Deskhand.Proofs.Schedule.Attended
import Deskhand.Proofs.Store.Printed
import Deskhand.Proofs.Store.Refinement

/-!
# What a fingerprint tells

The digest of a store is made of the text of its active scenarios, which are written one after the other without
anything between them (`Store.stream`), and of its settings. Unless the digest itself is to blame (`Store.SetApart`),
it is as good as these two (`SetApart.digest_eq_iff`). Main statements:

* `Alters.shown_eq`: what of one row the text does not depend on;
* `Alters.stream_ne`: the text is longer or shorter with one more active scenario or one less;
* `Alters.swapped`: a scenario that keeps its name keeps its place;
* `Agrees.heeds`: what a request does to the digest;
* `fingerprint_eq_iff`: when two stores have the same digest;
* `rename_unseen`: a name that takes characters over from the id of the scenario next to it leaves no trace.
-/

namespace Deskhand

namespace Row

/-- A row without anything that neither its place in a list nor what counts of its scenario depends on. -/
def plain (r : Row) : Row :=
  { id := r.id, name := r.name, blocks := orDefault (some r.blocks) Scenario.noBlocks, created := r.created }

theorem before_plain (a b : Row) : before a.plain b.plain = before a b :=
  rfl

theorem counted_plain (r : Row) : r.plain.counted = r.counted := by
  have hdefault : ∀ text : String, orDefault (some (orDefault (some text) Scenario.noBlocks)) Scenario.noBlocks =
      orDefault (some text) Scenario.noBlocks := by
    intro text
    by_cases h : text = "" <;> simp [orDefault, Scenario.noBlocks, Option.filter, h]
  rw [counted, counted, plain, hdefault]

/-- Two rows with the same place among others. -/
structure Beside (old new : Row) : Prop where
  created : new.created = old.created
  name : new.name = old.name

theorem Beside.before_left {old new : Row} (h : Beside old new) (r : Row) : before new r = before old r := by
  rw [before, before, h.created, h.name]

theorem Beside.before_right {old new : Row} (h : Beside old new) (r : Row) : before r new = before r old := by
  rw [before, before, h.created, h.name]

end Row

/-- What counts of a scenario, in one text. -/
def countedText (c : String × String × String) : String :=
  c.1 ++ c.2.1 ++ c.2.2

theorem countedText_inj {s t : Scenario} (hid : s.id = t.id) (hname : s.name = t.name)
    (h : countedText s.counted = countedText t.counted) : s.blocks = t.blocks := by
  simp only [countedText, Scenario.counted, hid, hname] at h
  have hchars := congrArg String.toList h
  simp only [String.toList_append] at hchars
  exact String.toList_inj.mp (List.append_cancel_left hchars)

namespace Store

/-! ## The order of rows -/

/-- Two lists that differ in one row. -/
def Swapped (old new : Row) (rows rows' : List Row) : Prop :=
  ∃ front back, rows = front ++ old :: back ∧ rows' = front ++ new :: back

theorem Swapped.cons {old new : Row} {rows rows' : List Row} (r : Row) (h : Swapped old new rows rows') :
    Swapped old new (r :: rows) (r :: rows') := by
  obtain ⟨front, back, rfl, rfl⟩ := h
  exact ⟨r :: front, back, rfl, rfl⟩

theorem swapped_place {old new : Row} (h : Row.Beside old new) (rows : List Row) :
    Swapped old new (place old rows) (place new rows) := by
  induction rows with
  | nil => exact ⟨[], [], rfl, rfl⟩
  | cons s rest ih =>
    rw [place, place, h.before_left]
    split
    · exact ⟨[], s :: rest, rfl, rfl⟩
    · exact ih.cons s

theorem Swapped.place {old new : Row} (h : Row.Beside old new) {rows rows' : List Row}
    (hrows : Swapped old new rows rows') (r : Row) : Swapped old new (place r rows) (place r rows') := by
  obtain ⟨front, back, rfl, rfl⟩ := hrows
  induction front with
  | nil =>
    rw [List.nil_append, List.nil_append, Store.place, Store.place, h.before_right]
    split
    · exact ⟨[r], back, rfl, rfl⟩
    · exact ⟨[], Store.place r back, rfl, rfl⟩
  | cons s front ih =>
    rw [List.cons_append, List.cons_append, Store.place, Store.place]
    split
    · exact ⟨r :: s :: front, back, rfl, rfl⟩
    · exact ih.cons s

/-- Lists that differ in one row, which has the same place in both, differ in one row when they are in order. -/
theorem Swapped.sorted {old new : Row} (h : Row.Beside old new) {rows rows' : List Row}
    (hrows : Swapped old new rows rows') : Swapped old new (sorted rows) (sorted rows') := by
  obtain ⟨front, back, rfl, rfl⟩ := hrows
  induction back using List.reverseRecOn with
  | nil =>
    rw [sorted_snoc, sorted_snoc]
    exact swapped_place h _
  | append_singleton back r ih =>
    rw [← List.cons_append, ← List.cons_append, ← List.append_assoc, ← List.append_assoc, sorted_snoc, sorted_snoc]
    exact ih.place h r

/-! ## The digest -/

/-- What counts of the active scenarios, as they are listed. -/
def shown (s : Store) : List (String × String × String) :=
  (s.listed true).map Row.counted

/-- What counts of the active scenarios, in one text. -/
def stream (s : Store) : String :=
  String.join (s.shown.map countedText)

/-- The bytes that the digest of a store is made of. -/
def fed (s : Store) : List UInt8 :=
  (s.stream ++ settingsPart s.settings).toUTF8.toList

/-- The digests of two stores are different, unless they are made of the same bytes. -/
def SetApart (s t : Store) : Prop :=
  Sha256.hex s.fed = Sha256.hex t.fed → s.fed = t.fed

theorem stream_of_list {s : Store} {scenarios : List Scenario} (h : s.list true = .ok scenarios) :
    String.join (scenarios.map scenarioPart) = s.stream := by
  rw [stream, shown, ← counted_of_list h, List.map_map]
  rfl

theorem fingerprint_of_list {s : Store} {scenarios : List Scenario} (h : s.list true = .ok scenarios) :
    s.fingerprint = .ok (Sha256.hex s.fed) := by
  rw [fingerprint, h, fed, ← stream_of_list h]
  rfl

/-- The bytes, character by character. -/
theorem fed_of_list {s : Store} {scenarios : List Scenario} (h : s.list true = .ok scenarios) :
    s.fed = (String.ofList ((String.join (scenarios.map scenarioPart)).toList ++
      (layout.flatMap (piece s.settings) ++ [')', ']']))).toUTF8.data.toList := by
  rw [fed, ← stream_of_list h, Text.toList_bytes, ← toList_settingsPart, ← String.toList_append, String.ofList_toList]

/-- A digest is as good as what counts of the active scenarios in one text, and the settings. -/
theorem SetApart.digest_eq_iff {s t : Store} (hset : s.SetApart t) {active active' : List Scenario}
    (hs : s.list true = .ok active) (ht : t.list true = .ok active') :
    s.fingerprint = t.fingerprint ↔ s.stream = t.stream ∧ s.settings = t.settings := by
  rw [fingerprint_of_list hs, fingerprint_of_list ht, Except.ok.injEq]
  constructor
  · exact fun hdigest => printed_inj (Text.bytes_inj (hset hdigest))
  · rintro ⟨hstream, hsettings⟩
    rw [fed, fed, hstream, hsettings]

/-! ## How much is shown -/

theorem length_countedText_pos (r : Row) : 0 < (countedText r.counted).length := by
  have hblocks : 0 < (Row.orDefault (some r.blocks) Scenario.noBlocks).length := by
    by_cases h : r.blocks = ""
    · rw [h]
      decide
    · simp [Row.orDefault, h, Option.filter, Nat.pos_iff_ne_zero]
  rw [countedText, Row.counted, String.length_append]
  exact Nat.add_pos_right _ hblocks

/-- How long the text of a row is. -/
def weight (r : Row) : Nat :=
  (countedText r.counted).length

theorem length_stream (s : Store) : s.stream.length = ((s.rows.filter Row.isActive).map weight).sum := by
  have hperm : ((s.listed true).map weight).Perm ((s.rows.filter Row.isActive).map weight) := by
    rw [listed]
    simpa using (sorted_perm (s.rows.filter Row.isActive)).map weight
  rw [stream, String.length_join, shown, List.map_map, List.map_map, ← hperm.sum_nat]
  rfl

theorem shown_eq (s : Store) : s.shown = (sorted ((s.rows.filter Row.isActive).map Row.plain)).map Row.counted := by
  have hlisted : s.listed true = sorted (s.rows.filter Row.isActive) := by simp [listed]
  rw [shown, hlisted, ← sorted_map Row.before_plain, List.map_map]
  exact List.map_congr_left fun r _ => (Row.counted_plain r).symm

/-! ## One scenario -/

/-- The row of an active scenario. -/
def activeRow? (s : Store) (id : String) : Option Row :=
  (s.row? id).filter Row.isActive

/-- A store that differs from another one in the row of one scenario. -/
def Alters (s t : Store) (id : String) : Prop :=
  ∃ front back, s.rows = front ++ (s.row? id).toList ++ back ∧ t.rows = front ++ (t.row? id).toList ++ back

theorem filter_toList {α : Type} (p : α → Bool) (a : Option α) : a.toList.filter p = (a.filter p).toList := by
  cases a with
  | none => rfl
  | some a => cases h : p a <;> simp [h, Option.filter]

theorem Alters.active {s t : Store} {id : String} (h : Alters s t id) :
    ∃ front back, s.rows.filter Row.isActive = front ++ (s.activeRow? id).toList ++ back ∧
      t.rows.filter Row.isActive = front ++ (t.activeRow? id).toList ++ back := by
  obtain ⟨front, back, hs, ht⟩ := h
  refine ⟨front.filter Row.isActive, back.filter Row.isActive, ?_, ?_⟩
  · rw [hs, List.filter_append, List.filter_append, filter_toList]
    rfl
  · rw [ht, List.filter_append, List.filter_append, filter_toList]
    rfl

/-- Nothing of what is shown depends on anything else of a row. -/
theorem Alters.shown_eq {s t : Store} {id : String} (h : Alters s t id)
    (hplain : (t.activeRow? id).map Row.plain = (s.activeRow? id).map Row.plain) : t.shown = s.shown := by
  obtain ⟨front, back, hs, ht⟩ := h.active
  have hsame : (t.rows.filter Row.isActive).map Row.plain = (s.rows.filter Row.isActive).map Row.plain := by
    rw [hs, ht]
    simp only [List.map_append, ← Option.toList_map, hplain]
  rw [Store.shown_eq, Store.shown_eq, hsame]

/-- A scenario that becomes active, or is no longer, makes the text longer or shorter. -/
theorem Alters.stream_ne {s t : Store} {id : String} (h : Alters s t id)
    (hactive : (t.activeRow? id).isSome ≠ (s.activeRow? id).isSome) : t.stream ≠ s.stream := by
  obtain ⟨front, back, hs, ht⟩ := h.active
  intro heq
  have hlength := congrArg String.length heq
  rw [length_stream, length_stream, hs, ht] at hlength
  cases hold : s.activeRow? id with
  | none =>
    cases hnew : t.activeRow? id with
    | none => exact hactive (by rw [hold, hnew])
    | some r =>
      have hpos : 0 < weight r := length_countedText_pos r
      simp [hold, hnew] at hlength
      omega
  | some r =>
    cases hnew : t.activeRow? id with
    | none =>
      have hpos : 0 < weight r := length_countedText_pos r
      simp [hold, hnew] at hlength
      omega
    | some r' => exact hactive (by rw [hold, hnew]; rfl)

/-- Texts that differ in one scenario, which has the same place in both, are the same iff its own text is. -/
theorem stream_eq_iff {s t : Store} {front back : List (String × String × String)} {old new : String × String × String}
    (hs : s.shown = front ++ old :: back) (ht : t.shown = front ++ new :: back) :
    s.stream = t.stream ↔ countedText old = countedText new := by
  simp only [stream, hs, ht, List.map_append, List.map_cons, String.join_append, String.join_cons]
  refine ⟨fun h => ?_, fun h => by rw [h]⟩
  have hchars := congrArg String.toList h
  simp only [String.toList_append] at hchars
  exact String.toList_inj.mp (List.append_cancel_right (List.append_cancel_left hchars))

theorem Alters.swapped {s t : Store} {id : String} (h : Alters s t id) {old new : Row}
    (hold : s.activeRow? id = some old) (hnew : t.activeRow? id = some new) (hbeside : Row.Beside old new) :
    ∃ front back, s.shown = front ++ old.counted :: back ∧ t.shown = front ++ new.counted :: back := by
  have hlisted : ∀ u : Store, u.listed true = sorted (u.rows.filter Row.isActive) := fun u => by simp [listed]
  obtain ⟨front, back, hs, ht⟩ := h.active
  have hrows : Swapped old new (s.rows.filter Row.isActive) (t.rows.filter Row.isActive) :=
    ⟨front, back, by simp [hs, hold], by simp [ht, hnew]⟩
  obtain ⟨front, back, hs, ht⟩ := hrows.sorted hbeside
  exact ⟨front.map Row.counted, back.map Row.counted, by simp [shown, hlisted, hs], by simp [shown, hlisted, ht]⟩

/-! ## Requests -/

theorem alters_self (s : Store) (id : String) : Alters s s id := by
  cases hrow : s.row? id with
  | none => exact ⟨s.rows, [], by simp [hrow], by simp [hrow]⟩
  | some r =>
    obtain ⟨front, back, hrows⟩ := List.append_of_mem (List.mem_of_find?_eq_some hrow)
    exact ⟨front, back, by simp [hrow, hrows], by simp [hrow, hrows]⟩

/-- The row with an id stands between rows with others. -/
theorem IsKeyed.split {s : Store} (h : s.IsKeyed) {id : String} {r : Row} (hrow : s.row? id = some r) :
    ∃ front back, s.rows = front ++ r :: back ∧ ∀ old ∈ front ++ back, old.id ≠ id := by
  obtain ⟨front, back, hrows⟩ := List.append_of_mem (List.mem_of_find?_eq_some hrow)
  refine ⟨front, back, hrows, fun old hold hid => ?_⟩
  rw [IsKeyed, hrows, List.map_append, List.map_cons, List.nodup_middle, ← List.map_append, List.nodup_cons] at h
  exact h.1 (List.mem_map.mpr ⟨old, hold, hid.trans (id_of_row? hrow).symm⟩)

theorem IsKeyed.alters_replace {s : Store} (h : s.IsKeyed) {id : String} {r r' : Row} (hrow : s.row? id = some r)
    (hid : r'.id = id) : Alters s (s.replace id r') id := by
  obtain ⟨front, back, hrows, hothers⟩ := h.split hrow
  have hkept : ∀ rows : List Row, (∀ old ∈ rows, old.id ≠ id) →
      rows.map (fun old => if old.id == id then r' else old) = rows := fun rows hne =>
    (List.map_congr_left fun old hold => by simp [hne old hold]).trans (List.map_id rows)
  refine ⟨front, back, by simp [hrow, hrows], ?_⟩
  rw [row?_replace hid hrow, if_pos rfl, Store.replace, hrows, List.map_append, List.map_cons,
    if_pos (by simp [id_of_row? hrow]),
    hkept front fun old hold => hothers old (List.mem_append_left _ hold),
    hkept back fun old hold => hothers old (List.mem_append_right _ hold)]
  simp

theorem IsKeyed.alters_delete {s : Store} (h : s.IsKeyed) {id : String} {r : Row} (hrow : s.row? id = some r) :
    Alters s { s with rows := s.rows.filter fun r => r.id != id } id := by
  obtain ⟨front, back, hrows, hothers⟩ := h.split hrow
  have hkept : ∀ rows : List Row, (∀ old ∈ rows, old.id ≠ id) → rows.filter (fun r => r.id != id) = rows :=
    fun rows hne => List.filter_eq_self.mpr fun old hold => by simp [hne old hold]
  refine ⟨front, back, by simp [hrow, hrows], ?_⟩
  rw [row?_delete, if_pos rfl]
  simp only [hrows, List.filter_append, List.filter_cons, id_of_row? hrow, bne_self_eq_false, Bool.false_eq_true,
    if_false, Option.toList_none, List.append_nil]
  rw [hkept front fun old hold => hothers old (List.mem_append_left _ hold),
    hkept back fun old hold => hothers old (List.mem_append_right _ hold)]

theorem alters_append {s : Store} {r : Row} (hnew : s.row? r.id = none) :
    Alters s { s with rows := s.rows ++ [r] } r.id := by
  refine ⟨s.rows, [], by simp [hnew], ?_⟩
  rw [row?_append hnew, if_pos rfl]
  simp

theorem id_applyRow (r : Row) (changes : List Change) : (changes.foldl Change.applyRow r).id = r.id := by
  induction changes generalizing r with
  | nil => rfl
  | cons c rest ih =>
    rw [List.foldl_cons, ih]
    cases c <;> rfl

/-- A request that is about a scenario leaves the rows of the others where they are. -/
theorem IsKeyed.alters {s : Store} (h : s.IsKeyed) (ids : IdSupply) {request : StoreRequest} (hfits : request.Fits)
    {id : String} (hid : request.id? ids = some id) : Alters s (s.perform ids request).2.1 id := by
  cases request with
  | create now name id' active blocks color =>
    obtain rfl := Option.some.inj hid
    change Alters s (s.create now ids _).2.1 _
    rw [create_texts]
    split
    · exact alters_self s _
    · split
      · exact alters_self s _
      · next hnew =>
        exact alters_append (r := newRow now name (ids.orDraw id').1 active blocks color)
          (Option.not_isSome_iff_eq_none.mp hnew)
  | update id' changes =>
    obtain rfl := Option.some.inj hid
    change Alters s (s.update id' _).2 _
    rw [update_entries hfits]
    split
    · exact alters_self s _
    · split
      · exact alters_self s _
      · cases hrow : s.row? id' with
        | none => exact alters_self s _
        | some r => exact h.alters_replace hrow ((id_applyRow r _).trans (id_of_row? hrow))
  | setLastExecuted id' time =>
    obtain rfl := Option.some.inj hid
    rw [perform, setLastExecuted]
    cases hrow : s.row? id' with
    | none => exact alters_self s _
    | some r => exact h.alters_replace hrow (id_of_row? hrow : _)
  | delete id' =>
    obtain rfl := Option.some.inj hid
    rw [perform, delete]
    cases hrow : s.row? id' with
    | none => exact alters_self s _
    | some r => exact h.alters_delete hrow
  | save settings => cases hid

/-! ## What requests do to the digest -/

/-- The scenario with an id, if it is active. -/
def active? (s : Store) (id : String) : Option Scenario :=
  (s.get id).toOption.join.filter Scenario.isActive

theorem Agrees.active?_eq {s : Store} {l : Ledger} (h : s.Agrees l) (id : String) :
    s.active? id = ((l.entries id).map LedgerEntry.scenario).filter Scenario.isActive := by
  rw [active?, h.get]
  rfl

/-- An active scenario has a row that counts as active, and the other way round. -/
theorem Agrees.active_cases {s : Store} {l : Ledger} (h : s.Agrees l) (id : String) :
    (s.activeRow? id = none ∧ s.active? id = none) ∨
      ∃ r e, s.activeRow? id = some r ∧ s.active? id = some e.scenario ∧ l.entries id = some e ∧ r.Shows e := by
  rw [h.active?_eq, activeRow?]
  obtain ⟨hrow, hentry⟩ | ⟨r, e, hrow, hentry, hshows⟩ := h.row_cases id
  · exact .inl ⟨by rw [hrow]; rfl, by rw [hentry]; rfl⟩
  · rw [hrow, hentry]
    have hactive := hshows.isActive
    cases he : e.scenario.isActive with
    | false => exact .inl ⟨by simp [Option.filter, hactive, he], by simp [Option.filter, he]⟩
    | true => exact .inr ⟨r, e, by simp [Option.filter, hactive, he], by simp [Option.filter, he], rfl, hshows⟩

theorem Agrees.isSome_activeRow? {s : Store} {l : Ledger} (h : s.Agrees l) (id : String) :
    (s.activeRow? id).isSome = (s.active? id).isSome := by
  obtain ⟨hrow, hactive⟩ | ⟨r, e, hrow, hactive, -, -⟩ := h.active_cases id <;> rw [hrow, hactive] <;> rfl

theorem Agrees.exists_activeRow {s : Store} {l : Ledger} (h : s.Agrees l) {id : String} {scenario : Scenario}
    (hactive : s.active? id = some scenario) :
    ∃ r e, s.activeRow? id = some r ∧ l.entries id = some e ∧ r.Shows e ∧ e.scenario = scenario := by
  obtain ⟨-, hnone⟩ | ⟨r, e, hrow, hsome, hentry, hshows⟩ := h.active_cases id
  · cases hnone.symm.trans hactive
  · exact ⟨r, e, hrow, hentry, hshows, Option.some.inj (hsome.symm.trans hactive)⟩

theorem id_of_activeRow? {s : Store} {id : String} {r : Row} (h : s.activeRow? id = some r) : r.id = id :=
  id_of_row? (Option.filter_eq_some_iff.mp h).1

end Store

namespace Row.Shows

variable {r r' : Row} {e e' : LedgerEntry}

theorem counted (h : r.Shows e) : r.counted = e.scenario.counted :=
  (Row.counted_of_scenario h.scenario).symm

theorem created_eq (h : r.Shows e) (h' : r'.Shows e') (hsecond : e'.second = e.second) : r'.created = r.created := by
  obtain ⟨now, hnow, hsecond₁, hcreated⟩ := h.created
  obtain ⟨now', hnow', hsecond₂, hcreated'⟩ := h'.created
  have hseconds : now'.seconds = now.seconds := by rw [hsecond₂, hsecond, hsecond₁]
  rw [hcreated, hcreated']
  refine congrArg Value.text (le_antisymm (not_lt.mp fun hlt => ?_) (not_lt.mp fun hlt => ?_))
  · exact absurd ((Instant.secondText_lt_iff hnow hnow').mp hlt) (by omega)
  · exact absurd ((Instant.secondText_lt_iff hnow' hnow).mp hlt) (by omega)

theorem beside (h : r.Shows e) (h' : r'.Shows e') (hsecond : e'.second = e.second)
    (hname : e'.scenario.name = e.scenario.name) : Row.Beside r r' :=
  ⟨h.created_eq h' hsecond, by rw [h.name, h'.name, hname]⟩

theorem plain_eq (h : r.Shows e) (h' : r'.Shows e') (hsecond : e'.second = e.second)
    (hcounted : e'.scenario.counted = e.scenario.counted) : r'.plain = r.plain := by
  rw [← h.counted, ← h'.counted, Row.counted, Row.counted] at hcounted
  obtain ⟨hid, hname, hblocks⟩ : _ ∧ _ ∧ _ := by simpa using hcounted
  rw [Row.plain, Row.plain, hid, hname, hblocks, h.created_eq h' hsecond]

end Row.Shows

theorem Ledger.entries_put {l : Ledger} {key id : String} {e : Option LedgerEntry} {e' : LedgerEntry}
    (h : (l.put key e).entries id = some e') : id = key ∧ e = some e' ∨ l.entries id = some e' := by
  simp only [put] at h
  split at h
  · next hid => exact .inl ⟨hid, h⟩
  · exact .inr h

/-- No request changes when a scenario was made. -/
theorem Ledger.second_perform {l : Ledger} {ids : IdSupply} {request : StoreRequest} {id : String} {e e' : LedgerEntry}
    (he : l.entries id = some e) (he' : (l.perform ids request).2.1.entries id = some e') : e'.second = e.second := by
  have hsame : l.entries id = some e' → e'.second = e.second := fun h => by
    rw [Option.some.inj (h.symm.trans he)]
  cases request with
  | create now name id' active blocks color =>
    simp only [perform] at he'
    split at he'
    · exact hsame he'
    · split at he'
      · exact hsame he'
      · next hfree =>
        rcases entries_put he' with ⟨rfl, -⟩ | h
        · cases he.symm.trans hfree
        · exact hsame h
  | update id' changes =>
    simp only [perform] at he'
    split at he'
    · exact hsame he'
    · split at he'
      · exact hsame he'
      · split at he'
        · exact hsame he'
        · next hentry =>
          rcases entries_put he' with ⟨rfl, hput⟩ | h
          · rw [← Option.some.inj hput, Option.some.inj (he.symm.trans hentry)]
          · exact hsame h
  | setLastExecuted id' time =>
    simp only [perform] at he'
    split at he'
    · exact hsame he'
    · next hentry =>
      rcases entries_put he' with ⟨rfl, hput⟩ | h
      · rw [← Option.some.inj hput, Option.some.inj (he.symm.trans hentry)]
      · exact hsame h
  | delete id' =>
    simp only [perform] at he'
    split at he'
    · exact hsame he'
    · rcases entries_put he' with ⟨-, hput⟩ | h
      · cases hput
      · exact hsame h
  | save settings => exact hsame he'

/-- An update makes all of its changes or none. -/
theorem Ledger.entries_update (l : Ledger) (ids : IdSupply) (id : String) (changes : List Change) :
    ∃ done : List Change, (∀ c ∈ done, c ∈ changes) ∧ (l.perform ids (.update id changes)).2.1.entries id =
      (l.entries id).map fun e => { e with scenario := done.foldl Change.apply e.scenario } := by
  have hnone : l.entries id = (l.entries id).map fun e => { e with scenario := [].foldl Change.apply e.scenario } := by
    cases l.entries id <;> rfl
  simp only [perform]
  split
  · exact ⟨[], by simp, hnone⟩
  · split
    · exact ⟨[], by simp, hnone⟩
    · split
      · exact ⟨[], by simp, hnone⟩
      · next hentry => exact ⟨changes, fun _ hc => hc, by simp [put, hentry]⟩

/-- A change of a color or a context changes nothing that counts. -/
theorem Change.counted_foldl {changes : List Change}
    (h : ∀ c ∈ changes, c.column? = some .color ∨ c.column? = some .context) (s : Scenario) :
    (changes.foldl apply s).counted = s.counted ∧ (changes.foldl apply s).isActive = s.isActive := by
  induction changes generalizing s with
  | nil => exact ⟨rfl, rfl⟩
  | cons c rest ih =>
    obtain ⟨hc, hrest⟩ := List.forall_mem_cons.mp h
    obtain ⟨hcounted, hactive⟩ := ih hrest (c.apply s)
    rw [List.foldl_cons, hcounted, hactive]
    cases c with
    | color text | context text => exact ⟨rfl, rfl⟩
    | name text | active b | blocks text | other field v => simp [column?] at hc

namespace Store

/-- What a request that leaves the store `t` does to the digest of a store. -/
structure Heeds (s t : Store) (ids : IdSupply) (request : StoreRequest) : Prop where
  /-- As long as the same counts of the scenario that it is about, and the settings are the same, nothing: whatever
  becomes of a scenario that is not active. -/
  quiet : (∀ id, request.id? ids = some id →
      (t.active? id).map Scenario.counted = (s.active? id).map Scenario.counted) →
    t.settings = s.settings → t.fingerprint = s.fingerprint
  noted : ∀ id time, request = .setLastExecuted id time → t.fingerprint = s.fingerprint
  coloured : ∀ id changes, request = .update id changes →
    (∀ c ∈ changes, c.column? = some .color ∨ c.column? = some .context) → t.fingerprint = s.fingerprint
  /-- Other settings change it. -/
  settings : t.settings ≠ s.settings → t.fingerprint ≠ s.fingerprint
  /-- So does a scenario that is made active or comes as an active one, and one that is no longer active or goes. -/
  switched : ∀ id, request.id? ids = some id → (t.active? id).isSome ≠ (s.active? id).isSome →
    t.fingerprint ≠ s.fingerprint
  /-- So does another chain of an active scenario that keeps its name. -/
  edited : ∀ id before after, request.id? ids = some id → s.active? id = some before → t.active? id = some after →
    after.name = before.name → after.blocks ≠ before.blocks → t.fingerprint ≠ s.fingerprint

theorem fingerprint_congr {s t : Store} {active active' : List Scenario} (hs : s.list true = .ok active)
    (ht : t.list true = .ok active') (hshown : t.shown = s.shown) (hsettings : t.settings = s.settings) :
    t.fingerprint = s.fingerprint := by
  rw [fingerprint_of_list hs, fingerprint_of_list ht, fed, fed, stream, stream, hshown, hsettings]

theorem shown_save (s : Store) (settings : Settings) : (s.save settings).2.shown = s.shown := by
  rw [save]
  split <;> rfl

theorem Agrees.quiet {s : Store} {l : Ledger} (h : s.Agrees l) (ids : IdSupply) {request : StoreRequest}
    (hfits : request.Fits)
    (hcounted : ∀ id, request.id? ids = some id →
      ((s.perform ids request).2.1.active? id).map Scenario.counted = (s.active? id).map Scenario.counted) :
    (s.perform ids request).2.1.shown = s.shown := by
  have hagrees := (h.follows ids hfits).agrees
  cases hid : request.id? ids with
  | none =>
    cases request with
    | save settings => exact shown_save s settings
    | _ => cases hid
  | some id =>
    have hcounted := hcounted id hid
    refine (h.keyed.alters ids hfits hid).shown_eq ?_
    obtain ⟨hrow, hactive⟩ | ⟨r, e, hrow, hactive, hentry, hshows⟩ := h.active_cases id <;>
      obtain ⟨hrow', hactive'⟩ | ⟨r', e', hrow', hactive', hentry', hshows'⟩ := hagrees.active_cases id <;>
        rw [hactive, hactive'] at hcounted <;> rw [hrow, hrow']
    · cases hcounted
    · cases hcounted
    · rw [Option.map_some, Option.map_some,
        hshows.plain_eq hshows' (Ledger.second_perform hentry hentry') (Option.some.inj hcounted)]

/-- A map with another entry of which the same counts has the same active scenario. -/
theorem counted_active_of_entry {s t : Store} {l l' : Ledger} (h : s.Agrees l) (h' : t.Agrees l') {id : String}
    {f : LedgerEntry → LedgerEntry} (hentry : l'.entries id = (l.entries id).map f)
    (hcounted : ∀ e, (f e).scenario.counted = e.scenario.counted)
    (hactive : ∀ e, (f e).scenario.isActive = e.scenario.isActive) :
    (t.active? id).map Scenario.counted = (s.active? id).map Scenario.counted := by
  rw [h.active?_eq, h'.active?_eq, hentry]
  cases l.entries id with
  | none => rfl
  | some e =>
    have hsame := hactive e
    cases he : e.scenario.isActive <;> rw [he] at hsame <;> simp [Option.filter, he, hsame, hcounted]

/-- What requests do to the digest of a store that stands for a map. -/
theorem Agrees.heeds {s : Store} {l : Ledger} (h : s.Agrees l) (ids : IdSupply) {request : StoreRequest}
    (hfits : request.Fits) (hset : s.SetApart (s.perform ids request).2.1) :
    s.Heeds (s.perform ids request).2.1 ids request := by
  have hfollows := h.follows ids hfits
  have hagrees := hfollows.agrees
  obtain ⟨_, -, -, -, -, hlist⟩ := h.reads.list
  obtain ⟨_, -, -, -, -, hlist'⟩ := hagrees.reads.list
  have hiff := hset.digest_eq_iff hlist hlist'
  have hquiet : (∀ id, request.id? ids = some id →
      ((s.perform ids request).2.1.active? id).map Scenario.counted = (s.active? id).map Scenario.counted) →
      (s.perform ids request).2.1.settings = s.settings →
        (s.perform ids request).2.1.fingerprint = s.fingerprint := fun hcounted hsettings =>
    fingerprint_congr hlist hlist' (h.quiet ids hfits hcounted) hsettings
  have hsettings : ∀ id, request.id? ids = some id → (s.perform ids request).2.1.settings = s.settings :=
    fun id hid => by rw [Store.settings, Store.settings, hfollows.saved (by rw [hid]; rfl)]
  refine ⟨hquiet, ?_, ?_, fun hne heq => hne (hiff.mp heq.symm).2.symm, fun id hid hne heq => ?_, ?_⟩
  · rintro id time rfl
    refine hquiet (fun id' hid => ?_) (hsettings id rfl)
    obtain rfl := Option.some.inj hid
    refine counted_active_of_entry h hagrees
      (f := fun e => { e with scenario.lastExecuted := some ⟨time, none⟩ }) ?_ (fun _ => rfl) fun _ => rfl
    rw [Ledger.perform]
    cases hentry : l.entries id <;> simp [Ledger.put, hentry]
  · rintro id changes rfl hchanges
    refine hquiet (fun id' hid => ?_) (hsettings id rfl)
    obtain rfl := Option.some.inj hid
    obtain ⟨done, hdone, hentry⟩ := l.entries_update ids id changes
    exact counted_active_of_entry h hagrees hentry
      (fun e => (Change.counted_foldl (fun c hc => hchanges c (hdone c hc)) e.scenario).1)
      fun e => (Change.counted_foldl (fun c hc => hchanges c (hdone c hc)) e.scenario).2
  · refine (h.keyed.alters ids hfits hid).stream_ne ?_ (hiff.mp heq.symm).1.symm
    rw [h.isSome_activeRow?, hagrees.isSome_activeRow?]
    exact hne
  · intro id before after hid hbefore hafter hname hblocks heq
    obtain ⟨r, e, hrow, hentry, hshows, rfl⟩ := h.exists_activeRow hbefore
    obtain ⟨r', e', hrow', hentry', hshows', rfl⟩ := hagrees.exists_activeRow hafter
    have hbeside := hshows.beside hshows' (Ledger.second_perform hentry hentry') hname
    obtain ⟨front, back, hshown, hshown'⟩ := (h.keyed.alters ids hfits hid).swapped hrow hrow' hbeside
    have htext := (stream_eq_iff hshown hshown').mp (hiff.mp heq.symm).1
    rw [hshows.counted, hshows'.counted] at htext
    have hids : e'.scenario.id = e.scenario.id := by
      rw [← hshows.id, ← hshows'.id, id_of_activeRow? hrow, id_of_activeRow? hrow']
    exact hblocks (countedText_inj hids hname htext.symm)

/-- Unless the digest itself is to blame, two stores whose active scenarios can be read have the same one iff the ids,
names and chains of these, written one after the other without anything between them, are the same text, and the
settings are the same. Where all but one of the scenarios listed are the same, that is decided by the id, the name and
the chain of this one, in one text. So a request that changes the settings, the set of active scenarios, or the chain
of an active scenario and not its name, changes the digest, and one that changes neither these nor a name does not. -/
theorem fingerprint_eq_iff {s t : Store} {active active' : List Scenario} (hs : s.list true = .ok active)
    (ht : t.list true = .ok active') (hset : s.SetApart t) :
    (s.fingerprint = t.fingerprint ↔
      String.join (active.map scenarioPart) = String.join (active'.map scenarioPart) ∧ s.settings = t.settings) ∧
    (∀ front back before after, active = front ++ before :: back → active' = front ++ after :: back →
      s.settings = t.settings → (s.fingerprint = t.fingerprint ↔ scenarioPart before = scenarioPart after)) ∧
    ∀ l ids request, s.Agrees l → request.Fits → (s.perform ids request).2.1 = t → s.Heeds t ids request := by
  have hiff := hset.digest_eq_iff hs ht
  refine ⟨?_, ?_, ?_⟩
  · rw [stream_of_list hs, stream_of_list ht]
    exact hiff
  · rintro front back before after rfl rfl hsettings
    have hshown := counted_of_list hs
    have hshown' := counted_of_list ht
    rw [List.map_append, List.map_cons] at hshown hshown'
    rw [hiff, and_iff_left hsettings]
    exact stream_eq_iff hshown.symm hshown'.symm
  · rintro l ids request h hfits rfl
    exact h.heeds ids hfits hset

/-- Two active scenarios, made in the same second. -/
def twoScenarios : List StoreRequest :=
  [.create ⟨0⟩ "2x[]1y" (some "1") true "[]" none, .create ⟨0⟩ "x" (some "12") true "[]" none]

/-- The store of them. -/
def twins : Store :=
  (performAll {} {} twoScenarios).2.1

/-- The store with another chain of the first one. -/
def rechained : Store :=
  (twins.perform {} (.update "1" [.blocks "[ ]"])).2.1

theorem list_twins : twins.list true = .ok
    [{ id := "1", name := "2x[]1y", isActive := true }, { id := "12", name := "x", isActive := true }] :=
  eq_ok_of_toOption (by decide +kernel)

theorem list_rechained : rechained.list true = .ok
    [{ id := "1", name := "2x[]1y", isActive := true, blocks := "[ ]" },
      { id := "12", name := "x", isActive := true }] :=
  eq_ok_of_toOption (by decide +kernel)

theorem fingerprint_eq_iff_rechained :
    twins.SetApart rechained ∧ rechained.fingerprint ≠ twins.fingerprint ∧
      twins.Heeds rechained {} (.update "1" [.blocks "[ ]"]) := by
  have hdigests : Sha256.hex twins.fed ≠ Sha256.hex rechained.fed := by
    rw [fed_of_list list_twins, fed_of_list list_rechained]
    decide +kernel
  have hset : twins.SetApart rechained := fun h => absurd h hdigests
  have hfits : ∀ request ∈ twoScenarios, request.Fits := by decide +kernel
  obtain ⟨-, hplaced, hheeds⟩ := fingerprint_eq_iff list_twins list_rechained hset
  refine ⟨hset, fun h => ?_, hheeds _ {} _ (agrees_empty.performAll {} hfits).2.2 (by decide +kernel) rfl⟩
  exact absurd ((hplaced [] _ _ _ rfl rfl (by decide +kernel)).mp h.symm) (by decide)

/-- The store with another name of the first one. -/
def renamed : Store :=
  (twins.perform {} (.update "1" [.name "y[]12x"])).2.1

theorem list_renamed : renamed.list true = .ok
    [{ id := "12", name := "x", isActive := true }, { id := "1", name := "y[]12x", isActive := true }] :=
  eq_ok_of_toOption (by decide +kernel)

/-- Another name of an active scenario that does not change the digest, through no fault of the digest: the two texts
are the same. -/
theorem rename_unseen : twins.SetApart renamed ∧ twins.settings = renamed.settings ∧
    (∃ active active', twins.list true = .ok active ∧ renamed.list true = .ok active' ∧
      active.map Scenario.counted ≠ active'.map Scenario.counted) ∧
    ∃ digest, twins.fingerprint = .ok digest ∧ renamed.fingerprint = .ok digest := by
  have hsettings : twins.settings = renamed.settings := by decide +kernel
  have hfed : twins.fed = renamed.fed := by
    rw [fed, fed, hsettings, ← stream_of_list list_twins, ← stream_of_list list_renamed]
    rfl
  refine ⟨fun _ => hfed, hsettings, ⟨_, _, list_twins, list_renamed, by decide⟩, _, fingerprint_of_list list_twins, ?_⟩
  rw [fingerprint_of_list list_renamed, hfed]

end Store

end Deskhand
