import Deskhand.Proofs.Store.Changes
import Deskhand.Proofs.Store.Listing
import Deskhand.Proofs.Text.Blank

/-!
# The store behaves as a map

A store that stands for a map (`Store.Agrees`) answers every request as the map does and stands for the map after
it. Main statements:

* `Row.Shows.scenario`: a row is read back as the scenario that it stands for;
* `Store.Agrees.follows`: one request;
* `Store.Agrees.reads`: what is read of a store is what the map holds;
* `Store.refines`: any requests.
-/

namespace Deskhand

/-! ## Rows -/

namespace Row.Shows

variable {r : Row} {e : LedgerEntry}

theorem instant (h : r.Shows e) : Row.instant r.lastExecuted = .ok e.scenario.lastExecuted := by
  obtain ⟨hrow, hscenario⟩ | ⟨time, htime, hrow, hscenario⟩ := h.lastExecuted
  · rw [hrow, hscenario]
    rfl
  · rw [hrow, hscenario, ← Stamp.read?_text htime]
    rfl

/-- A row is read back as the scenario that it stands for. -/
theorem scenario (h : r.Shows e) : r.scenario = .ok e.scenario := by
  have hinstant := h.instant
  obtain ⟨hid, hname, hactive, hblocks, -, hcolor, hcontext, -⟩ := h
  have htruthy : r.active.isTruthy = e.scenario.isActive := by
    rw [hactive]
    cases e.scenario.isActive <;> rfl
  simp only [Row.scenario, hinstant, bind, Except.bind, pure, Except.pure]
  rw [hid, hname, htruthy, hblocks, hcolor, hcontext]

theorem isActive (h : r.Shows e) : r.isActive = e.scenario.isActive := by
  rw [Row.isActive, h.active]
  cases e.scenario.isActive <;> rfl

theorem isDated (h : r.Shows e) : r.IsDated := by
  obtain ⟨now, -, -, hcreated⟩ := h.created
  exact ⟨_, hcreated⟩

/-- The order of the keys of rows is that of the entries. -/
theorem precedes {r' : Row} {e' : LedgerEntry} (h : r.Shows e) (h' : r'.Shows e') (hle : r.key ≤ r'.key) :
    e.Precedes e' := by
  obtain ⟨now, hnow, hsecond, hcreated⟩ := h.created
  obtain ⟨now', hnow', hsecond', hcreated'⟩ := h'.created
  rw [Row.key, Row.key, hcreated, hcreated', h.name, h'.name, Prod.Lex.toLex_le_toLex] at hle
  rw [LedgerEntry.Precedes, ← hsecond, ← hsecond']
  obtain hlt | ⟨heq, hname⟩ := hle
  · exact .inl ((Instant.secondText_lt_iff hnow hnow').mp hlt)
  · refine .inr ⟨?_, hname⟩
    have hnot : ¬now.seconds < now'.seconds := fun hlt => (Instant.secondText_lt hnow hnow' hlt).ne heq
    have hnot' : ¬now'.seconds < now.seconds := fun hlt => (Instant.secondText_lt hnow' hnow hlt).ne heq.symm
    omega

end Row.Shows

namespace Store

variable {s : Store} {l : Ledger}

/-! ## Rows by id -/

theorem row?_replace {id : String} {r old : Row} (hid : r.id = id) (hold : s.row? id = some old) (key : String) :
    (s.replace id r).row? key = if key = id then some r else s.row? key := by
  rw [row?, replace, List.find?_map]
  split
  · next hkey =>
    rw [hkey]
    have hsame : ((fun r => r.id == id) ∘ fun old => if old.id == id then r else old) =
        fun r : Row => r.id == id := by
      funext old
      simp only [Function.comp_apply]
      split <;> simp_all
    have hfound : s.rows.find? (fun r => r.id == id) = some old := hold
    rw [hsame, hfound, Option.map_some, if_pos (beq_iff_eq.mpr (id_of_row? hold))]
  · next hkey =>
    have hsame : ((fun r => r.id == key) ∘ fun old => if old.id == id then r else old) =
        fun r : Row => r.id == key := by
      funext old
      simp only [Function.comp_apply]
      split <;> simp_all
    rw [hsame]
    change (s.row? key).map _ = s.row? key
    cases hrow : s.row? key with
    | none => rfl
    | some found => rw [Option.map_some, if_neg (by simp [id_of_row? hrow, hkey])]

theorem row?_append {r : Row} (hnew : s.row? r.id = none) (key : String) :
    Store.row? { s with rows := s.rows ++ [r] } key = if key = r.id then some r else s.row? key := by
  rw [row?, List.find?_append]
  change (s.row? key).or _ = _
  split
  · next hkey => simp [hkey, hnew]
  · next hkey => simp [Ne.symm hkey]

theorem row?_delete (id key : String) :
    Store.row? { s with rows := s.rows.filter fun r => r.id != id } key =
      if key = id then none else s.row? key := by
  rw [row?, List.find?_filter]
  split
  · next hkey => simp [hkey]
  · next hkey =>
    refine congrArg (s.rows.find? ·) (funext fun r => ?_)
    rw [Bool.eq_iff_iff]
    simp only [decide_eq_true_eq, bne_iff_ne, beq_iff_eq]
    exact ⟨And.right, fun h => ⟨by rwa [h], h⟩⟩

/-- A store in which one row is another one, or none, stands for the map with the entry of that row. -/
theorem Agrees.put {t : Store} (h : s.Agrees l) (hkeyed : t.IsKeyed) (hsaved : t.saved = s.saved) {id : String}
    {row : Option Row} (hrow : ∀ key, t.row? key = if key = id then row else s.row? key)
    {e : Option LedgerEntry} (hshows : Option.Rel Row.Shows row e) : t.Agrees (l.put id e) := by
  refine ⟨hkeyed, fun key => ?_, ?_⟩
  · rw [hrow, Ledger.put]
    dsimp only
    split
    · exact hshows
    · exact h.rows key
  · rw [Store.settings, hsaved]
    exact h.settings

/-- The map has an entry where the store has a row, which stands for it. -/
theorem Agrees.row_cases (h : s.Agrees l) (id : String) :
    (s.row? id = none ∧ l.entries id = none) ∨
      ∃ r e, s.row? id = some r ∧ l.entries id = some e ∧ r.Shows e := by
  have hid := h.rows id
  cases hrow : s.row? id with
  | none =>
    rw [hrow] at hid
    cases hentry : l.entries id with
    | none => exact .inl ⟨rfl, rfl⟩
    | some e =>
      rw [hentry] at hid
      cases hid
  | some r =>
    rw [hrow] at hid
    cases hentry : l.entries id with
    | none =>
      rw [hentry] at hid
      cases hid
    | some e =>
      rw [hentry] at hid
      cases hid with
      | some hshows => exact .inr ⟨r, e, rfl, rfl, hshows⟩

/-! ## One request -/

/-- The answer of a store to a request is that of a map, which the store stands for afterwards. A request that is
declined leaves the store as it is, and any other one leaves the rows alone that it is not about, and the settings
if it is about a row. -/
structure Follows (s : Store) (about : Option String) (result : Answer (Option Scenario) × Store × IdSupply)
    (expected : Except StoreRefusal (Option Scenario) × Ledger × IdSupply) : Prop where
  answer : result.1 = .ok expected.1
  supply : result.2.2 = expected.2.2
  agrees : result.2.1.Agrees expected.2.1
  declined : ∀ refusal, expected.1 = .error refusal → result.2.1 = s
  rows : ∀ key, about ≠ some key → result.2.1.row? key = s.row? key
  saved : about.isSome → result.2.1.saved = s.saved

/-- A request that is declined. -/
theorem Agrees.follows_declined (h : s.Agrees l) (about : Option String) (refusal : StoreRefusal) (ids : IdSupply) :
    s.Follows about (.ok (.error refusal), s, ids) (.error refusal, l, ids) :=
  ⟨rfl, rfl, h, fun _ _ => rfl, fun _ _ => rfl, fun _ => rfl⟩

/-- A request that changes one row. -/
theorem Agrees.follows_put {t : Store} (h : s.Agrees l) (hkeyed : t.IsKeyed) (hsaved : t.saved = s.saved)
    {id : String} {row : Option Row} (hrow : ∀ key, t.row? key = if key = id then row else s.row? key)
    {e : Option LedgerEntry} (hshows : Option.Rel Row.Shows row e) (answer : Option Scenario) (ids : IdSupply) :
    s.Follows (some id) (.ok (.ok answer), t, ids) (.ok answer, l.put id e, ids) := by
  refine ⟨rfl, rfl, h.put hkeyed hsaved hrow hshows, fun _ hrefusal => (by cases hrefusal), fun key hkey => ?_,
    fun _ => hsaved⟩
  rw [hrow, if_neg fun heq => hkey (by rw [heq])]

/-- The row of a new scenario. -/
def newRow (now : Instant) (name id : String) (active : Bool) (blocks : String) (color : Option String) : Row :=
  { id, name := Text.trim name, active := .int (if active then 1 else 0), blocks, color
    created := .text now.secondText }

theorem shows_newRow {now : Instant} (hnow : now.micros < Instant.limit) (name id : String) (active : Bool)
    (blocks : String) (color : Option String) :
    (newRow now name id active blocks color).Shows (Ledger.made now name id active blocks color) :=
  ⟨rfl, rfl, rfl, rfl, .inl ⟨rfl, rfl⟩, rfl, rfl, now, hnow, rfl, rfl⟩

theorem create_texts (s : Store) (now : Instant) (ids : IdSupply) (name : String) (id : Option String)
    (active : Bool) (blocks : String) (color : Option String) :
    s.create now ids
        { name := .text name, id, active := .bool active, blocks := .text blocks, color := .ofText? color } =
      if Text.isBlankText name then (.ok (.error .blankName), s, ids)
      else if (s.row? (ids.orDraw id).1).isSome then (.ok (.error (.taken (ids.orDraw id).1)), s, (ids.orDraw id).2)
      else
        let r := newRow now name (ids.orDraw id).1 active blocks color
        (r.scenario.map .ok, { s with rows := s.rows ++ [r] }, (ids.orDraw id).2) := by
  have hcells : ∀ name id,
      cells { name, id, active := .bool active, blocks := .text blocks, color := .ofText? color } =
        .ok (.int (if active then 1 else 0), .text blocks, .ofText? color) := fun _ _ => by
    cases active <;> cases color <;> rfl
  have hblocks : Cell.textual (.text blocks) = some blocks := rfl
  have hcolor : Cell.textual (.ofText? color) = color := by cases color <;> rfl
  rw [create, nameOf]
  cases Text.isBlankText name with
  | true => rfl
  | false =>
    simp only [Bool.false_eq_true, if_false, hcells, hblocks, hcolor]
    rfl

theorem Agrees.follows_create (h : s.Agrees l) (ids : IdSupply) {now : Instant} (hnow : now.micros < Instant.limit)
    (name : String) (id : Option String) (active : Bool) (blocks : String) (color : Option String) :
    s.Follows (some (ids.orDraw id).1) (s.perform ids (.create now name id active blocks color))
      (l.perform ids (.create now name id active blocks color)) := by
  have hkeyed := isKeyed_create h.keyed now ids
    { name := .text name, id, active := .bool active, blocks := .text blocks, color := .ofText? color }
  rw [create_texts] at hkeyed
  rw [perform, Ledger.perform, create_texts]
  generalize ids.orDraw id = drawn at hkeyed ⊢
  by_cases hblank : Text.isBlankText name = true
  · simp only [hblank, if_true]
    exact h.follows_declined _ _ _
  · simp only [hblank] at hkeyed ⊢
    obtain ⟨hrow, hentry⟩ | ⟨r, e, hrow, hentry, -⟩ := h.row_cases drawn.1
    · have hshows := shows_newRow hnow name drawn.1 active blocks color
      simp only [hrow, hentry, Option.isSome_none, Bool.false_eq_true, if_false, hshows.scenario] at hkeyed ⊢
      exact h.follows_put hkeyed rfl (row?_append (r := newRow now name drawn.1 active blocks color) hrow)
        (.some hshows) _ _
    · simp only [hrow, hentry, Option.isSome_some, if_true]
      exact h.follows_declined _ _ _

theorem Agrees.follows_update (h : s.Agrees l) (ids : IdSupply) (id : String) {changes : List Change}
    (hdistinct : Change.AreDistinct changes) :
    s.Follows (some id) (s.perform ids (.update id changes)) (l.perform ids (.update id changes)) := by
  rw [perform, Ledger.perform, update_entries hdistinct]
  change s.Follows _ _ (if !(unknownNames changes).isEmpty then _ else _)
  by_cases hnone : (unknownNames changes).isEmpty = true
  case neg =>
    simp only [hnone, Bool.not_false, if_true]
    exact h.follows_declined _ _ _
  by_cases hempty : changes.isEmpty = true
  case pos =>
    simp only [hnone, hempty, Bool.not_true, Bool.false_eq_true, if_true, if_false]
    exact h.follows_declined _ _ _
  simp only [hnone, hempty, Bool.not_true, Bool.false_eq_true, if_false]
  obtain ⟨hrow, hentry⟩ | ⟨r, e, hrow, hentry, hshows⟩ := h.row_cases id
  · simp only [hrow, hentry]
    exact h.follows_declined _ _ _
  · have hchanged := Change.shows_foldl hshows (Change.ordered changes)
    rw [Change.foldl_ordered hdistinct (isKnown_of_mem hnone)] at hchanged
    have hscenario : e.scenario.id = id := hshows.id.symm.trans (id_of_row? hrow)
    have hid := hchanged.id.trans ((Change.id_foldl changes e.scenario).trans hscenario)
    simp only [hrow, hentry, hchanged.scenario]
    exact h.follows_put (h.keyed.replace hid) rfl (row?_replace hid hrow) (.some hchanged) _ _

theorem Agrees.follows_setLastExecuted (h : s.Agrees l) (ids : IdSupply) (id : String) {time : Instant}
    (htime : time.micros < Instant.limit) :
    s.Follows (some id) (s.perform ids (.setLastExecuted id time)) (l.perform ids (.setLastExecuted id time)) := by
  rw [perform, Ledger.perform, setLastExecuted]
  obtain ⟨hrow, hentry⟩ | ⟨r, e, hrow, hentry, hshows⟩ := h.row_cases id
  · simp only [hrow, hentry]
    exact h.follows_declined _ _ _
  · have hnoted : Row.Shows { r with lastExecuted := .text (Stamp.text ⟨time, none⟩) }
        { e with scenario.lastExecuted := some ⟨time, none⟩ } :=
      { hshows with lastExecuted := .inr ⟨time, htime, rfl, rfl⟩ }
    have hid := hnoted.id.trans (hshows.id.symm.trans (id_of_row? hrow))
    simp only [hrow, hentry]
    exact h.follows_put (h.keyed.replace hid) rfl (row?_replace hid hrow) (.some hnoted) _ _

theorem Agrees.follows_delete (h : s.Agrees l) (ids : IdSupply) (id : String) :
    s.Follows (some id) (s.perform ids (.delete id)) (l.perform ids (.delete id)) := by
  have hkeyed := isKeyed_delete h.keyed id
  rw [perform, Ledger.perform]
  rw [delete] at hkeyed ⊢
  obtain ⟨hrow, hentry⟩ | ⟨r, e, hrow, hentry, hshows⟩ := h.row_cases id
  · simp only [hrow, hentry]
    exact h.follows_declined _ _ _
  · simp only [hrow, hentry] at hkeyed ⊢
    exact h.follows_put hkeyed rfl (row?_delete id) .none _ _

theorem Agrees.follows_save (h : s.Agrees l) (ids : IdSupply) {settings : Settings}
    (hfits : (StoreRequest.save settings).Fits) :
    s.Follows none (s.perform ids (.save settings)) (l.perform ids (.save settings)) := by
  have hchat : settings.chatId.all Cell.fits = true := by
    rw [Option.all_eq_true]
    intro chat hchat
    rw [Cell.fits, Integer.fitsWord, Bool.and_eq_true, decide_eq_true_eq, decide_eq_true_eq]
    exact hfits chat hchat
  rw [perform, Ledger.perform, save, if_pos hchat]
  exact ⟨rfl, rfl, ⟨h.keyed, h.rows, rfl⟩, fun _ hrefusal => (by cases hrefusal), fun _ _ => rfl,
    fun hnone => (by cases hnone)⟩

/-- One request. -/
theorem Agrees.follows (h : s.Agrees l) (ids : IdSupply) {request : StoreRequest} (hfits : request.Fits) :
    s.Follows (request.id? ids) (s.perform ids request) (l.perform ids request) := by
  cases request with
  | create now name id active blocks color => exact h.follows_create ids hfits name id active blocks color
  | update id changes => exact h.follows_update ids id hfits
  | setLastExecuted id time => exact h.follows_setLastExecuted ids id hfits
  | delete id => exact h.follows_delete ids id
  | save settings => exact h.follows_save ids hfits

/-! ## What is read -/

/-- What is read of a store is what a map holds: each scenario by its id, the settings, and the lists of all
scenarios and of the active ones, in order. -/
structure Reads (s : Store) (l : Ledger) : Prop where
  get : ∀ id, s.get id = .ok ((l.entries id).map LedgerEntry.scenario)
  settings : s.settings = l.settings
  list : ∃ entries : List LedgerEntry, (∀ e, e ∈ entries ↔ l.entries e.scenario.id = some e) ∧
    (entries.map fun e => e.scenario.id).Nodup ∧ entries.Pairwise LedgerEntry.Precedes ∧
    s.list false = .ok (entries.map LedgerEntry.scenario) ∧
    s.list true = .ok ((entries.map LedgerEntry.scenario).filter Scenario.isActive)

theorem Agrees.get (h : s.Agrees l) (id : String) : s.get id = .ok ((l.entries id).map LedgerEntry.scenario) := by
  rw [Store.get]
  obtain ⟨hrow, hentry⟩ | ⟨r, e, hrow, hentry, hshows⟩ := h.row_cases id
  · simp only [hrow, hentry, Option.map_none]
  · simp only [hrow, hentry, hshows.scenario]
    rfl

theorem row?_of_mem (h : s.IsKeyed) {r : Row} (hr : r ∈ s.rows) : s.row? r.id = some r := by
  cases hrow : s.row? r.id with
  | none => exact absurd (List.mem_map_of_mem hr) (row?_eq_none_iff.mp hrow)
  | some found => rw [h.eq_of_row? hrow hr rfl]

/-- The entry that a row stands for. -/
def entryOf (l : Ledger) (r : Row) : LedgerEntry :=
  (l.entries r.id).getD default

theorem Agrees.shows_of_mem (h : s.Agrees l) {r : Row} (hr : r ∈ s.rows) :
    l.entries r.id = some (entryOf l r) ∧ r.Shows (entryOf l r) := by
  have hfound := row?_of_mem h.keyed hr
  obtain ⟨hrow, -⟩ | ⟨r', e, hrow, hentry, hshows⟩ := h.row_cases r.id
  · rw [hfound] at hrow
    cases hrow
  · rw [hfound] at hrow
    rw [entryOf, hentry, Option.getD_some, Option.some.inj hrow]
    exact ⟨rfl, hshows⟩

/-- The scenarios of some rows of a store, read one by one. -/
theorem Agrees.mapM_scenario (h : s.Agrees l) {rows : List Row} (hrows : ∀ r ∈ rows, r ∈ s.rows) :
    rows.mapM Row.scenario = .ok ((rows.map (entryOf l)).map LedgerEntry.scenario) := by
  rw [List.map_map]
  exact mapM_ok_of_forall fun r hr => (h.shows_of_mem (hrows r hr)).2.scenario

/-- What is read of a store that stands for a map is what the map holds. -/
theorem Agrees.reads (h : s.Agrees l) : s.Reads l := by
  have hdated : ∀ r ∈ s.rows, r.IsDated := fun r hr => (h.shows_of_mem hr).2.isDated
  have hmem : ∀ r ∈ sorted s.rows, r ∈ s.rows := fun r hr => (sorted_perm s.rows).mem_iff.mp hr
  have hall : s.listed false = sorted s.rows := by simp [listed]
  have hactive : s.listed true = (sorted s.rows).filter Row.isActive := by simp [listed, filter_sorted _ hdated]
  have hids : ((sorted s.rows).map (entryOf l)).map (fun e => e.scenario.id) = (sorted s.rows).map Row.id := by
    rw [List.map_map]
    exact List.map_congr_left fun r hr => (h.shows_of_mem (hmem r hr)).2.id.symm
  refine ⟨h.get, h.settings, (sorted s.rows).map (entryOf l), fun e => ⟨fun he => ?_, fun he => ?_⟩, ?_, ?_, ?_, ?_⟩
  · obtain ⟨r, hr, rfl⟩ := List.mem_map.mp he
    obtain ⟨hentry, hshows⟩ := h.shows_of_mem (hmem r hr)
    rwa [← hshows.id]
  · obtain ⟨-, hnone⟩ | ⟨r, e', hrow, hentry, -⟩ := h.row_cases e.scenario.id
    · rw [he] at hnone
      cases hnone
    · have hr := (sorted_perm s.rows).mem_iff.mpr (List.mem_of_find?_eq_some hrow)
      refine List.mem_map.mpr ⟨r, hr, ?_⟩
      rw [entryOf, id_of_row? hrow, he, Option.getD_some]
  · rw [hids]
    exact ((sorted_perm s.rows).map Row.id).nodup_iff.mpr h.keyed
  · refine List.pairwise_map.mpr ((pairwise_sorted hdated).imp_of_mem fun ha hb hle => ?_)
    exact (h.shows_of_mem (hmem _ ha)).2.precedes (h.shows_of_mem (hmem _ hb)).2 hle
  · rw [Store.list, hall, h.mapM_scenario hmem]
  · have hpicked : (sorted s.rows).filter Row.isActive =
        (sorted s.rows).filter ((Scenario.isActive ∘ LedgerEntry.scenario) ∘ entryOf l) :=
      List.filter_congr fun r hr => (h.shows_of_mem (hmem r hr)).2.isActive
    rw [Store.list, hactive, h.mapM_scenario fun r hr => hmem r (List.mem_of_mem_filter hr), List.filter_map,
      List.filter_map, hpicked]

/-! ## Any requests -/

/-- A store that stands for a map answers any requests as the map does, and stands for it afterwards. -/
theorem Agrees.performAll (h : s.Agrees l) (ids : IdSupply) {requests : List StoreRequest}
    (hfits : ∀ request ∈ requests, request.Fits) :
    (s.performAll ids requests).1 = (l.performAll ids requests).1.map .ok ∧
      (s.performAll ids requests).2.2 = (l.performAll ids requests).2.2 ∧
      (s.performAll ids requests).2.1.Agrees (l.performAll ids requests).2.1 := by
  induction requests generalizing s l ids with
  | nil => exact ⟨rfl, rfl, h⟩
  | cons request rest ih =>
    obtain ⟨hrequest, hrest⟩ := List.forall_mem_cons.mp hfits
    have hfollows := h.follows ids hrequest
    obtain ⟨hanswers, hids, hagrees⟩ := ih hfollows.agrees (s.perform ids request).2.2 hrest
    rw [hfollows.supply] at hanswers hids hagrees
    simp only [Store.performAll, Ledger.performAll, List.map_cons, hfollows.answer, hfollows.supply, hanswers]
    exact ⟨trivial, hids, hagrees⟩

/-- What one request can change. One that is declined changes nothing. Any other one changes the scenario that it is
about, or the settings; an update changes only the fields that it names; and the time at which a scenario ran, and
settings, are read as they were given. -/
structure ChangesOnly (s : Store) (ids : IdSupply) (request : StoreRequest) : Prop where
  declined : ∀ refusal, (s.perform ids request).1 = .ok (.error refusal) → (s.perform ids request).2.1 = s
  others : ∀ id, request.id? ids ≠ some id → (s.perform ids request).2.1.get id = s.get id
  settings : (request.id? ids).isSome → (s.perform ids request).2.1.settings = s.settings
  fields : ∀ id changes before after, request = .update id changes → s.get id = .ok (some before) →
    (s.perform ids request).1 = .ok (.ok (some after)) →
    ∀ f, f ∉ changes.map Change.field → Entries.find? after.record f = Entries.find? before.record f
  lastExecuted : ∀ id time before, request = .setLastExecuted id time → s.get id = .ok (some before) →
    (s.perform ids request).2.1.get id = .ok (some { before with lastExecuted := some ⟨time, none⟩ })
  saved : ∀ settings, request = .save settings → (s.perform ids request).2.1.settings = settings

/-- The entry of a scenario that is found. -/
theorem Agrees.exists_entry (h : s.Agrees l) {id : String} {scenario : Scenario}
    (hget : s.get id = .ok (some scenario)) : ∃ e, l.entries id = some e ∧ e.scenario = scenario := by
  rw [h.get] at hget
  exact Option.map_eq_some_iff.mp (Except.ok.inj hget)

theorem Agrees.changesOnly (h : s.Agrees l) (ids : IdSupply) {request : StoreRequest} (hfits : request.Fits) :
    s.ChangesOnly ids request := by
  have hfollows := h.follows ids hfits
  have hanswer := hfollows.answer
  refine ⟨fun refusal hrefusal => ?_, fun id hid => ?_, fun hsome => ?_, ?_, ?_, ?_⟩
  · rw [hanswer] at hrefusal
    exact hfollows.declined refusal (Except.ok.inj hrefusal)
  · rw [Store.get, Store.get, hfollows.rows id hid]
  · rw [Store.settings, Store.settings, hfollows.saved hsome]
  · rintro id changes before after rfl hget hchanged f hf
    obtain ⟨e, hentry, rfl⟩ := h.exists_entry hget
    rw [hanswer, Ledger.perform] at hchanged
    dsimp only at hchanged
    split at hchanged
    · cases Except.ok.inj hchanged
    · split at hchanged
      · cases Except.ok.inj hchanged
      · rw [hentry] at hchanged
        rw [← Option.some.inj (Except.ok.inj (Except.ok.inj hchanged))]
        exact Change.find?_record_foldl hf e.scenario
  · rintro id time before rfl hget
    obtain ⟨e, hentry, rfl⟩ := h.exists_entry hget
    rw [hfollows.agrees.get, Ledger.perform, hentry]
    simp [Ledger.put]
  · rintro settings rfl
    exact hfollows.agrees.settings

/-- A store that stands for a map, such as an empty one, answers any requests as the map does, and what is then read
of it is what the map holds. A request changes no more than it names. -/
theorem refines (h : s.Agrees l) (ids : IdSupply) {requests : List StoreRequest}
    (hfits : ∀ request ∈ requests, request.Fits) :
    (s.performAll ids requests).1 = (l.performAll ids requests).1.map .ok ∧
      (s.performAll ids requests).2.1.Reads (l.performAll ids requests).2.1 ∧
      ∀ ids' request, request.Fits → (s.performAll ids requests).2.1.ChangesOnly ids' request := by
  obtain ⟨hanswers, -, hagrees⟩ := h.performAll ids hfits
  exact ⟨hanswers, hagrees.reads, fun ids' request hrequest => hagrees.changesOnly ids' hrequest⟩

/-- A scenario is made, made again, changed, and has run; settings are kept; and there is no second scenario. -/
def dayOfUse : List StoreRequest :=
  [.create ⟨0⟩ " Lamp  " (some "a") true "" (some ""), .create ⟨0⟩ "Lamp" (some "a") false "[]" none,
    .create ⟨0⟩ "  " none true "[]" none, .update "a" [.active false, .name "Lamp at night"],
    .update "b" [.context (some "\x7b\x7d")], .update "a" [.other "id" .null, .color none],
    .setLastExecuted "a" ⟨123456⟩, .save { chatId := some (-5) }, .delete "b"]

theorem refines_dayOfUse :
    Agrees {} {} ∧ (∀ request ∈ dayOfUse, request.Fits) ∧
      (performAll {} {} dayOfUse).2.1.get "a" =
        .ok (some { id := "a", name := "Lamp at night", lastExecuted := some ⟨⟨123456⟩, none⟩ }) ∧
      (performAll {} {} dayOfUse).2.1.settings = { chatId := some (-5) } := by
  have hfits : ∀ request ∈ dayOfUse, request.Fits := by decide +kernel
  obtain ⟨-, hreads, -⟩ := refines agrees_empty {} hfits
  refine ⟨agrees_empty, hfits, ?_, ?_⟩
  · rw [hreads.get]
    exact congrArg Except.ok (by decide +kernel)
  · rw [hreads.settings]
    rfl

end Store

end Deskhand
