import Deskhand.Proofs.Calendar.Stamp
import Deskhand.Proofs.Store.Keys

/-!
# The store as a map

A `Ledger` is what the store stands for: a map from ids to scenarios, each with the second at which it was made,
and one record of settings. A `StoreRequest` asks for a change with values of the right kinds, and `Ledger.perform`
and `Store.perform` say how the map and the store answer it. `Row.Shows` and `Store.Agrees` relate the two.
-/

namespace Deskhand

/-! ## What is asked for -/

/-- A change of one field of a scenario, or of what is no field. -/
inductive Change where
  | name (s : String)
  | active (b : Bool)
  | blocks (s : String)
  | color (s : Option String)
  | context (s : Option String)
  | other (field : String) (v : Value)

namespace Change

/-- The column that a change names. -/
def column? : Change → Option Column
  | name _ => some .name
  | active _ => some .active
  | blocks _ => some .blocks
  | color _ => some .color
  | context _ => some .context
  | other _ _ => none

/-- The field that a change names. -/
def field : Change → String
  | name _ => Column.name.title
  | active _ => Column.active.title
  | blocks _ => Column.blocks.title
  | color _ => Column.color.title
  | context _ => Column.context.title
  | other field _ => field

/-- The value of a change. -/
def value : Change → Value
  | name s => .text s
  | active b => .bool b
  | blocks s => .text s
  | color s => .ofText? s
  | context s => .ofText? s
  | other _ v => v

/-- The field and the value of a change. -/
def entry (c : Change) : String × Value :=
  (c.field, c.value)

/-- The scenario after a change. -/
def apply (s : Scenario) : Change → Scenario
  | name text => { s with name := text }
  | active b => { s with isActive := b }
  | blocks text => { s with blocks := Row.orDefault (some text) Scenario.noBlocks }
  | color text => { s with color := some (Row.orDefault text Scenario.defaultColor) }
  | context text => { s with lastContext := text }
  | other _ _ => s

/-- Changes of different fields, where only those of a known field count as its change. -/
def AreDistinct (changes : List Change) : Prop :=
  (changes.map field).Nodup ∧ ∀ c ∈ changes, Column.ofChange? c.field = c.column?

instance (changes : List Change) : Decidable (AreDistinct changes) :=
  inferInstanceAs (Decidable (_ ∧ _))

end Change

/-- What the store is asked for. -/
inductive StoreRequest where
  | create (now : Instant) (name : String) (id : Option String) (active : Bool) (blocks : String)
    (color : Option String)
  | update (id : String) (changes : List Change)
  | setLastExecuted (id : String) (time : Instant)
  | delete (id : String)
  | save (settings : Settings)

namespace StoreRequest

/-- Whether the values of a request can be stored: instants of the calendar, and numbers of 64 bits. -/
def Fits : StoreRequest → Prop
  | create now .. => now.micros < Instant.limit
  | update _ changes => Change.AreDistinct changes
  | setLastExecuted _ time => time.micros < Instant.limit
  | delete _ => True
  | save settings => ∀ chat ∈ settings.chatId, -2 ^ 63 ≤ chat ∧ chat < 2 ^ 63

instance : (request : StoreRequest) → Decidable request.Fits
  | create now .. => inferInstanceAs (Decidable (now.micros < Instant.limit))
  | update _ changes => inferInstanceAs (Decidable (Change.AreDistinct changes))
  | setLastExecuted _ time => inferInstanceAs (Decidable (time.micros < Instant.limit))
  | delete _ => inferInstanceAs (Decidable True)
  | save settings => inferInstanceAs (Decidable (∀ chat ∈ settings.chatId, -2 ^ 63 ≤ chat ∧ chat < 2 ^ 63))

/-- The id of the scenario that a request is about. -/
def id? (ids : IdSupply) : StoreRequest → Option String
  | create _ _ id .. => some (ids.orDraw id).1
  | update id _ | setLastExecuted id _ | delete id => some id
  | save _ => none

end StoreRequest

/-! ## The map -/

/-- A scenario and the second at which it was made. -/
structure LedgerEntry where
  scenario : Scenario
  second : Nat
  deriving Inhabited

/-- The order in which scenarios are listed: by the second at which they were made, then by name. -/
def LedgerEntry.Precedes (a b : LedgerEntry) : Prop :=
  a.second < b.second ∨ (a.second = b.second ∧ a.scenario.name ≤ b.scenario.name)

/-- Scenarios by id, and the settings. -/
structure Ledger where
  entries : String → Option LedgerEntry := fun _ => none
  settings : Settings := {}

namespace Ledger

/-- The map with another entry, or none, under an id. -/
def put (l : Ledger) (id : String) (e : Option LedgerEntry) : Ledger :=
  { l with entries := fun key => if key = id then e else l.entries key }

/-- A new scenario. -/
def made (now : Instant) (name id : String) (active : Bool) (blocks : String) (color : Option String) :
    LedgerEntry where
  scenario :=
    { id, name := Text.trim name, isActive := active, blocks := Row.orDefault (some blocks) Scenario.noBlocks
      color := some (Row.orDefault color Scenario.defaultColor) }
  second := now.seconds

/-- The answer of the map to a request: a refusal, or the scenario that was made or changed, where there is one. -/
def perform (l : Ledger) (ids : IdSupply) :
    StoreRequest → Except StoreRefusal (Option Scenario) × Ledger × IdSupply
  | .create now name id active blocks color =>
    if Text.isBlankText name then (.error .blankName, l, ids)
    else
      let (id, ids) := ids.orDraw id
      match l.entries id with
      | some _ => (.error (.taken id), l, ids)
      | none =>
        let e := made now name id active blocks color
        (.ok (some e.scenario), l.put id (some e), ids)
  | .update id changes =>
    let unknown := (changes.filter fun c => c.column?.isNone).map Change.field
    if !unknown.isEmpty then (.error (.unknownFields (unknown.mergeSort (· ≤ ·))), l, ids)
    else if changes.isEmpty then (.error .nothingToChange, l, ids)
    else
      match l.entries id with
      | none => (.error (.unknownScenario id), l, ids)
      | some e =>
        let scenario := changes.foldl Change.apply e.scenario
        (.ok (some scenario), l.put id (some { e with scenario }), ids)
  | .setLastExecuted id time =>
    match l.entries id with
    | none => (.error (.unknownScenario id), l, ids)
    | some e => (.ok none, l.put id (some { e with scenario.lastExecuted := some ⟨time, none⟩ }), ids)
  | .delete id =>
    match l.entries id with
    | none => (.error (.unknownScenario id), l, ids)
    | some _ => (.ok none, l.put id none, ids)
  | .save settings => (.ok none, { l with settings }, ids)

/-- The answers of the map to several requests, and what becomes of it. -/
def performAll (l : Ledger) (ids : IdSupply) :
    List StoreRequest → List (Except StoreRefusal (Option Scenario)) × Ledger × IdSupply
  | [] => ([], l, ids)
  | request :: rest =>
    let first := l.perform ids request
    let others := first.2.1.performAll first.2.2 rest
    (first.1 :: others.1, others.2)

end Ledger

/-! ## The store -/

/-- The answer of the store to a request. -/
def Store.perform (s : Store) (ids : IdSupply) : StoreRequest → Store.Answer (Option Scenario) × Store × IdSupply
  | .create now name id active blocks color =>
    let (answer, s, ids) := s.create now ids
      { name := .text name, id, active := .bool active, blocks := .text blocks, color := .ofText? color }
    (answer.map (·.map some), s, ids)
  | .update id changes =>
    let (answer, s) := s.update id (changes.map Change.entry)
    (answer.map (·.map some), s, ids)
  | .setLastExecuted id time =>
    let (answer, s) := s.setLastExecuted id ⟨time, none⟩
    (.ok (answer.map fun _ => none), s, ids)
  | .delete id =>
    let (answer, s) := s.delete id
    (.ok (answer.map fun _ => none), s, ids)
  | .save settings =>
    let (answer, s) := s.save settings
    (answer.map fun _ => .ok none, s, ids)

/-- The answers of the store to several requests, and what becomes of it. -/
def Store.performAll (s : Store) (ids : IdSupply) :
    List StoreRequest → List (Store.Answer (Option Scenario)) × Store × IdSupply
  | [] => ([], s, ids)
  | request :: rest =>
    let first := s.perform ids request
    let others := first.2.1.performAll first.2.2 rest
    (first.1 :: others.1, others.2)

/-- A row stands for an entry. -/
structure Row.Shows (r : Row) (e : LedgerEntry) : Prop where
  id : r.id = e.scenario.id
  name : r.name = e.scenario.name
  active : r.active = .int (if e.scenario.isActive then 1 else 0)
  blocks : Row.orDefault (some r.blocks) Scenario.noBlocks = e.scenario.blocks
  lastExecuted : (r.lastExecuted = .null ∧ e.scenario.lastExecuted = none) ∨
    ∃ time : Instant, time.micros < Instant.limit ∧ r.lastExecuted = .text (Stamp.text ⟨time, none⟩) ∧
      e.scenario.lastExecuted = some ⟨time, none⟩
  color : some (Row.orDefault r.color Scenario.defaultColor) = e.scenario.color
  context : r.context = e.scenario.lastContext
  created : ∃ now : Instant, now.micros < Instant.limit ∧ now.seconds = e.second ∧
    r.created = .text now.secondText

/-- A store stands for a map. -/
structure Store.Agrees (s : Store) (l : Ledger) : Prop where
  keyed : s.IsKeyed
  rows : ∀ id, Option.Rel Row.Shows (s.row? id) (l.entries id)
  settings : s.settings = l.settings

/-- An empty store stands for an empty map. -/
theorem Store.agrees_empty : Agrees {} {} :=
  ⟨isKeyed_empty, fun _ => .none, rfl⟩

end Deskhand
