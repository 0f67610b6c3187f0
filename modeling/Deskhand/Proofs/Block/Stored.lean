import Deskhand.Block.Chain
import Deskhand.Proofs.Json.Reading
import Deskhand.Proofs.Json.RoundTrip

/-!
# Stored chains

A chain that is stored is read back as it was, block by block, and stored again as the same text. Main statements:

* `Block.IsStorable`: a block has an id and parameters with distinct names;
* `isStorable_of_orDraw`, `isStorable_of_read`: blocks that are made, and blocks that are read, are such;
* `read_write`: storable blocks are read back from what is written of them;
* `stored_chain`: all of this.
-/

namespace Deskhand

/-- Whether a block can be stored: it has an id, and its parameters have distinct names. -/
def Block.IsStorable (b : Block) : Prop :=
  b.id ≠ "" ∧ b.parameters.keys.Nodup

instance (b : Block) : Decidable b.IsStorable :=
  inferInstanceAs (Decidable (b.id ≠ "" ∧ b.parameters.keys.Nodup))

theorem IdSupply.idOf_ne_empty (serial : Nat) : idOf serial ≠ "" := by
  have hstem : "00000000-0000-4000-8000-" ≠ "" := by decide
  exact fun h => hstem (String.append_eq_empty_iff.mp h).1

/-- An id that is given or drawn is not empty. -/
theorem IdSupply.orDraw_ne_empty (given : Option String) (supply : IdSupply) :
    (supply.orDraw given).1 ≠ "" := by
  cases given with
  | none => exact idOf_ne_empty _
  | some id =>
    rw [orDraw]
    split
    · exact idOf_ne_empty _
    · next hid => simpa using hid

theorem IdSupply.orDraw_of_ne_empty {id : String} (h : id ≠ "") (supply : IdSupply) :
    supply.orDraw (some id) = (id, supply) := by
  simp [orDraw, h]

namespace Chain

/-! ## What is written -/

theorem isPlain_record {b : Block} (h : b.IsStorable) : Json.IsPlain (record b) := by
  have hparameters : Json.IsPlain (.record (b.parameters.map fun e => (e.1, .text e.2))) := by
    refine .record (fun f hf => ?_) ?_
    · obtain ⟨e, -, rfl⟩ := List.mem_map.mp hf
      exact .text e.2
    · rw [List.map_map]
      exact h.2
  refine .record ?_ (by simp)
  simp only [List.forall_mem_cons]
  exact ⟨.text _, .text _, hparameters, by simp⟩

theorem parametersOf_record (parameters : Entries String String) :
    parametersOf (.record (parameters.map fun e => (e.1, .text e.2))) = parameters := by
  rw [parametersOf, List.map_map]
  exact List.map_id _

/-- A storable block is read back from its record, without an id of the supply. -/
theorem readElement_record {b : Block} (h : b.IsStorable) (supply : IdSupply) :
    readElement supply (record b) = some (b, supply) := by
  have hid : idOf? (.text b.id) = some b.id := by simp [idOf?, Value.isTruthy, Value.toText, h.1]
  simp [readElement, record, field, Entries.find?, kindOf?, BlockKind.ofTag?_tag, hid,
    IdSupply.orDraw_of_ne_empty h.1, parametersOf_record]

theorem readElements_map_record {blocks : List Block} (h : ∀ b ∈ blocks, b.IsStorable) (supply : IdSupply) :
    readElements supply (blocks.map record) = (blocks, supply) := by
  induction blocks with
  | nil => rfl
  | cons b rest ih =>
    obtain ⟨hb, hrest⟩ := List.forall_mem_cons.mp h
    simp [readElements, readElement_record hb, ih hrest]

/-- Storable blocks are read back from what is written of them. -/
theorem read_write {blocks : List Block} (h : ∀ b ∈ blocks, b.IsStorable) (supply : IdSupply) :
    read supply (write blocks) = .ok (blocks, supply) := by
  have hplain : Json.IsPlain (.list (blocks.map record)) :=
    .list fun v hv => by
      obtain ⟨b, hb, rfl⟩ := List.mem_map.mp hv
      exact isPlain_record (h b hb)
  rw [read, write, Json.read_indented hplain]
  simp [ofValue, readElements_map_record h]

/-! ## What is read -/

/-- A block that is made with an id or without one is storable, if its parameters have distinct names. -/
theorem isStorable_of_orDraw {parameters : Entries String String} (h : parameters.keys.Nodup)
    (kind : BlockKind) (given : Option String) (supply : IdSupply) :
    Block.IsStorable ⟨kind, (supply.orDraw given).1, parameters⟩ :=
  ⟨supply.orDraw_ne_empty given, h⟩

theorem nodup_parametersOf {v : Value} (h : Json.IsKeyed v) : (parametersOf v).keys.Nodup := by
  cases v with
  | record fields =>
    obtain ⟨-, -, hnodup⟩ := h
    rw [parametersOf, Entries.keys, List.map_map]
    exact hnodup
  | _ => exact List.nodup_nil

theorem isKeyed_field {item : Entries String Value} (h : ∀ f ∈ item, Json.IsKeyed f.2) (name lowerName : String) :
    Json.IsKeyed (field name lowerName item) := by
  have hfound : ∀ key v, item.find? key = some v → Json.IsKeyed v := fun key v hv =>
    h _ (Entries.mem_of_find? hv)
  rw [field]
  cases hname : item.find? name with
  | some v => exact hfound name v hname
  | none =>
    cases hlower : item.find? lowerName with
    | some v => simpa using hfound lowerName v hlower
    | none => exact Json.isKeyed_of_isScalar rfl

theorem isStorable_of_readElement {supply supply' : IdSupply} {v : Value} {b : Block} (h : Json.IsKeyed v)
    (hread : readElement supply v = some (b, supply')) : b.IsStorable := by
  cases v with
  | record item =>
    obtain ⟨kind, -, hb⟩ := Option.map_eq_some_iff.mp hread
    obtain ⟨hb, -⟩ := Prod.mk.inj hb
    obtain ⟨-, hfields, -⟩ := h
    rw [← hb]
    exact isStorable_of_orDraw (nodup_parametersOf (isKeyed_field hfields _ _)) _ _ _
  | _ => cases hread

theorem isStorable_of_readElements {supply : IdSupply} {vs : List Value} (h : ∀ v ∈ vs, Json.IsKeyed v) :
    ∀ b ∈ (readElements supply vs).1, b.IsStorable := by
  induction vs generalizing supply with
  | nil => simp [readElements]
  | cons v rest ih =>
    obtain ⟨hv, hrest⟩ := List.forall_mem_cons.mp h
    rw [readElements]
    cases hread : readElement supply v with
    | none => exact ih hrest
    | some found => exact List.forall_mem_cons.mpr ⟨isStorable_of_readElement hv hread, ih hrest⟩

theorem isStorable_of_ofValue (supply : IdSupply) {v : Value} (h : Json.IsKeyed v) :
    ∀ b ∈ (ofValue supply v).1, b.IsStorable := by
  cases v with
  | list vs =>
    obtain ⟨hitems, -, -⟩ := h
    exact isStorable_of_readElements hitems
  | _ => simp [ofValue]

/-- The blocks that are read from a text are storable. -/
theorem isStorable_of_read {supply supply' : IdSupply} {s : String} {blocks : List Block}
    (h : read supply s = .ok (blocks, supply')) : ∀ b ∈ blocks, b.IsStorable := by
  rw [read] at h
  split at h
  · next v hv =>
    have hstorable := isStorable_of_ofValue supply (Json.isKeyed_read hv)
    rwa [Except.ok.inj h] at hstorable
  · obtain ⟨rfl, -⟩ := Prod.mk.inj (Except.ok.inj h)
    simp
  · cases h

/-- The blocks that are read from stored bytes are storable. -/
theorem isStorable_of_readBytes {supply supply' : IdSupply} {bytes : List Nat} {blocks : List Block}
    (h : readBytes supply bytes = .ok (blocks, supply')) : ∀ b ∈ blocks, b.IsStorable := by
  rw [readBytes] at h
  split at h
  · exact isStorable_of_read h
  · obtain ⟨rfl, -⟩ := Prod.mk.inj (Except.ok.inj h)
    simp

/-- Storable blocks are read back as they were, block by block with their kinds, ids and parameters in order, and
what is then written of them is the same text again. Every block that is read, from a text, from bytes or from a
value with distinct names, and every one that is made with distinct names of parameters, is storable. -/
theorem stored_chain (supply : IdSupply) :
    (∀ blocks : List Block, (∀ b ∈ blocks, b.IsStorable) →
      read supply (write blocks) = .ok (blocks, supply) ∧
      ∀ found supply', read supply (write blocks) = .ok (found, supply') → write found = write blocks) ∧
    (∀ s found supply', read supply s = .ok (found, supply') → ∀ b ∈ found, b.IsStorable) ∧
    (∀ bytes found supply', readBytes supply bytes = .ok (found, supply') → ∀ b ∈ found, b.IsStorable) ∧
    (∀ v, Json.IsKeyed v → ∀ b ∈ (ofValue supply v).1, b.IsStorable) ∧
    (∀ kind given (parameters : Entries String String), parameters.keys.Nodup →
      Block.IsStorable ⟨kind, (supply.orDraw given).1, parameters⟩) := by
  refine ⟨fun blocks h => ⟨read_write h supply, fun found supply' hread => ?_⟩,
    fun _ _ _ => isStorable_of_read, fun _ _ _ => isStorable_of_readBytes, fun _ => isStorable_of_ofValue supply,
    fun kind given _ h => isStorable_of_orDraw h kind given supply⟩
  rw [read_write h supply] at hread
  rw [(Prod.mk.inj (Except.ok.inj hread)).1]

/-- A block with marks, controls and braces wherever a text stands. -/
def marked : Block :=
  { kind := .keyboardInput, id := "\x22\\n\x7b\x01"
    parameters := [("T\x22ext", "\\ \n \x1f \x7f \x7d"), ("", "\x7b\x22Type\x22: []\x7d"), ("λ", "")] }

theorem stored_chain_marked :
    (∀ b ∈ [marked, marked], b.IsStorable) ∧ read ⟨7⟩ (write [marked, marked]) = .ok ([marked, marked], ⟨7⟩) ∧
      ∀ b ∈ [marked, marked], b.IsStorable := by
  have hstorable : ∀ b ∈ [marked, marked], b.IsStorable := by decide
  have hread := ((stored_chain ⟨7⟩).1 [marked, marked] hstorable).1
  exact ⟨hstorable, hread, (stored_chain ⟨7⟩).2.1 _ _ _ hread⟩

end Chain

end Deskhand
