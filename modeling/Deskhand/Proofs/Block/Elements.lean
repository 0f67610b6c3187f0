import Deskhand.Proofs.Block.Stored

/-!
# The elements of a chain

The elements of a stored chain are read one by one. An element makes one block if it is a record with a known type, and
none otherwise, and all that it leaves to the elements behind it is the supply of ids. Main statements:

* `readElements_append`: the elements of two lists, read in one go or one list after the other;
* `Value.toText_ne_empty`: a value that counts as something has a text, so that it can be an id;
* `HasType`, `Makes`: which elements make a block, and which block that is;
* `ofValue_singleton_cases`: an element alone makes its block, or nothing;
* `ofValue_elementwise`: all of this, and that it covers whatever list is read from a text.
-/

namespace Deskhand

/-! ## Values with a text -/

theorem Integer.text_ne_empty (n : Int) : text n ≠ "" := by
  cases n with
  | ofNat m => exact Nat.repr_ne_empty
  | negSucc m => exact fun h => absurd (String.append_eq_empty_iff.mp h).1 (by decide)

namespace Decimal

theorem ofDigits_ne_empty (n : Nat) (k : Int) : ofDigits n k ≠ "" := by
  simp only [ofDigits]
  split_ifs <;> simp [← String.toList_inj]

theorem text_ne_empty (x : Float) : text x ≠ "" := by
  simp only [text, ne_eq]
  split_ifs <;> simp [String.append_eq_empty_iff, ofDigits_ne_empty]

end Decimal

/-- A value that counts as something has a text, unless it is a date. -/
theorem Value.toText_ne_empty {v : Value} (htruthy : v.isTruthy = true) (hdate : ∀ iso, v ≠ .date iso) :
    v.toText ≠ "" := by
  cases v with
  | null => cases htruthy
  | bool b =>
    obtain rfl : b = true := htruthy
    decide
  | int n => exact Integer.text_ne_empty n
  | float x => exact Decimal.text_ne_empty x
  | text s => simpa [isTruthy, toText] using htruthy
  | date iso => exact absurd rfl (hdate iso)
  | list items => simp [toText, nested, String.append_eq_empty_iff]
  | record fields => simp [toText, nested, String.append_eq_empty_iff]

namespace BlockKind

/-- A kind is found under its own name only. -/
theorem ofTag?_eq_some_iff {name : String} {kind : BlockKind} : ofTag? name = some kind ↔ kind.tag = name := by
  refine ⟨fun h => ?_, fun h => h ▸ ofTag?_tag kind⟩
  simpa using List.find?_some h

end BlockKind

namespace Chain

variable {supply supply' : IdSupply} {item : Entries String Value} {v : Value}

/-! ## What an element holds -/

/-- The value under a name of an element, or else the one under the name in lower case; nothing if neither is there. -/
inductive Under (item : Entries String Value) (name lowerName : String) : Value → Prop
  | name {v : Value} : item.find? name = some v → Under item name lowerName v
  | lowerName {v : Value} : item.find? name = none → item.find? lowerName = some v → Under item name lowerName v
  | neither : item.find? name = none → item.find? lowerName = none → Under item name lowerName .null

theorem under_iff {name lowerName : String} : Under item name lowerName v ↔ field name lowerName item = v := by
  constructor
  · rintro (h | ⟨h, h'⟩ | ⟨h, h'⟩)
    · simp [field, h]
    · simp [field, h, h']
    · simp [field, h, h']
  · rintro rfl
    cases h : item.find? name with
    | some w => simpa [field, h] using Under.name h
    | none =>
      cases h' : item.find? lowerName with
      | some w => simpa [field, h, h'] using Under.lowerName h h'
      | none => simpa [field, h, h'] using Under.neither h h'

/-- Whether an element has a known type: it is a record with the name of a kind for its type. -/
def HasType (v : Value) : Prop :=
  ∃ item kind, v = .record item ∧ Under item "Type" "type" (.text (BlockKind.tag kind))

/-- How a value stands in the parameters of a block: nothing as the empty text, all else as its text. -/
inductive IsParameter : Value → String → Prop
  | null : IsParameter .null ""
  | text {v : Value} : v ≠ .null → IsParameter v v.toText

/-- The parameters that a value gives: those of a record, in order, each under its name. -/
inductive Gives : Value → Entries String String → Prop
  | record {fields : List (String × Value)} {parameters : Entries String String} :
      List.Forall₂ (fun f p => p.1 = f.1 ∧ IsParameter f.2 p.2) fields parameters → Gives (.record fields) parameters
  | none {v : Value} : (∀ fields, v ≠ .record fields) → Gives v []

/-- The id for a value, and the supply behind it: the text of the value if it counts as something, or the next id. -/
inductive Identifies (supply : IdSupply) : Value → String → IdSupply → Prop
  | kept {v : Value} : v.isTruthy = true → Identifies supply v v.toText supply
  | fresh {v : Value} :
      v.isTruthy = false → Identifies supply v (IdSupply.idOf (supply.drawn + 1)) ⟨supply.drawn + 1⟩

/-- The block that an element makes, and the supply that it leaves. -/
structure Makes (supply : IdSupply) (item : Entries String Value) (b : Block) (supply' : IdSupply) : Prop where
  type : Under item "Type" "type" (.text b.kind.tag)
  id : ∃ v, Under item "Id" "id" v ∧ Identifies supply v b.id supply'
  parameters : ∃ v, Under item "Parameters" "parameters" v ∧ Gives v b.parameters

/-! ## What is read of it -/

theorem kindOf?_eq_some_iff {kind : BlockKind} : kindOf? v = some kind ↔ v = .text kind.tag := by
  cases v with
  | text tag => rw [kindOf?, BlockKind.ofTag?_eq_some_iff, Value.text.injEq, eq_comm]
  | _ => simp [kindOf?]

theorem isParameter_parameterText (v : Value) : IsParameter v (parameterText v) := by
  cases v with
  | null => exact .null
  | _ => exact .text (by simp)

theorem gives_parametersOf (v : Value) : Gives v (parametersOf v) := by
  cases v with
  | record fields =>
    refine .record ?_
    rw [parametersOf, List.forall₂_map_right_iff, List.forall₂_same]
    exact fun f _ => ⟨rfl, isParameter_parameterText f.2⟩
  | _ => exact .none (by simp)

theorem identifies_orDraw (hdate : ∀ iso, v ≠ .date iso) (supply : IdSupply) :
    Identifies supply v (supply.orDraw (idOf? v)).1 (supply.orDraw (idOf? v)).2 := by
  cases htruthy : v.isTruthy with
  | true =>
    rw [idOf?, if_pos htruthy, IdSupply.orDraw_of_ne_empty (Value.toText_ne_empty htruthy hdate)]
    exact .kept htruthy
  | false =>
    rw [idOf?, if_neg (by simp [htruthy])]
    exact .fresh htruthy

/-- No value under a name of an element is a date, if none in the element is. -/
theorem ne_date_of_under {name lowerName : String} {w : Value} (hitem : Json.IsJson (.record item))
    (h : Under item name lowerName w) (iso : String) : w ≠ .date iso := by
  have hfound : ∀ key, item.find? key = some w → w ≠ .date iso := fun key hkey => by
    obtain ⟨-, -, hfields⟩ := hitem
    obtain ⟨hdate, -, -⟩ := hfields _ (Entries.mem_of_find? hkey)
    exact hdate iso
  obtain h | ⟨-, h⟩ | ⟨-, -⟩ := h
  · exact hfound _ h
  · exact hfound _ h
  · simp

/-- An element makes its block, or nothing if it has no known type. -/
theorem readElement_spec (hv : Json.IsJson v) (supply : IdSupply) :
    (¬HasType v ∧ readElement supply v = none) ∨
      ∃ item b supply', v = .record item ∧ readElement supply v = some (b, supply') ∧ Makes supply item b supply' := by
  cases v with
  | record item =>
    cases hkind : kindOf? (field "Type" "type" item) with
    | none =>
      refine .inl ⟨?_, by rw [readElement, hkind, Option.map_none]⟩
      rintro ⟨_, kind, ⟨⟩, htype⟩
      rw [kindOf?_eq_some_iff.mpr (under_iff.mp htype)] at hkind
      cases hkind
    | some kind =>
      have hid := under_iff.mpr (rfl : field "Id" "id" item = _)
      exact .inr ⟨item, _, _, rfl, by rw [readElement, hkind, Option.map_some],
        under_iff.mpr (kindOf?_eq_some_iff.mp hkind),
        ⟨_, hid, identifies_orDraw (ne_date_of_under hv hid) supply⟩,
        ⟨_, under_iff.mpr rfl, gives_parametersOf _⟩⟩
  | _ => exact .inl ⟨by simp [HasType], rfl⟩

/-! ## Lists of elements -/

/-- The elements of two lists make the blocks of the one and then those of the other, which draws from what the first
one leaves. -/
theorem readElements_append (supply : IdSupply) (xs ys : List Value) :
    readElements supply (xs ++ ys) =
      ((readElements supply xs).1 ++ (readElements (readElements supply xs).2 ys).1,
        (readElements (readElements supply xs).2 ys).2) := by
  induction xs generalizing supply with
  | nil => rfl
  | cons v rest ih =>
    rw [List.cons_append, readElements, readElements]
    cases readElement supply v with
    | none => exact ih supply
    | some made => simp only [ih made.2, List.cons_append]

/-- An element alone makes its block, or nothing if it has no known type. -/
theorem ofValue_singleton_cases (hv : Json.IsJson v) (supply : IdSupply) :
    (¬HasType v ∧ ofValue supply (.list [v]) = ([], supply)) ∨
      ∃ item b supply', v = .record item ∧ ofValue supply (.list [v]) = ([b], supply') ∧
        Makes supply item b supply' := by
  obtain ⟨htype, hread⟩ | ⟨item, b, supply', rfl, hread, hmakes⟩ := readElement_spec hv supply
  · exact .inl ⟨htype, by rw [ofValue, readElements, hread, readElements]⟩
  · exact .inr ⟨item, b, supply', rfl, by rw [ofValue, readElements, hread]; rfl, hmakes⟩

/-- An element without a known type might as well not be there. -/
theorem ofValue_without (hv : Json.IsJson v) (htype : ¬HasType v) (supply : IdSupply) (xs ys : List Value) :
    ofValue supply (.list (xs ++ v :: ys)) = ofValue supply (.list (xs ++ ys)) := by
  have hrest (supply : IdSupply) : readElements supply (v :: ys) = readElements supply ys := by
    obtain ⟨-, hread⟩ | ⟨item, b, _, rfl, -, hmakes⟩ := readElement_spec hv supply
    · rw [readElements, hread]
    · exact absurd ⟨item, b.kind, rfl, hmakes.type⟩ htype
  simp only [ofValue, readElements_append, hrest]

/-- Two lists make the blocks of the one and then those of the other, with ids drawn on. An element makes one block iff
it has a known type, and the block has the type, the id and the parameters that the element gives. One without a known
type makes none, draws no id and leaves all others as they are. This covers the blocks of whatever list is read from a
text. -/
theorem ofValue_elementwise :
    (∀ supply xs ys front back supply' supply'', ofValue supply (.list xs) = (front, supply') →
      ofValue supply' (.list ys) = (back, supply'') →
        ofValue supply (.list (xs ++ ys)) = (front ++ back, supply'')) ∧
    (∀ supply v, Json.IsJson v →
      ((ofValue supply (.list [v])).1.length = 1 ↔ HasType v) ∧
      (¬HasType v → ofValue supply (.list [v]) = ([], supply) ∧
        ∀ xs ys, ofValue supply (.list (xs ++ v :: ys)) = ofValue supply (.list (xs ++ ys))) ∧
      ∀ b supply', ofValue supply (.list [v]) = ([b], supply') →
        ∃ item, v = .record item ∧ Makes supply item b supply') ∧
    (∀ supply text vs, Json.read text = .ok (.list vs) →
      read supply text = .ok (ofValue supply (.list vs)) ∧ ∀ v ∈ vs, Json.IsJson v) := by
  refine ⟨fun supply xs ys front back supply' supply'' hfront hback => ?_, fun supply v hv => ?_,
    fun supply text vs htext => ?_⟩
  · rw [ofValue] at hfront hback ⊢
    rw [readElements_append, hfront, hback]
  · obtain ⟨htype, hread⟩ | ⟨item, b, supply', rfl, hread, hmakes⟩ := ofValue_singleton_cases hv supply
    · simp [htype, hread, ofValue_without hv htype]
    · have htype : HasType (.record item) := ⟨item, b.kind, rfl, hmakes.type⟩
      refine ⟨by simp [htype, hread], fun h => absurd htype h, fun b' supply'' hread' => ?_⟩
      obtain ⟨⟨⟩, ⟨⟩⟩ := Prod.mk.inj (hread.symm.trans hread')
      exact ⟨item, rfl, hmakes⟩
  · obtain ⟨-, hitems, -⟩ := Json.isJson_read htext
    exact ⟨by rw [read, htext], hitems⟩

theorem ofValue_elementwise_delay :
    HasType (record ⟨.delay, "a", []⟩) ∧ ¬HasType .null ∧
      read {} (write [⟨.delay, "a", []⟩]) = .ok ([⟨.delay, "a", []⟩], {}) ∧
      ofValue {} (.list ([.null] ++ [record ⟨.delay, "a", []⟩])) = ([⟨.delay, "a", []⟩], {}) := by
  have hstorable : Block.IsStorable ⟨.delay, "a", []⟩ := by decide
  have hwritten : Json.read (write [⟨.delay, "a", []⟩]) = .ok (.list [record ⟨.delay, "a", []⟩]) :=
    Json.read_indented (.list (List.forall_mem_singleton.mpr (isPlain_record hstorable)))
  have hdelay : ofValue {} (.list [record ⟨.delay, "a", []⟩]) = ([⟨.delay, "a", []⟩], {}) := rfl
  have hnull : ofValue {} (.list [.null]) = ([], {}) := rfl
  obtain ⟨happend, hsingle, htext⟩ := ofValue_elementwise
  obtain ⟨hread, hrecord⟩ := htext {} _ _ hwritten
  obtain ⟨-, hnone⟩ := htext {} "[null]" [.null] rfl
  rw [List.forall_mem_singleton] at hrecord hnone
  refine ⟨(hsingle {} _ hrecord).1.mp (by rw [hdelay]; rfl), fun htype => ?_, by rw [hread, hdelay],
    happend _ _ _ _ _ _ _ hnull hdelay⟩
  have hone := (hsingle {} _ hnone).1.mpr htype
  rw [hnull] at hone
  cases hone

end Chain

end Deskhand
