import Deskhand.Fields
import Deskhand.Json.Reader
import Deskhand.Proofs.Entries

/-!
# What is read from JSON

`Reads` says without fuel what a text is read as, rule by rule: a value, the items of a list, or the fields of a
record, and what stands behind it. Whatever the reader takes is read so (`reads_of_readValue`), and facts about values
that are read follow by induction over the rules. Main statements:

* `Reads.all`: what holds of scalars and passes on to lists and records holds of all that is read;
* `isKeyed_read`: all records in a value that is read have distinct names, since of two fields with one name only one
  stays;
* `isJson_read`: no value that is read holds a date.
-/

namespace Deskhand.Json

/-- Values in which all records have distinct names. -/
inductive IsKeyed : Value → Prop
  | mk {v : Value} : (∀ w ∈ v.items, IsKeyed w) → (∀ f ∈ v.fields, IsKeyed f.2) →
      (v.fields.map Prod.fst).Nodup → IsKeyed v

theorem isKeyed_list {vs : List Value} (h : ∀ v ∈ vs, IsKeyed v) : IsKeyed (.list vs) :=
  .mk h (by simp [Value.fields]) List.nodup_nil

theorem isKeyed_ofPairs {pairs : List (String × Value)} (h : ∀ p ∈ pairs, IsKeyed p.2) :
    IsKeyed (.record (Entries.ofPairs pairs)) := by
  obtain ⟨hnodup, hvalue⟩ := Entries.ofPairs_spec pairs
  refine .mk (by simp [Value.items]) (fun f hf => ?_) hnodup
  obtain ⟨p, hp, heq⟩ := hvalue f hf
  exact heq ▸ h p hp

/-- Values of which none is a date, as there is none in JSON. -/
inductive IsJson : Value → Prop
  | mk {v : Value} : (∀ iso, v ≠ .date iso) → (∀ w ∈ v.items, IsJson w) → (∀ f ∈ v.fields, IsJson f.2) → IsJson v

/-! ## Scalars -/

theorem bind_eq_ok_iff {ε α β : Type} {x : Except ε α} {f : α → Except ε β} {b : β} :
    (x >>= f) = .ok b ↔ ∃ a, x = .ok a ∧ f a = .ok b := by
  cases x <;> simp [bind, Except.bind]

/-- Whether a value is neither a list nor a record with something in it. -/
def isScalar (v : Value) : Bool :=
  v.items.isEmpty && v.fields.isEmpty

theorem isKeyed_of_isScalar {v : Value} (h : isScalar v = true) : IsKeyed v := by
  obtain ⟨hitems, hfields⟩ : v.items = [] ∧ v.fields = [] := by simpa [isScalar] using h
  exact .mk (by simp [hitems]) (by simp [hfields]) (by simp [hfields])

theorem isJson_of_isScalar {v : Value} (h : isScalar v = true) (hdate : ∀ iso, v ≠ .date iso) : IsJson v := by
  obtain ⟨hitems, hfields⟩ : v.items = [] ∧ v.fields = [] := by simpa [isScalar] using h
  exact .mk hdate (by simp [hitems]) (by simp [hfields])

/-- A number is read as an integer or as a double. -/
theorem readNumber_cases {negative : Bool} {cs rest : List Char} {v : Value}
    (h : readNumber negative cs = .ok (v, rest)) : (∃ n, v = .int n) ∨ ∃ x, v = .float x := by
  simp only [readNumber] at h
  repeat' split at h
  all_goals cases h
  · exact .inl ⟨_, rfl⟩
  · exact .inr ⟨_, rfl⟩

/-- A scalar is one of the words, a text or a number. -/
theorem readScalar_cases {cs rest : List Char} {v : Value} (h : readScalar cs = .ok (v, rest)) :
    (∃ w ∈ words, v = w.2) ∨ (∃ s, v = .text s) ∨ (∃ n, v = .int n) ∨ ∃ x, v = .float x := by
  unfold readScalar at h
  split at h
  · next found hword =>
    obtain rfl : found = (v, rest) := by simpa using h
    obtain ⟨w, hw, hfound⟩ := List.exists_of_findSome?_eq_some hword
    obtain ⟨r, -, heq⟩ := Option.map_eq_some_iff.mp hfound
    exact .inl ⟨w, hw, (Prod.mk.inj heq).1.symm⟩
  · split at h
    · obtain ⟨read, -, hread⟩ := bind_eq_ok_iff.mp h
      exact .inr (.inl ⟨read.1, (Prod.mk.inj (Except.ok.inj hread)).1.symm⟩)
    · exact .inr (.inr (readNumber_cases h))
    · exact .inr (.inr (readNumber_cases h))

theorem isScalar_readScalar {cs rest : List Char} {v : Value} (h : readScalar cs = .ok (v, rest)) :
    isScalar v = true ∧ ∀ iso, v ≠ .date iso := by
  obtain ⟨w, hw, rfl⟩ | ⟨s, rfl⟩ | ⟨n, rfl⟩ | ⟨x, rfl⟩ := readScalar_cases h
  · have hall : ∀ w ∈ words, isScalar w.2 = true ∧ ∀ iso, w.2 ≠ .date iso := by
      simp [words, isScalar, Value.items, Value.fields]
    exact hall w hw
  all_goals exact ⟨rfl, nofun⟩

/-! ## One step of the reader -/

theorem skip_cons {c : Char} (h : isSpace c = false) (cs : List Char) : skip (c :: cs) = c :: cs := by
  simp [skip, h]

theorem readItems_last {fuel : Nat} {cs rest after : List Char} {v : Value}
    (hv : readValue fuel cs = .ok (v, rest)) (hend : skip rest = ']' :: after) :
    readItems (fuel + 1) cs = .ok ([v], after) := by
  rw [readItems]
  simp [hv, hend, bind, Except.bind]

theorem readItems_cons {fuel : Nat} {cs rest more after : List Char} {v : Value} {vs : List Value}
    (hv : readValue fuel cs = .ok (v, rest)) (hmore : skip rest = ',' :: more)
    (hvs : readItems fuel (skip more) = .ok (vs, after)) : readItems (fuel + 1) cs = .ok (v :: vs, after) := by
  rw [readItems]
  simp [hv, hmore, hvs, bind, Except.bind]

theorem readPairs_last {fuel : Nat} {cs colon start rest after : List Char} {k : String} {v : Value}
    (hk : readText cs = .ok (k, colon)) (hcolon : skip colon = ':' :: start)
    (hv : readValue fuel (skip start) = .ok (v, rest)) (hend : skip rest = '\x7d' :: after) :
    readPairs (fuel + 1) ('"' :: cs) = .ok ([(k, v)], after) := by
  rw [readPairs]
  simp [hk, hcolon, hv, hend, bind, Except.bind]

theorem readPairs_cons {fuel : Nat} {cs colon start rest more after : List Char} {k : String} {v : Value}
    {fs : List (String × Value)} (hk : readText cs = .ok (k, colon)) (hcolon : skip colon = ':' :: start)
    (hv : readValue fuel (skip start) = .ok (v, rest)) (hmore : skip rest = ',' :: more)
    (hfs : readPairs fuel (skip more) = .ok (fs, after)) :
    readPairs (fuel + 1) ('"' :: cs) = .ok ((k, v) :: fs, after) := by
  rw [readPairs]
  simp [hk, hcolon, hv, hmore, hfs, bind, Except.bind]

theorem readValue_list {fuel : Nat} {cs items after : List Char} {vs : List Value}
    (hskip : skip cs = items) (hend : items.head? ≠ some ']') (hitems : readItems fuel items = .ok (vs, after)) :
    readValue (fuel + 1) ('[' :: cs) = .ok (.list vs, after) := by
  rw [readValue]
  simp only [hskip]
  split
  · simp at hend
  · simp [hitems, bind, Except.bind]

theorem readValue_record {fuel : Nat} {cs fields after : List Char} {fs : List (String × Value)}
    (hskip : skip cs = '"' :: fields) (hfields : readPairs fuel ('"' :: fields) = .ok (fs, after)) :
    readValue (fuel + 1) ('\x7b' :: cs) = .ok (.record (Entries.ofPairs fs), after) := by
  rw [readValue]
  simp [hskip, hfields, bind, Except.bind]

/-! ## What was read -/

/-- What a stretch of a text is read as: a value, or the items of a list or the fields of a record up to its end. -/
inductive Part where
  | value (v : Value)
  | items (vs : List Value)
  | fields (fs : List (String × Value))

/-- Whether all values of a part have a property. -/
def Part.All (P : Value → Prop) : Part → Prop
  | value v => P v
  | items vs => ∀ v ∈ vs, P v
  | fields fs => ∀ f ∈ fs, P f.2

/-- A part with which a text starts, and what stands behind it. -/
inductive Reads : List Char → Part → List Char → Prop
  | scalar {cs rest : List Char} {v : Value} : readScalar cs = .ok (v, rest) → Reads cs (.value v) rest
  | noItems {cs rest : List Char} : skip cs = ']' :: rest → Reads ('[' :: cs) (.value (.list [])) rest
  | list {cs rest : List Char} {vs : List Value} :
      Reads (skip cs) (.items vs) rest → Reads ('[' :: cs) (.value (.list vs)) rest
  | noFields {cs rest : List Char} : skip cs = '\x7d' :: rest → Reads ('\x7b' :: cs) (.value (.record [])) rest
  | record {cs rest : List Char} {fs : List (String × Value)} :
      Reads (skip cs) (.fields fs) rest → Reads ('\x7b' :: cs) (.value (.record (Entries.ofPairs fs))) rest
  | lastItem {cs behind rest : List Char} {v : Value} :
      Reads cs (.value v) behind → skip behind = ']' :: rest → Reads cs (.items [v]) rest
  | item {cs behind next rest : List Char} {v : Value} {vs : List Value} :
      Reads cs (.value v) behind → skip behind = ',' :: next → Reads (skip next) (.items vs) rest →
        Reads cs (.items (v :: vs)) rest
  | lastField {cs colon start behind rest : List Char} {k : String} {v : Value} :
      readText cs = .ok (k, colon) → skip colon = ':' :: start → Reads (skip start) (.value v) behind →
        skip behind = '\x7d' :: rest → Reads ('"' :: cs) (.fields [(k, v)]) rest
  | field {cs colon start behind next rest : List Char} {k : String} {v : Value} {fs : List (String × Value)} :
      readText cs = .ok (k, colon) → skip colon = ':' :: start → Reads (skip start) (.value v) behind →
        skip behind = ',' :: next → Reads (skip next) (.fields fs) rest →
          Reads ('"' :: cs) (.fields ((k, v) :: fs)) rest

section Sound

variable {fuel : Nat} {cs rest : List Char}

theorem reads_of_readItems_succ {vs : List Value}
    (hvalue : ∀ cs v rest, readValue fuel cs = .ok (v, rest) → Reads cs (.value v) rest)
    (hitems : ∀ cs vs rest, readItems fuel cs = .ok (vs, rest) → Reads cs (.items vs) rest)
    (h : readItems (fuel + 1) cs = .ok (vs, rest)) : Reads cs (.items vs) rest := by
  rw [readItems] at h
  obtain ⟨⟨v, behind⟩, hv, h⟩ := bind_eq_ok_iff.mp h
  dsimp only at h
  split at h
  · next hend =>
    cases h
    exact .lastItem (hvalue _ _ _ hv) hend
  · next hmore =>
    obtain ⟨⟨more, after⟩, hvs, h⟩ := bind_eq_ok_iff.mp h
    cases h
    exact .item (hvalue _ _ _ hv) hmore (hitems _ _ _ hvs)
  · cases h

theorem reads_of_readPairs_succ {fs : List (String × Value)}
    (hvalue : ∀ cs v rest, readValue fuel cs = .ok (v, rest) → Reads cs (.value v) rest)
    (hfields : ∀ cs fs rest, readPairs fuel cs = .ok (fs, rest) → Reads cs (.fields fs) rest)
    (h : readPairs (fuel + 1) cs = .ok (fs, rest)) : Reads cs (.fields fs) rest := by
  unfold readPairs at h
  split at h
  · obtain ⟨⟨k, colon⟩, hk, h⟩ := bind_eq_ok_iff.mp h
    dsimp only at h
    split at h
    · next hcolon =>
      obtain ⟨⟨v, behind⟩, hv, h⟩ := bind_eq_ok_iff.mp h
      dsimp only at h
      split at h
      · next hend =>
        cases h
        exact .lastField hk hcolon (hvalue _ _ _ hv) hend
      · next hmore =>
        obtain ⟨⟨more, after⟩, hfs, h⟩ := bind_eq_ok_iff.mp h
        cases h
        exact .field hk hcolon (hvalue _ _ _ hv) hmore (hfields _ _ _ hfs)
      · cases h
    · cases h
  · cases h

theorem reads_of_readValue_succ {v : Value}
    (hitems : ∀ cs vs rest, readItems fuel cs = .ok (vs, rest) → Reads cs (.items vs) rest)
    (hfields : ∀ cs fs rest, readPairs fuel cs = .ok (fs, rest) → Reads cs (.fields fs) rest)
    (h : readValue (fuel + 1) cs = .ok (v, rest)) : Reads cs (.value v) rest := by
  unfold readValue at h
  split at h
  · split at h
    · next hend =>
      cases h
      exact .noItems hend
    · obtain ⟨⟨vs, after⟩, hvs, h⟩ := bind_eq_ok_iff.mp h
      cases h
      exact .list (hitems _ _ _ hvs)
  · split at h
    · next hend =>
      cases h
      exact .noFields hend
    · obtain ⟨⟨fs, after⟩, hfs, h⟩ := bind_eq_ok_iff.mp h
      cases h
      exact .record (hfields _ _ _ hfs)
  · exact .scalar h

/-- Whatever the reader takes is read by the rules. -/
theorem reads_of_readValue (fuel : Nat) :
    (∀ cs v rest, readValue fuel cs = .ok (v, rest) → Reads cs (.value v) rest) ∧
    (∀ cs vs rest, readItems fuel cs = .ok (vs, rest) → Reads cs (.items vs) rest) ∧
    (∀ cs fs rest, readPairs fuel cs = .ok (fs, rest) → Reads cs (.fields fs) rest) := by
  induction fuel with
  | zero => simp [readValue, readItems, readPairs]
  | succ fuel ih =>
    obtain ⟨hvalue, hitems, hfields⟩ := ih
    exact ⟨fun _ _ _ => reads_of_readValue_succ hitems hfields, fun _ _ _ => reads_of_readItems_succ hvalue hitems,
      fun _ _ _ => reads_of_readPairs_succ hvalue hfields⟩

end Sound

/-- What holds of all scalars, and of a list or a record if it holds of all values in it, holds of what is read. -/
theorem Reads.all {P : Value → Prop} (hscalar : ∀ v, isScalar v = true → (∀ iso, v ≠ .date iso) → P v)
    (hlist : ∀ vs, (∀ v ∈ vs, P v) → P (.list vs))
    (hrecord : ∀ fs : List (String × Value), (∀ f ∈ fs, P f.2) → P (.record (Entries.ofPairs fs)))
    {cs rest : List Char} {part : Part} (h : Reads cs part rest) : part.All P := by
  induction h with
  | scalar hv => exact hscalar _ (isScalar_readScalar hv).1 (isScalar_readScalar hv).2
  | noItems _ => exact hscalar _ rfl nofun
  | list _ ih => exact hlist _ ih
  | noFields _ => exact hscalar _ rfl nofun
  | record _ ih => exact hrecord _ ih
  | lastItem _ _ ih => exact List.forall_mem_singleton.mpr ih
  | item _ _ _ ih ihs => exact List.forall_mem_cons.mpr ⟨ih, ihs⟩
  | lastField _ _ _ _ ih => exact List.forall_mem_singleton.mpr ih
  | field _ _ _ _ _ ih ihs => exact List.forall_mem_cons.mpr ⟨ih, ihs⟩

/-- A value that is read starts behind the blanks in front, and only blanks stand behind it. -/
theorem reads_of_read {s : String} {v : Value} (h : read s = .ok v) :
    ∃ rest, Reads (skip s.toList) (.value v) rest ∧ skip rest = [] := by
  rw [read] at h
  obtain ⟨⟨w, rest⟩, hw, h⟩ := bind_eq_ok_iff.mp h
  dsimp only at h
  split at h
  · next hend =>
    cases h
    exact ⟨rest, (reads_of_readValue _).1 _ _ _ hw, List.isEmpty_iff.mp hend⟩
  · cases h

/-- In a value that is read all records have distinct names. -/
theorem isKeyed_read {s : String} {v : Value} (h : read s = .ok v) : IsKeyed v := by
  obtain ⟨_, hv, -⟩ := reads_of_read h
  exact hv.all (fun _ hscalar _ => isKeyed_of_isScalar hscalar) (fun _ => isKeyed_list) fun _ => isKeyed_ofPairs

/-- No value that is read holds a date. -/
theorem isJson_read {s : String} {v : Value} (h : read s = .ok v) : IsJson v := by
  obtain ⟨_, hv, -⟩ := reads_of_read h
  refine hv.all (fun _ => isJson_of_isScalar) (fun vs hvs => .mk nofun hvs (by simp [Value.fields])) fun fs hfs => ?_
  refine .mk nofun (by simp [Value.items]) fun f hf => ?_
  obtain ⟨g, hg, heq⟩ := (Entries.ofPairs_spec fs).2 f hf
  exact heq ▸ hfs g hg

end Deskhand.Json
