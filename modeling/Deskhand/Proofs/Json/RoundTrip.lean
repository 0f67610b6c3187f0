import Deskhand.Json.Writer
import Deskhand.Proofs.Json.Reading

/-!
# Writing JSON and reading it back

A value made of nothing, truth values and texts, in lists and in records with distinct names (`IsPlain`), is
read back from what is written of it over several lines (`read_indented`), whatever characters its texts hold.

Each character of a string is read back from its escape (`readString_stringChar`), hence each string
(`readText_string`). A value is read back at any level and before any text (`ReadsBack`), by induction over the
value; the items of a list and the fields of a record follow by induction over what is behind the first one
(`readItems_indented`, `readPairs_indented`). The reader never runs out of fuel, since a value takes no more of it
than it has characters.
-/

namespace Deskhand.Json

/-! ## Strings -/

theorem hexDigit?_hexDigit : ∀ d < 16, Text.hexDigit? (Text.hexDigit d) = some d := by
  decide

theorem unit?_hexPadded {n : Nat} (h : n < 0x10000) (rest : List Char) :
    unit? ((Text.hexPadded 4 n).toList ++ rest) = some (n, rest) := by
  have hdigit : ∀ m, Text.hexDigit? (Text.hexDigit (m % 16)) = some (m % 16) := fun m =>
    hexDigit?_hexDigit _ (Nat.mod_lt _ (by decide))
  have hvalue : ((n / 4096 % 16 * 16 + n / 256 % 16) * 16 + n / 16 % 16) * 16 + n % 16 = n := by omega
  simp [Text.hexPadded, List.range_succ, unit?, hdigit, hvalue]

theorem readUnits_control {c : Char} (h : c.toNat < 0x20) (rest : List Char) :
    readUnits ((Text.hexPadded 4 c.toNat).toList ++ rest) = some (c, rest) := by
  have hlow : ¬ 0xD800 ≤ c.toNat := by omega
  simp [readUnits, unit?_hexPadded (n := c.toNat) (by omega) rest, ofUnit, hlow]

/-- A character of a string is read back, whatever its escape. -/
theorem readString_stringChar {c : Char} {fuel : Nat} {rest more after : List Char}
    (h : readString fuel rest = .ok (more, after)) :
    readString (fuel + 1) (stringChar false c ++ rest) = .ok (c :: more, after) := by
  rw [stringChar]
  -- the marks and the controls that have an escape of one letter
  iterate 7
    split
    · simp_all [readString, escaped?, bind, Except.bind]
  split
  · next hcontrol =>
    simp [unitEscape, readString, readUnits_control hcontrol, h, bind, Except.bind]
  · rw [readString.eq_def]
    simp_all [bind, Except.bind]

theorem stringChar_ne_nil (c : Char) : stringChar false c ≠ [] := by
  rw [stringChar]
  repeat' split
  all_goals simp_all [unitEscape]

theorem readString_string {cs : List Char} {fuel : Nat} (h : cs.length < fuel) (rest : List Char) :
    readString fuel (cs.flatMap (stringChar false) ++ '"' :: rest) = .ok (cs, rest) := by
  induction cs generalizing fuel with
  | nil =>
    obtain ⟨fuel, rfl⟩ : ∃ n, fuel = n + 1 := Nat.exists_eq_add_one.mpr h
    simp [readString]
  | cons c cs ih =>
    obtain ⟨fuel, rfl⟩ : ∃ n, fuel = n + 1 := ⟨fuel - 1, by omega⟩
    rw [List.flatMap_cons, List.append_assoc]
    exact readString_stringChar (ih (by simpa using h))

theorem length_le_flatMap (cs : List Char) : cs.length ≤ (cs.flatMap (stringChar false)).length := by
  induction cs with
  | nil => exact Nat.le_refl 0
  | cons c cs ih =>
    have hpos := List.length_pos_of_ne_nil (stringChar_ne_nil c)
    simp only [List.flatMap_cons, List.length_append, List.length_cons]
    omega

theorem toList_string (s : String) :
    (string false s).toList = '"' :: (s.toList.flatMap (stringChar false) ++ ['"']) := by
  simp [string]

/-- A string is read back behind its opening mark. -/
theorem readText_string (s : String) (rest : List Char) :
    readText (s.toList.flatMap (stringChar false) ++ '"' :: rest) = .ok (s, rest) := by
  have hfuel : s.toList.length < (s.toList.flatMap (stringChar false) ++ '"' :: rest).length + 1 := by
    have hlength := length_le_flatMap s.toList
    simp only [List.length_append]
    omega
  rw [readText, readString_string hfuel]
  simp [bind, Except.bind]

/-! ## Values -/

/-- Values made of nothing, truth values and texts, in lists and in records with distinct names. -/
inductive IsPlain : Value → Prop
  | null : IsPlain .null
  | bool (b : Bool) : IsPlain (.bool b)
  | text (s : String) : IsPlain (.text s)
  | list {vs : List Value} : (∀ v ∈ vs, IsPlain v) → IsPlain (.list vs)
  | record {fs : List (String × Value)} :
      (∀ f ∈ fs, IsPlain f.2) → (fs.map Prod.fst).Nodup → IsPlain (.record fs)

/-- A value is read back wherever it is written. -/
def ReadsBack (v : Value) : Prop :=
  ∀ level fuel rest, (indentedAt false level v).toList.length ≤ fuel + 1 →
    readValue (fuel + 1) ((indentedAt false level v).toList ++ rest) = .ok (v, rest)

theorem skip_breakTo (level : Nat) (cs : List Char) : skip ((breakTo level).toList ++ cs) = skip cs := by
  have hblanks : ∀ n, skip (List.replicate n ' ' ++ cs) = skip cs := by
    intro n
    induction n with
    | zero => rfl
    | succ n ih => simpa [skip, List.replicate_succ, isSpace] using ih
  simpa [breakTo, skip, isSpace] using hblanks (2 * level)

theorem skip_blank (cs : List Char) : skip (' ' :: cs) = skip cs :=
  List.dropWhile_cons_of_pos (by decide)

/-- A value starts with a character that is neither a blank nor the end of a list. -/
theorem IsPlain.head {v : Value} (h : IsPlain v) (level : Nat) :
    ∃ c cs, (indentedAt false level v).toList = c :: cs ∧ isSpace c = false ∧ c ≠ ']' := by
  cases h with
  | null => exact ⟨'n', "ull".toList, by simp [indentedAt], by decide, by decide⟩
  | bool b =>
    cases b
    · exact ⟨'f', "alse".toList, by simp [indentedAt], by decide, by decide⟩
    · exact ⟨'t', "rue".toList, by simp [indentedAt], by decide, by decide⟩
  | text s => exact ⟨'"', _, by rw [indentedAt, toList_string], by decide, by decide⟩
  | @list vs _ =>
    cases vs with
    | nil => exact ⟨'[', "]".toList, by simp [indentedAt], by decide, by decide⟩
    | cons v vs => exact ⟨'[', _, by simp [indentedAt]; rfl, by decide, by decide⟩
  | @record fs _ _ =>
    cases fs with
    | nil => exact ⟨'\x7b', "\x7d".toList, by simp [indentedAt], by decide, by decide⟩
    | cons f fs => exact ⟨'\x7b', _, by simp [indentedAt]; rfl, by decide, by decide⟩

theorem IsPlain.length_pos {v : Value} (h : IsPlain v) (level : Nat) :
    0 < (indentedAt false level v).toList.length := by
  obtain ⟨c, cs, hhead, -, -⟩ := h.head level
  rw [hhead]
  exact Nat.succ_pos _

theorem IsPlain.skip_indentedAt {v : Value} (h : IsPlain v) (level : Nat) (cs : List Char) :
    skip ((indentedAt false level v).toList ++ cs) = (indentedAt false level v).toList ++ cs := by
  obtain ⟨c, rest, hhead, hspace, -⟩ := h.head level
  rw [hhead, List.cons_append, skip_cons hspace]

theorem readsBack_null : ReadsBack .null := by
  intro level fuel rest _
  simp only [indentedAt]
  rfl

theorem readsBack_bool (b : Bool) : ReadsBack (.bool b) := by
  intro level fuel rest _
  cases b
  all_goals
    simp only [indentedAt]
    rfl

theorem readsBack_text (s : String) : ReadsBack (.text s) := by
  intro level fuel rest _
  have hword : readWord? ('"' :: (s.toList.flatMap (stringChar false) ++ '"' :: rest)) = none := rfl
  simp [indentedAt, toList_string, readValue, readScalar, hword, readText_string, bind, Except.bind]

/-! ## Lists and records -/

/-- What is written of a list behind its first item, and what comes then. -/
def behindItem (level outer : Nat) (vs : List Value) (rest : List Char) : List Char :=
  (indentedItems false level vs).toList ++ ((breakTo outer).toList ++ ']' :: rest)

/-- What is written of a record behind its first field, and what comes then. -/
def behindField (level outer : Nat) (fs : List (String × Value)) (rest : List Char) : List Char :=
  (indentedFields false level fs).toList ++ ((breakTo outer).toList ++ '\x7d' :: rest)

/-- What is written of a field, and what comes then. -/
def atField (level outer : Nat) (f : String × Value) (fs : List (String × Value)) (rest : List Char) :
    List Char :=
  '"' :: (f.1.toList.flatMap (stringChar false) ++ '"' :: ':' :: ' ' ::
    ((indentedAt false level f.2).toList ++ behindField level outer fs rest))

theorem skip_behindItem_nil (level outer : Nat) (rest : List Char) :
    skip (behindItem level outer [] rest) = ']' :: rest := by
  rw [behindItem, indentedItems, String.toList_empty, List.nil_append, skip_breakTo, skip_cons (by decide)]

theorem skip_behindItem_cons (level outer : Nat) (v : Value) (vs : List Value) (rest : List Char) :
    skip (behindItem level outer (v :: vs) rest) =
      ',' :: ((breakTo level).toList ++ ((indentedAt false level v).toList ++ behindItem level outer vs rest)) := by
  simp [behindItem, indentedItems, skip_cons, isSpace]

theorem skip_behindField_nil (level outer : Nat) (rest : List Char) :
    skip (behindField level outer [] rest) = '\x7d' :: rest := by
  rw [behindField, indentedFields, String.toList_empty, List.nil_append, skip_breakTo, skip_cons (by decide)]

theorem skip_behindField_cons (level outer : Nat) (f : String × Value) (fs : List (String × Value))
    (rest : List Char) :
    skip (behindField level outer (f :: fs) rest) =
      ',' :: ((breakTo level).toList ++ atField level outer f fs rest) := by
  simp [behindField, atField, indentedFields, toList_string, skip_cons, isSpace]

theorem readItems_indented {level outer : Nat} {rest : List Char} {v : Value} {vs : List Value} {fuel : Nat}
    (hplain : ∀ w ∈ v :: vs, IsPlain w) (hread : ∀ w ∈ v :: vs, ReadsBack w)
    (hfuel : (indentedAt false level v).toList.length + (indentedItems false level vs).toList.length < fuel) :
    readItems fuel ((indentedAt false level v).toList ++ behindItem level outer vs rest) =
      .ok (v :: vs, rest) := by
  induction vs generalizing v fuel with
  | nil =>
    have hpos := (hplain v List.mem_cons_self).length_pos level
    obtain ⟨fuel, rfl⟩ : ∃ n, fuel = n + 2 := ⟨fuel - 2, by omega⟩
    exact readItems_last (hread v List.mem_cons_self level fuel _ (by omega))
      (skip_behindItem_nil level outer rest)
  | cons w vs ih =>
    have hpos := (hplain v List.mem_cons_self).length_pos level
    have hlength : (indentedAt false level w).toList.length + (indentedItems false level vs).toList.length <
        (indentedItems false level (w :: vs)).toList.length := by
      have hcomma : ",".toList.length = 1 := rfl
      simp only [indentedItems, String.toList_append, List.length_append, hcomma]
      omega
    obtain ⟨fuel, rfl⟩ : ∃ n, fuel = n + 2 := ⟨fuel - 2, by omega⟩
    refine readItems_cons (hread v List.mem_cons_self level fuel _ (by omega))
      (skip_behindItem_cons level outer w vs rest) ?_
    rw [skip_breakTo, (hplain w (by simp)).skip_indentedAt]
    exact ih (fun u hu => hplain u (List.mem_cons_of_mem _ hu))
      (fun u hu => hread u (List.mem_cons_of_mem _ hu)) (by omega)

theorem readPairs_indented {level outer : Nat} {rest : List Char} {f : String × Value}
    {fs : List (String × Value)} {fuel : Nat} (hplain : ∀ g ∈ f :: fs, IsPlain g.2)
    (hread : ∀ g ∈ f :: fs, ReadsBack g.2)
    (hfuel : (indentedAt false level f.2).toList.length + (indentedFields false level fs).toList.length < fuel) :
    readPairs fuel (atField level outer f fs rest) = .ok (f :: fs, rest) := by
  induction fs generalizing f fuel with
  | nil =>
    have hf := hplain f List.mem_cons_self
    have hpos := hf.length_pos level
    obtain ⟨fuel, rfl⟩ : ∃ n, fuel = n + 2 := ⟨fuel - 2, by omega⟩
    refine readPairs_last (readText_string f.1 _) (skip_cons (by decide) _) ?_ (skip_behindField_nil level outer rest)
    rw [skip_blank, hf.skip_indentedAt]
    exact hread f List.mem_cons_self level fuel _ (by omega)
  | cons g fs ih =>
    have hf := hplain f List.mem_cons_self
    have hpos := hf.length_pos level
    have hlength : (indentedAt false level g.2).toList.length + (indentedFields false level fs).toList.length <
        (indentedFields false level (g :: fs)).toList.length := by
      simp [indentedFields]
      omega
    obtain ⟨fuel, rfl⟩ : ∃ n, fuel = n + 2 := ⟨fuel - 2, by omega⟩
    refine readPairs_cons (readText_string f.1 _) (skip_cons (by decide) _) ?_
      (skip_behindField_cons level outer g fs rest) ?_
    · rw [skip_blank, hf.skip_indentedAt]
      exact hread f List.mem_cons_self level fuel _ (by omega)
    · rw [skip_breakTo, atField, skip_cons (by decide), ← atField]
      exact ih (fun u hu => hplain u (List.mem_cons_of_mem _ hu))
        (fun u hu => hread u (List.mem_cons_of_mem _ hu)) (by omega)

/-- Values of this kind are read back. -/
theorem IsPlain.readsBack {v : Value} (h : IsPlain v) : ReadsBack v := by
  induction h with
  | null => exact readsBack_null
  | bool b => exact readsBack_bool b
  | text s => exact readsBack_text s
  | @list vs hvs ih =>
    intro level fuel rest hfuel
    cases vs with
    | nil =>
      rw [indentedAt]
      rfl
    | cons v vs =>
      have hv := hvs v List.mem_cons_self
      obtain ⟨c, cs, hhead, -, hend⟩ := hv.head (level + 1)
      have hwritten : (indentedAt false level (.list (v :: vs))).toList ++ rest =
          '[' :: ((breakTo (level + 1)).toList ++ ((indentedAt false (level + 1) v).toList ++
            behindItem (level + 1) level vs rest)) := by
        simp [indentedAt, behindItem]
      have hlength : (indentedAt false (level + 1) v).toList.length +
          (indentedItems false (level + 1) vs).toList.length + 1 <
            (indentedAt false level (.list (v :: vs))).toList.length := by
        simp [indentedAt]
        omega
      rw [hwritten]
      refine readValue_list ((skip_breakTo _ _).trans (hv.skip_indentedAt _ _)) ?_ ?_
      · simpa [hhead] using hend
      · exact readItems_indented hvs ih (by omega)
  | @record fs hfs hnodup ih =>
    intro level fuel rest hfuel
    cases fs with
    | nil =>
      rw [indentedAt]
      rfl
    | cons f fs =>
      have hwritten : (indentedAt false level (.record (f :: fs))).toList ++ rest =
          '\x7b' :: ((breakTo (level + 1)).toList ++ atField (level + 1) level f fs rest) := by
        simp [indentedAt, atField, behindField, toList_string]
      have hlength : (indentedAt false (level + 1) f.2).toList.length +
          (indentedFields false (level + 1) fs).toList.length + 1 <
            (indentedAt false level (.record (f :: fs))).toList.length := by
        simp [indentedAt]
        omega
      rw [hwritten, ← Entries.ofPairs_of_nodup hnodup]
      refine readValue_record ((skip_breakTo _ _).trans (skip_cons (by decide) _)) ?_
      exact readPairs_indented hfs ih (by omega)

/-- What is written of such a value over several lines is read back as that value. -/
theorem read_indented {v : Value} (h : IsPlain v) : read (indented v) = .ok v := by
  have hskip : skip (indented v).toList = (indented v).toList := by
    simpa [indented] using h.skip_indentedAt 0 []
  have hread := h.readsBack 0 (2 * (indented v).toList.length + 1) [] (by rw [← indented]; omega)
  rw [List.append_nil, ← indented] at hread
  rw [read, hskip]
  simp [hread, skip, bind, Except.bind]

end Deskhand.Json
