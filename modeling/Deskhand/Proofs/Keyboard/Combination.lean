import Deskhand.Proofs.Keyboard.Held
import Deskhand.Proofs.Text.Case
import Mathlib.Data.Finset.Dedup
import Mathlib.Data.Finset.Union
import Mathlib.Data.String.Basic
import Mathlib.Logic.Relation

/-!
# Combinations of modifiers

A text of modifiers denotes the set of the names of its parts that are not blank (`denoted`). Its normal form lists that
set in order, so that it depends on the set only; and since no name holds the mark that stands between names, the form
also tells the set. Main statements:

* `Ordered.ofList_eq_iff`: lists have the same elements in order iff they have the same elements;
* `denoted_join`: texts that are joined denote the union of what they denote;
* `normalModifiers_eq_iff`: texts have the same normal form iff they denote the same set;
* `Respells.denoted_eq`: spellings that make no difference.
-/

namespace Deskhand

/-! ## Sets in order -/

namespace Ordered

theorem pairwise_insert {x : String} {xs : List String} (h : xs.Pairwise (· < ·)) :
    (insert x xs).Pairwise (· < ·) := by
  induction xs with
  | nil => exact List.pairwise_singleton _ x
  | cons y ys ih =>
    obtain ⟨hy, hys⟩ := List.pairwise_cons.mp h
    rw [insert]
    split
    · next hlt =>
      refine List.pairwise_cons.mpr ⟨fun z hz => ?_, h⟩
      rcases List.mem_cons.mp hz with rfl | hz
      · exact hlt
      · exact hlt.trans (hy z hz)
    · next hnot =>
      split
      · exact h
      · next hne =>
        refine List.pairwise_cons.mpr ⟨fun z hz => ?_, ih hys⟩
        rcases mem_insert.mp hz with rfl | hz
        · exact lt_of_le_of_ne (not_lt.mp hnot) (Ne.symm hne)
        · exact hy z hz

/-- The set of a list is in order, each text once. -/
theorem pairwise_ofList (xs : List String) : (ofList xs).Pairwise (· < ·) := by
  have h : ∀ set : List String, set.Pairwise (· < ·) →
      (xs.foldl (fun set x => insert x set) set).Pairwise (· < ·) := by
    induction xs with
    | nil => exact fun _ hset => hset
    | cons x xs ih => exact fun set hset => ih _ (pairwise_insert hset)
  exact h [] List.Pairwise.nil

/-- The order leaves one list for each set. -/
theorem ofList_eq_iff {xs ys : List String} : ofList xs = ofList ys ↔ ∀ x, x ∈ xs ↔ x ∈ ys := by
  refine ⟨fun h x => by rw [← mem_ofList, h, mem_ofList], fun h => ?_⟩
  have hnodup : ∀ zs, (ofList zs).Nodup := fun zs => (pairwise_ofList zs).imp fun hlt => ne_of_lt hlt
  have hperm : (ofList xs).Perm (ofList ys) :=
    (List.perm_ext_iff_of_nodup (hnodup xs) (hnodup ys)).mpr fun x => by rw [mem_ofList, mem_ofList, h]
  exact hperm.eq_of_pairwise (fun _ _ _ _ hab hba => absurd hba (lt_asymm hab)) (pairwise_ofList xs)
    (pairwise_ofList ys)

end Ordered

namespace Keyboard

/-! ## The name of a part -/

/-- The name of a part is the part without blanks around it and in lower case, unless that stands for a family. -/
theorem normalPart_cases (part : String) :
    normalPart part = Text.lower (Text.trim part) ∨ normalPart part ∈ families := by
  rw [normalPart]
  cases hname : modifier? (Text.lower (Text.trim part)) with
  | none => exact .inl rfl
  | some family => exact .inr (mem_families hname)

/-- A part in which no other part begins has a name of that kind. -/
theorem not_mem_normalPart {part : String} (h : '+' ∉ part.toList) : '+' ∉ (normalPart part).toList := by
  obtain hname | hname := normalPart_cases part
  · rw [hname, Text.toList_lower, Text.mem_lowerFrom_iff_of_mark (by decide), Text.toList_trim]
    exact fun hmem => h (Text.trimChars_sublist.subset hmem)
  · have hfamilies : ∀ family ∈ families, '+' ∉ family.toList := by decide
    exact hfamilies _ hname

/-- A part that is not blank has a name. -/
theorem normalPart_ne_empty {part : String} (h : Text.isBlankText part = false) : normalPart part ≠ "" := by
  obtain hname | hname := normalPart_cases part
  · rw [hname, ne_eq, Text.lower_eq_empty_iff, Text.trim_eq_empty_iff, h]
    exact Bool.false_ne_true
  · have hfamilies : ∀ family ∈ families, family ≠ "" := by decide
    exact hfamilies _ hname

theorem normalPart_congr {part other : String}
    (h : Text.lower (Text.trim part) = Text.lower (Text.trim other)) : normalPart part = normalPart other := by
  rw [normalPart, h, normalPart]

/-! ## What a text denotes -/

/-- The parts of a text of modifiers that are not blank. -/
def parts (modifiers : String) : List String :=
  (Text.splitOn '+' modifiers).filter fun part => !Text.isBlankText part

/-- The set of modifiers that a text denotes: the names of its parts. -/
def denoted (modifiers : String) : Finset String :=
  ((parts modifiers).map normalPart).toFinset

theorem mem_denoted {modifiers name : String} :
    name ∈ denoted modifiers ↔ ∃ part ∈ parts modifiers, normalPart part = name := by
  rw [denoted, List.mem_toFinset, List.mem_map]

/-- Texts that are joined denote the union of what they denote. -/
theorem denoted_join (texts : List String) : denoted (Text.join "+" texts) = texts.toFinset.biUnion denoted := by
  by_cases hne : texts = []
  · subst hne
    decide +kernel
  · have hcut : parts (Text.join "+" texts) = texts.flatMap parts := by
      rw [parts, show "+" = String.singleton '+' from rfl, Text.splitOn_join hne, List.filter_flatMap]
      rfl
    ext name
    simp only [mem_denoted, hcut, List.mem_flatMap, Finset.mem_biUnion, List.mem_toFinset]
    exact ⟨fun ⟨part, ⟨text, htext, hpart⟩, hname⟩ => ⟨text, htext, part, hpart, hname⟩,
      fun ⟨text, htext, part, hpart, hname⟩ => ⟨part, ⟨text, htext, hpart⟩, hname⟩⟩

/-- What one part denotes. -/
theorem denoted_of_not_mem {part : String} (h : '+' ∉ part.toList) :
    denoted part = if Text.isBlankText part then ∅ else {normalPart part} := by
  rw [denoted, parts, Text.splitOn_of_not_mem h]
  cases hblank : Text.isBlankText part <;> simp [hblank]

/-- Names that hold no mark between them are told by what they are when they are joined. -/
theorem splitOn_normalModifiers (modifiers : String) :
    (Text.splitOn '+' (normalModifiers modifiers)).filter (· ≠ "") = modifierSet modifiers := by
  have hnames : ∀ name ∈ modifierSet modifiers, '+' ∉ name.toList ∧ name ≠ "" := by
    intro name hname
    obtain ⟨part, hpart, rfl⟩ := List.mem_map.mp (Ordered.mem_ofList.mp hname)
    obtain ⟨hcut, hblank⟩ := List.mem_filter.mp hpart
    exact ⟨not_mem_normalPart (Text.not_mem_of_mem_splitOn hcut), normalPart_ne_empty (by simpa using hblank)⟩
  by_cases hne : modifierSet modifiers = []
  · rw [normalModifiers, hne]
    decide +kernel
  · rw [normalModifiers, show "+" = String.singleton '+' from rfl,
      Text.splitOn_join_of_not_mem hne fun name hname => (hnames name hname).1]
    exact List.filter_eq_self.mpr fun name hname => decide_eq_true (hnames name hname).2

/-- Texts have the same normal form iff they denote the same set. -/
theorem normalModifiers_eq_iff {modifiers others : String} :
    normalModifiers modifiers = normalModifiers others ↔ denoted modifiers = denoted others := by
  have hset : normalModifiers modifiers = normalModifiers others ↔ modifierSet modifiers = modifierSet others := by
    refine ⟨fun h => ?_, fun h => congrArg (Text.join "+") h⟩
    rw [← splitOn_normalModifiers, h, splitOn_normalModifiers]
  rw [hset, modifierSet, modifierSet, Ordered.ofList_eq_iff, Finset.ext_iff]
  simp only [denoted, parts, List.mem_toFinset]

/-! ## Spellings that make no difference -/

/-- Two texts of modifiers are spellings of each other: their parts differ in order, in repetition, in parts that are
blank, in blanks around a part, in the name that stands for a family, or all of the text in case. -/
inductive Respells : String → String → Prop
  | order {texts others : List String} (h : texts.Perm others) :
    Respells (Text.join "+" texts) (Text.join "+" others)
  | again {text : String} {texts : List String} (h : text ∈ texts) :
    Respells (Text.join "+" (text :: texts)) (Text.join "+" texts)
  | blank {text : String} (texts : List String) (h : Text.isBlankText text = true) :
    Respells (Text.join "+" (text :: texts)) (Text.join "+" texts)
  | padded {front text back : String} (before behind : List String) (hfront : Text.isBlankText front = true)
    (htext : '+' ∉ text.toList) (hback : Text.isBlankText back = true) :
    Respells (Text.join "+" (before ++ (front ++ text ++ back) :: behind)) (Text.join "+" (before ++ text :: behind))
  | case {modifiers others : String} (h : Text.lower modifiers = Text.lower others) : Respells modifiers others
  | family {name family : String} (before behind : List String) (h : (name, family) ∈ modifierAliases) :
    Respells (Text.join "+" (before ++ name :: behind)) (Text.join "+" (before ++ family :: behind))

/-- What stands in the middle of texts may be replaced by what denotes the same. -/
theorem denoted_join_congr {text other : String} (h : denoted text = denoted other) (before behind : List String) :
    denoted (Text.join "+" (before ++ text :: behind)) = denoted (Text.join "+" (before ++ other :: behind)) := by
  ext name
  simp [denoted_join, h]

/-- A blank text holds no mark that stands between parts. -/
theorem not_mem_of_isBlankText {text : String} (h : Text.isBlankText text = true) : '+' ∉ text.toList := by
  intro hmem
  have hplus : Text.isBlank '+' = false := by decide
  rw [List.all_eq_true.mp h '+' hmem] at hplus
  cases hplus

theorem denoted_padded {front text back : String} (hfront : Text.isBlankText front = true)
    (htext : '+' ∉ text.toList) (hback : Text.isBlankText back = true) :
    denoted (front ++ text ++ back) = denoted text := by
  have htrim : Text.trim (front ++ text ++ back) = Text.trim text := by
    rw [← String.toList_inj, Text.toList_trim, Text.toList_trim, String.toList_append, String.toList_append,
      Text.trimChars_padded (List.all_eq_true.mp hfront) (List.all_eq_true.mp hback)]
  have hpart : '+' ∉ (front ++ text ++ back).toList := by
    simp [not_mem_of_isBlankText hfront, not_mem_of_isBlankText hback, htext]
  rw [denoted_of_not_mem hpart, denoted_of_not_mem htext, ← Text.isBlankText_trim, htrim, Text.isBlankText_trim,
    normalPart_congr (congrArg Text.lower htrim)]

/-- A text in lower case denotes what it did. -/
theorem denoted_lower (modifiers : String) : denoted (Text.lower modifiers) = denoted modifiers := by
  have hplus : Text.endsWord '+' = true := by decide +kernel
  have hfilter : ((fun part => !Text.isBlankText part) ∘ Text.lower) = fun part => !Text.isBlankText part :=
    funext fun part => congrArg (!·) (Text.isBlankText_lower part)
  have hnames : ∀ names : List String, names.map (normalPart ∘ Text.lower) = names.map normalPart := fun names =>
    List.map_congr_left fun part _ => by
      rw [Function.comp_apply]
      exact normalPart_congr (by rw [← Text.lower_trim, Text.lower_lower])
  rw [denoted, parts, Text.splitOn_lower (by decide) hplus, List.filter_map, List.map_map, hfilter, hnames, denoted,
    parts]

/-- Spellings of each other denote the same set. -/
theorem Respells.denoted_eq {modifiers others : String} (h : Respells modifiers others) :
    denoted modifiers = denoted others := by
  cases h with
  | order hperm => rw [denoted_join, denoted_join, List.toFinset_eq_of_perm _ _ hperm]
  | again hmem =>
    rw [denoted_join, denoted_join, List.toFinset_cons, Finset.insert_eq_of_mem (List.mem_toFinset.mpr hmem)]
  | blank texts hblank =>
    rw [denoted_join, List.toFinset_cons, Finset.biUnion_insert, denoted_of_not_mem (not_mem_of_isBlankText hblank),
      if_pos hblank, Finset.empty_union, denoted_join]
  | padded before behind hfront htext hback =>
    exact denoted_join_congr (denoted_padded hfront htext hback) before behind
  | case hlower => rw [← denoted_lower modifiers, hlower, denoted_lower]
  | family before behind hmem =>
    have haliases : ∀ entry ∈ modifierAliases, denoted entry.1 = denoted entry.2 := by decide +kernel
    exact denoted_join_congr (haliases _ hmem) before behind

end Keyboard

end Deskhand
