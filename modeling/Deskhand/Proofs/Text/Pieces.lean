import Deskhand.Text.Pieces
import Mathlib.Data.List.Basic

/-!
# Pieces of a text

What the functions that cut and join texts do, as facts about their characters. Texts that are joined with a separator
which none of them holds are what the whole is cut into (`splitOn_join`, `splitOn_join_of_not_mem`).
-/

namespace Deskhand.Text

/-- What stands before the first occurrence of a character. -/
theorem fst_cutAt (sep : Char) (s : String) : (cutAt sep s).1 = String.ofList (s.toList.takeWhile (· != sep)) := by
  rw [cutAt]
  split <;> rfl

/-- What stands behind the first occurrence of a character, if there is one. -/
theorem snd_cutAt (sep : Char) (s : String) :
    (cutAt sep s).2 = (s.toList.dropWhile (· != sep)).tail?.map String.ofList := by
  rw [cutAt]
  split <;> simp [*]

/-- A character that is replaced by nothing is left out. -/
theorem toList_replaceChar_empty (old : Char) (s : String) :
    (replaceChar old "" s).toList = s.toList.filter (· != old) := by
  rw [replaceChar, String.toList_ofList]
  induction s.toList with
  | nil => rfl
  | cons c rest ih =>
    rw [List.flatMap_cons, ih, List.filter_cons]
    by_cases hc : c = old <;> simp [hc]

/-- A list starts with another one iff it is that and a rest. -/
theorem afterChars?_eq_some_iff {needle cs rest : List Char} :
    afterChars? needle cs = some rest ↔ cs = needle ++ rest := by
  induction needle generalizing cs with
  | nil => simp [afterChars?, eq_comm]
  | cons p ps ih =>
    cases cs with
    | nil => simp [afterChars?]
    | cons c cs =>
      rw [afterChars?, List.cons_append, List.cons.injEq]
      by_cases hp : p = c
      · simp [hp, ih]
      · simp [hp, Ne.symm hp]

theorem afterChars?_isSome {needle cs : List Char} : (afterChars? needle cs).isSome = true ↔ needle <+: cs := by
  rw [Option.isSome_iff_exists]
  exact exists_congr fun rest => afterChars?_eq_some_iff.trans eq_comm

/-! ## Cutting and joining -/

theorem splitChars_ne_nil (sep : Char) (cs : List Char) : splitChars sep cs ≠ [] := by
  cases cs with
  | nil => simp [splitChars]
  | cons c cs =>
    rw [splitChars]
    split
    · simp
    · split <;> simp

/-- A text is cut at a separator wherever that stands. -/
theorem splitChars_append (sep : Char) (front back : List Char) :
    splitChars sep (front ++ sep :: back) = splitChars sep front ++ splitChars sep back := by
  induction front with
  | nil => simp [splitChars]
  | cons c front ih =>
    rw [List.cons_append, splitChars, splitChars, ih]
    split
    · rfl
    · cases h : splitChars sep front with
      | nil => exact absurd h (splitChars_ne_nil sep front)
      | cons piece pieces => rfl

/-- A text without the separator is one piece. -/
theorem splitChars_of_not_mem {sep : Char} {cs : List Char} (h : sep ∉ cs) : splitChars sep cs = [cs] := by
  induction cs with
  | nil => rfl
  | cons c cs ih =>
    rw [List.mem_cons, not_or] at h
    rw [splitChars, if_neg (by simpa using Ne.symm h.1), ih h.2]

theorem not_mem_of_mem_splitChars {sep : Char} {cs piece : List Char} (h : piece ∈ splitChars sep cs) :
    sep ∉ piece := by
  induction cs generalizing piece with
  | nil => simp_all [splitChars]
  | cons c cs ih =>
    rw [splitChars] at h
    split at h
    · rcases List.mem_cons.mp h with rfl | h
      · exact List.not_mem_nil
      · exact ih h
    · next hc =>
      have hne : sep ≠ c := fun heq => hc (by simp [heq])
      cases hsplit : splitChars sep cs with
      | nil => exact absurd hsplit (splitChars_ne_nil sep cs)
      | cons first rest =>
        rw [hsplit] at h ih
        rcases List.mem_cons.mp h with rfl | h
        · rw [List.mem_cons, not_or]
          exact ⟨hne, ih List.mem_cons_self⟩
        · exact ih (List.mem_cons_of_mem _ h)

theorem toList_join (sep s : String) (rest : List String) :
    (join sep (s :: rest)).toList = s.toList ++ rest.flatMap fun t => sep.toList ++ t.toList := by
  rw [join]
  induction rest generalizing s with
  | nil => simp
  | cons t rest ih =>
    rw [List.foldl_cons, ih, List.flatMap_cons, String.toList_append, String.toList_append]
    simp only [List.append_assoc]

theorem splitOn_of_not_mem {sep : Char} {s : String} (h : sep ∉ s.toList) : splitOn sep s = [s] := by
  rw [splitOn, splitChars_of_not_mem h, List.map_singleton, String.ofList_toList]

theorem not_mem_of_mem_splitOn {sep : Char} {s piece : String} (h : piece ∈ splitOn sep s) : sep ∉ piece.toList := by
  obtain ⟨cs, hcs, rfl⟩ := List.mem_map.mp h
  rw [String.toList_ofList]
  exact not_mem_of_mem_splitChars hcs

/-- What texts are cut into after they were joined is what they are cut into one by one. -/
theorem splitOn_join {sep : Char} {texts : List String} (hne : texts ≠ []) :
    splitOn sep (join (String.singleton sep) texts) = texts.flatMap (splitOn sep) := by
  obtain ⟨s, rest, rfl⟩ := List.exists_cons_of_ne_nil hne
  clear hne
  induction rest generalizing s with
  | nil => rw [join, List.foldl_nil, List.flatMap_cons, List.flatMap_nil, List.append_nil]
  | cons t rest ih =>
    have hjoined : (join (String.singleton sep) (s :: t :: rest)).toList =
        s.toList ++ sep :: (join (String.singleton sep) (t :: rest)).toList := by
      simp [toList_join]
    rw [List.flatMap_cons, ← ih t, splitOn, hjoined, splitChars_append, List.map_append]
    rfl

/-- Texts that are joined with a separator which none of them holds are what the whole is cut into. -/
theorem splitOn_join_of_not_mem {sep : Char} {texts : List String} (hne : texts ≠ [])
    (h : ∀ s ∈ texts, sep ∉ s.toList) : splitOn sep (join (String.singleton sep) texts) = texts :=
  calc splitOn sep (join (String.singleton sep) texts)
      = texts.flatMap (splitOn sep) := splitOn_join hne
    _ = texts.flatMap fun s => [s] := List.flatMap_congr fun s hs => splitOn_of_not_mem (h s hs)
    _ = texts := List.flatMap_singleton' texts

end Deskhand.Text
