import Deskhand.Text.Blank
import Mathlib.Data.List.DropRight

/-!
# Trimming

Nothing is left to trim at the ends of a text that was trimmed (`trim_trim`), which is to say that it has no blank there
(`trimChars_eq_self_iff`), and blanks around a text do not matter (`trimChars_padded`). What is not blank stays, so that
a text is blank iff it is so once it was trimmed (`isBlankText_trim`), and iff nothing is left of it
(`trim_eq_empty_iff`).
-/

namespace Deskhand.Text

/-- A part from the front of a list without its dropped front has nothing more to drop there. -/
theorem dropWhile_of_front {drop : Char → Bool} {front cs : List Char} (h : front <+: cs.dropWhile drop) :
    front.dropWhile drop = front := by
  cases front with
  | nil => rfl
  | cons c rest =>
    obtain ⟨more, hmore⟩ := h
    have hhead : (cs.dropWhile drop).head? = some c := by rw [← hmore]; rfl
    have hkept := List.head?_dropWhile_not drop cs
    rw [hhead] at hkept
    exact List.dropWhile_cons_of_neg (by simpa using hkept)

theorem trimChars_trimChars (drop : Char → Bool) (cs : List Char) :
    trimChars drop (trimChars drop cs) = trimChars drop cs :=
  calc trimChars drop (trimChars drop cs)
      = (((cs.dropWhile drop).rdropWhile drop).dropWhile drop).rdropWhile drop := rfl
    _ = ((cs.dropWhile drop).rdropWhile drop).rdropWhile drop := by
      rw [dropWhile_of_front (List.rdropWhile_prefix drop _)]
    _ = (cs.dropWhile drop).rdropWhile drop := List.rdropWhile_idempotent drop _

/-- What is left is a part of what there was. -/
theorem trimChars_sublist {drop : Char → Bool} {cs : List Char} : (trimChars drop cs).Sublist cs :=
  (List.rdropWhile_prefix drop (cs.dropWhile drop)).sublist.trans (List.dropWhile_sublist drop)

theorem toList_trim (s : String) : (trim s).toList = trimChars isBlank s.toList := by
  rw [trim, String.toList_ofList]

theorem trim_trim (s : String) : trim (trim s) = trim s := by
  rw [trim, trim, String.toList_ofList, trimChars_trimChars]

/-- Nothing is trimmed from a list iff neither its first element nor its last one is of the class that is dropped. -/
theorem trimChars_eq_self_iff {drop : Char → Bool} {cs : List Char} :
    trimChars drop cs = cs ↔ (∀ c ∈ cs.head?, ¬drop c = true) ∧ ∀ c ∈ cs.getLast?, ¬drop c = true := by
  have hfront : cs.dropWhile drop = cs ↔ ∀ c ∈ cs.head?, ¬drop c = true := by
    rw [List.dropWhile_eq_self_iff]
    cases cs <;> simp
  have hback : cs.rdropWhile drop = cs ↔ ∀ c ∈ cs.getLast?, ¬drop c = true := by
    rw [List.rdropWhile_eq_self_iff]
    refine ⟨fun h c hc => ?_, fun h hl => h _ (List.getLast?_eq_some_getLast hl)⟩
    obtain ⟨hl, rfl⟩ := List.mem_getLast?_eq_getLast hc
    exact h hl
  rw [← hfront, ← hback]
  change (cs.dropWhile drop).rdropWhile drop = cs ↔ _
  refine ⟨fun h => ?_, fun ⟨hf, hb⟩ => by rw [hf, hb]⟩
  -- neither end can lose anything, since all of the list is left
  have hlength := (List.rdropWhile_prefix drop (cs.dropWhile drop)).length_le
  rw [h] at hlength
  have hf : cs.dropWhile drop = cs :=
    (List.dropWhile_suffix drop).eq_of_length (Nat.le_antisymm (List.dropWhile_suffix drop).length_le hlength)
  exact ⟨hf, by rwa [hf] at h⟩

/-- Characters of the class that is dropped do not matter around a list. -/
theorem trimChars_padded {drop : Char → Bool} {front back : List Char} (hfront : ∀ c ∈ front, drop c = true)
    (hback : ∀ c ∈ back, drop c = true) (cs : List Char) :
    trimChars drop (front ++ cs ++ back) = trimChars drop cs := by
  have hend : ∀ l : List Char, (l ++ back).rdropWhile drop = l.rdropWhile drop := fun l => by
    rw [List.rdropWhile, List.rdropWhile, List.reverse_append,
      List.dropWhile_append_of_pos fun c hc => hback c (List.mem_reverse.mp hc)]
  change ((front ++ cs ++ back).dropWhile drop).rdropWhile drop = (cs.dropWhile drop).rdropWhile drop
  rw [List.append_assoc, List.dropWhile_append_of_pos hfront, List.dropWhile_append]
  split
  · next hnone =>
    rw [List.isEmpty_iff.mp hnone, List.dropWhile_eq_nil_iff.mpr hback]
  · exact hend _

/-- A list is what is left of it between characters of the class that is dropped. -/
theorem exists_padding (drop : Char → Bool) (cs : List Char) : ∃ front back, cs = front ++ trimChars drop cs ++ back ∧
    (∀ c ∈ front, drop c = true) ∧ ∀ c ∈ back, drop c = true := by
  have hsplit : trimChars drop cs ++ (cs.dropWhile drop).rtakeWhile drop = cs.dropWhile drop :=
    List.rdropWhile_append_rtakeWhile
  refine ⟨cs.takeWhile drop, (cs.dropWhile drop).rtakeWhile drop, ?_, fun c hc => List.mem_takeWhile_imp hc,
    fun c hc => List.mem_rtakeWhile_imp hc⟩
  rw [List.append_assoc, hsplit, List.takeWhile_append_dropWhile]

/-- What is not of the class that is dropped stays. -/
theorem mem_trimChars {drop : Char → Bool} {cs : List Char} {c : Char} (hc : c ∈ cs) (hdrop : drop c = false) :
    c ∈ trimChars drop cs := by
  have hstays : ∀ {l : List Char}, c ∈ l → c ∈ l.dropWhile drop := by
    intro l hl
    rw [← List.takeWhile_append_dropWhile (p := drop) (l := l), List.mem_append] at hl
    refine hl.resolve_left fun htaken => ?_
    rw [List.mem_takeWhile_imp htaken] at hdrop
    cases hdrop
  exact List.mem_reverse.mpr (hstays (List.mem_reverse.mpr (hstays hc)))

theorem isBlankText_trim (s : String) : isBlankText (trim s) = isBlankText s := by
  rw [isBlankText, isBlankText, trim, String.toList_ofList, Bool.eq_iff_iff, List.all_eq_true, List.all_eq_true]
  refine ⟨fun h c hc => ?_, fun h c hc => h c (trimChars_sublist.subset hc)⟩
  by_contra hblank
  exact hblank (h c (mem_trimChars hc (by simpa using hblank)))

/-- Nothing is left of a text iff it is blank. -/
theorem trim_eq_empty_iff {s : String} : trim s = "" ↔ isBlankText s = true := by
  constructor
  · intro h
    rw [← isBlankText_trim, h]
    rfl
  · intro h
    have hnone : s.toList.dropWhile isBlank = [] :=
      List.dropWhile_eq_nil_iff.mpr fun c hc => List.all_eq_true.mp h c hc
    rw [trim, trimChars, hnone]
    rfl

end Deskhand.Text
