import Deskhand.Entries
import Mathlib.Data.List.Induction
import Mathlib.Data.List.Nodup

/-!
# Entries under distinct keys

Entries that were put one after the other have distinct keys (`Entries.ofPairs_spec`), and putting entries whose
keys are distinct already gives just them (`Entries.ofPairs_of_nodup`).
-/

namespace Deskhand.Entries

variable {κ ν : Type} [DecidableEq κ]

theorem mem_of_find? {entries : Entries κ ν} {key : κ} {value : ν} (h : entries.find? key = some value) :
    (key, value) ∈ entries := by
  induction entries with
  | nil => cases h
  | cons e rest ih =>
    obtain ⟨k, v⟩ := e
    rw [find?] at h
    split at h
    · next hk =>
      rw [← hk, ← Option.some.inj h]
      exact List.mem_cons_self
    · exact List.mem_cons_of_mem _ (ih h)

/-- A value under another key does not matter. -/
theorem find?_of_ne (front : Entries κ ν) {k key : κ} (h : k ≠ key) (v w : ν) (back : Entries κ ν) :
    find? (front ++ (k, v) :: back) key = find? (front ++ (k, w) :: back) key := by
  induction front with
  | nil => simp only [List.nil_append, find?, if_neg h]
  | cons e rest ih => simp only [List.cons_append, find?, ih]

theorem nodup_keys_put {entries : Entries κ ν} (h : entries.keys.Nodup) (key : κ) (value : ν) :
    (entries.put key value).keys.Nodup := by
  rw [keys_put]
  split
  · exact h
  · next hnew => exact List.nodup_append'.mpr ⟨h, List.nodup_singleton _, by simpa using hnew⟩

theorem find?_erase (entries : Entries κ ν) (key k : κ) :
    (entries.erase key).find? k = if key = k then none else entries.find? k := by
  induction entries with
  | nil => simp [erase, find?]
  | cons e rest ih =>
    obtain ⟨k', v⟩ := e
    rw [erase] at ih ⊢
    by_cases hkey : k' = key
    · rw [List.filter_cons_of_neg (by simp [hkey]), ih, find?, hkey]
      split <;> rfl
    · rw [List.filter_cons_of_pos (by simp [hkey]), find?, find?, ih]
      by_cases hk : k' = k
      · rw [if_pos hk, if_neg (fun h => hkey (by rw [hk, h])), if_pos hk]
      · rw [if_neg hk, if_neg hk]

theorem put_of_not_mem {entries : Entries κ ν} {key : κ} (h : key ∉ entries.keys) (value : ν) :
    entries.put key value = entries ++ [(key, value)] := by
  induction entries with
  | nil => rfl
  | cons e rest ih =>
    obtain ⟨k, v⟩ := e
    simp only [keys, List.map_cons, List.mem_cons, not_or] at h
    rw [put, if_neg (Ne.symm h.1), ih h.2, List.cons_append]

theorem snd_of_mem_put {entries : Entries κ ν} {key : κ} {value : ν} {e : κ × ν}
    (h : e ∈ entries.put key value) : e.2 = value ∨ e ∈ entries := by
  induction entries with
  | nil => exact .inl (by rw [List.mem_singleton.mp h])
  | cons e' rest ih =>
    obtain ⟨k, v⟩ := e'
    rw [put] at h
    split at h
    · rcases List.mem_cons.mp h with rfl | h
      · exact .inl rfl
      · exact .inr (List.mem_cons_of_mem _ h)
    · rcases List.mem_cons.mp h with rfl | h
      · exact .inr List.mem_cons_self
      · exact (ih h).imp id (List.mem_cons_of_mem _)

/-- Entries that were put one after the other have distinct keys, and each value was put. -/
theorem ofPairs_spec (pairs : List (κ × ν)) :
    (ofPairs pairs).keys.Nodup ∧ ∀ e ∈ ofPairs pairs, ∃ p ∈ pairs, p.2 = e.2 := by
  rw [ofPairs]
  induction pairs using List.reverseRecOn with
  | nil => exact ⟨List.nodup_nil, by simp⟩
  | append_singleton pairs p ih =>
    rw [List.foldl_append]
    refine ⟨nodup_keys_put ih.1 _ _, fun e he => ?_⟩
    rcases snd_of_mem_put he with h | h
    · exact ⟨p, by simp, h.symm⟩
    · obtain ⟨p', hp', h⟩ := ih.2 e h
      exact ⟨p', List.mem_append_left _ hp', h⟩

/-- Entries with distinct keys are as they were given. -/
theorem ofPairs_of_nodup {pairs : List (κ × ν)} (h : (pairs.map Prod.fst).Nodup) :
    ofPairs pairs = pairs := by
  rw [ofPairs]
  induction pairs using List.reverseRecOn with
  | nil => rfl
  | append_singleton pairs p ih =>
    rw [List.map_append, List.nodup_append'] at h
    have hnew : p.1 ∉ keys pairs := fun hmem => h.2.2 hmem (by simp)
    rw [List.foldl_append, ih h.1, List.foldl_cons, List.foldl_nil, put_of_not_mem hnew]

end Deskhand.Entries
