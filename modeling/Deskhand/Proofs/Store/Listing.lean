import Deskhand.Proofs.Store.Keys
import Mathlib.Data.List.Induction
import Mathlib.Data.Prod.Lex
import Mathlib.Data.String.Basic

/-!
# The order of a list of scenarios

Rows that know when they were made have a key, the moment as text and then the name, and one row comes before
another one if its key is less (`Row.before_iff`). What is listed is in the order of these keys
(`Store.pairwise_sorted`), and it makes no difference whether some rows are picked before or after
(`Store.filter_sorted`).
-/

namespace Deskhand

namespace Row

/-- Whether a row knows when it was made. -/
def IsDated (r : Row) : Prop :=
  ∃ moment, r.created = .text moment

/-- The key by which rows are listed. -/
def key (r : Row) : String ×ₗ String :=
  toLex (r.created.toText, r.name)

theorem before_iff {a b : Row} (ha : a.IsDated) (hb : b.IsDated) : before a b = true ↔ a.key < b.key := by
  obtain ⟨s, hs⟩ := ha
  obtain ⟨t, ht⟩ := hb
  rw [key, key, Prod.Lex.toLex_lt_toLex]
  simp only [before, hs, ht, Cell.before, Value.toText, Bool.or_eq_true, Bool.and_eq_true, Bool.not_eq_true',
    decide_eq_true_eq, decide_eq_false_iff_not]
  constructor
  · rintro (hlt | ⟨hge, hname⟩)
    · exact .inl hlt
    · exact (lt_or_eq_of_le (not_lt.mp hge)).imp_right fun heq => ⟨heq, hname⟩
  · rintro (hlt | ⟨heq, hname⟩)
    · exact .inl hlt
    · exact .inr ⟨heq ▸ lt_irrefl s, hname⟩

end Row

namespace Store

/-- Rows in the order of their keys. -/
def AreSorted (rows : List Row) : Prop :=
  rows.Pairwise fun a b => a.key ≤ b.key

theorem pairwise_place {r : Row} {rows : List Row} (hr : r.IsDated) (hdated : ∀ s ∈ rows, s.IsDated)
    (h : AreSorted rows) : AreSorted (place r rows) := by
  induction rows with
  | nil => exact List.pairwise_singleton _ _
  | cons s rest ih =>
    obtain ⟨hs, hrest⟩ := List.forall_mem_cons.mp hdated
    obtain ⟨hleast, htail⟩ := List.pairwise_cons.mp h
    rw [place]
    split
    · next hbefore =>
      have hlt := (Row.before_iff hr hs).mp hbefore
      refine List.pairwise_cons.mpr ⟨List.forall_mem_cons.mpr ⟨hlt.le, fun t ht => ?_⟩, h⟩
      exact hlt.le.trans (hleast t ht)
    · next hnot =>
      have hle := not_lt.mp fun hlt => hnot ((Row.before_iff hr hs).mpr hlt)
      refine List.pairwise_cons.mpr ⟨fun t ht => ?_, ih hrest htail⟩
      rcases List.mem_cons.mp ((place_perm r rest).mem_iff.mp ht) with rfl | ht
      · exact hle
      · exact hleast t ht

/-- A row that comes before all others is put in front of them. -/
theorem place_of_lt {r : Row} {rows : List Row} (hr : r.IsDated) (hdated : ∀ s ∈ rows, s.IsDated)
    (h : ∀ s ∈ rows, r.key < s.key) : place r rows = r :: rows := by
  cases rows with
  | nil => rfl
  | cons s rest =>
    rw [place, if_pos ((Row.before_iff hr (hdated s List.mem_cons_self)).mpr (h s List.mem_cons_self))]

/-- Rows can be picked before or after another one comes in. -/
theorem filter_place {r : Row} {rows : List Row} (p : Row → Bool) (hr : r.IsDated)
    (hdated : ∀ s ∈ rows, s.IsDated) (h : AreSorted rows) :
    (place r rows).filter p = if p r then place r (rows.filter p) else rows.filter p := by
  induction rows with
  | nil => cases hp : p r <;> simp [place, hp]
  | cons s rest ih =>
    obtain ⟨hs, hrest⟩ := List.forall_mem_cons.mp hdated
    obtain ⟨hleast, htail⟩ := List.pairwise_cons.mp h
    rw [place]
    split
    · next hbefore =>
      -- the row comes before this one and so before every row that is picked from here on
      have hlt := (Row.before_iff hr hs).mp hbefore
      have hfirst : ∀ t ∈ (s :: rest).filter p, r.key < t.key := fun t ht => by
        rcases List.mem_cons.mp (List.mem_of_mem_filter ht) with rfl | ht
        · exact hlt
        · exact hlt.trans_le (hleast t ht)
      have hpicked : ∀ t ∈ (s :: rest).filter p, t.IsDated := fun t ht => hdated t (List.mem_of_mem_filter ht)
      rw [List.filter_cons, place_of_lt hr hpicked hfirst]
    · next hnot =>
      cases hps : p s with
      | true => cases hp : p r <;> simp [hps, ih hrest htail, hp, place, hnot]
      | false => simp [hps, ih hrest htail]

theorem isDated_of_mem_sorted {rows : List Row} (hdated : ∀ r ∈ rows, r.IsDated) : ∀ r ∈ sorted rows, r.IsDated :=
  fun r hr => hdated r ((sorted_perm rows).mem_iff.mp hr)

theorem sorted_snoc (rows : List Row) (r : Row) : sorted (rows ++ [r]) = place r (sorted rows) :=
  List.foldl_append

/-- What is listed is in the order of the keys. -/
theorem pairwise_sorted {rows : List Row} (hdated : ∀ r ∈ rows, r.IsDated) : AreSorted (sorted rows) := by
  induction rows using List.reverseRecOn with
  | nil => exact .nil
  | append_singleton rows r ih =>
    obtain ⟨hrows, hr⟩ := List.forall_mem_append.mp hdated
    rw [sorted_snoc]
    exact pairwise_place (hr r (List.mem_singleton_self r)) (isDated_of_mem_sorted hrows) (ih hrows)

/-- Rows can be picked before or after they are put in order. -/
theorem filter_sorted {rows : List Row} (p : Row → Bool) (hdated : ∀ r ∈ rows, r.IsDated) :
    (sorted rows).filter p = sorted (rows.filter p) := by
  induction rows using List.reverseRecOn with
  | nil => rfl
  | append_singleton rows r ih =>
    obtain ⟨hrows, hr⟩ := List.forall_mem_append.mp hdated
    rw [sorted_snoc, filter_place p (hr r (List.mem_singleton_self r)) (isDated_of_mem_sorted hrows)
      (pairwise_sorted hrows), ih hrows, List.filter_append]
    cases hp : p r with
    | true => simp [hp, sorted_snoc]
    | false => simp [hp]

end Store

end Deskhand
