/-!
# Sets of texts in order

A set of texts is kept as a list in increasing order of code points, each text once. `Ordered.insert` adds a
text, `Ordered.erase` drops one; `mem_insert` and `mem_ofList` say that nothing else happens.
-/

namespace Deskhand.Ordered

/-- Add a text to a set. -/
def insert (x : String) : List String → List String
  | [] => [x]
  | y :: ys => if x < y then x :: y :: ys else if x = y then y :: ys else y :: insert x ys

/-- Drop a text from a set. -/
def erase (x : String) (xs : List String) : List String :=
  xs.filter (· ≠ x)

/-- The set of the texts of a list. -/
def ofList (xs : List String) : List String :=
  xs.foldl (fun set x => insert x set) []

/-- A text is in a set after an insertion if it was there before or is the one added. -/
theorem mem_insert {x y : String} {xs : List String} : y ∈ insert x xs ↔ y = x ∨ y ∈ xs := by
  induction xs with
  | nil => simp [insert]
  | cons z zs ih =>
    simp only [insert]
    split
    · simp
    · split <;> grind

/-- A text is in the set of a list if it is in the list. -/
theorem mem_ofList {y : String} {xs : List String} : y ∈ ofList xs ↔ y ∈ xs := by
  suffices h : ∀ set, y ∈ xs.foldl (fun set x => insert x set) set ↔ y ∈ set ∨ y ∈ xs by
    simpa [ofList] using h []
  induction xs with
  | nil => simp
  | cons x xs ih =>
    intro set
    rw [List.foldl_cons, ih, mem_insert]
    grind

end Deskhand.Ordered
