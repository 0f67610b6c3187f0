/-!
# Entries in insertion order

A collection of values under keys that remembers the order in which the keys came. `put` changes the value of
a key that is there, in its place, and appends one that is not; `erase` drops a key and keeps the others where
they are. `find?_put` and `keys_put` say so.
-/

namespace Deskhand

/-- Values under keys, in the order in which the keys came. -/
abbrev Entries (κ ν : Type) := List (κ × ν)

namespace Entries

variable {κ ν : Type} [DecidableEq κ]

/-- The value under a key. -/
def find? : Entries κ ν → κ → Option ν
  | [], _ => none
  | (k, v) :: rest, key => if k = key then some v else find? rest key

/-- Set the value under a key, in its place if it is there and at the end otherwise. -/
def put : Entries κ ν → κ → ν → Entries κ ν
  | [], key, value => [(key, value)]
  | (k, v) :: rest, key, value => if k = key then (k, value) :: rest else (k, v) :: put rest key value

/-- Drop a key. -/
def erase (entries : Entries κ ν) (key : κ) : Entries κ ν :=
  entries.filter fun e => e.1 ≠ key

/-- The keys, in the order in which they came. -/
def keys (entries : Entries κ ν) : List κ :=
  entries.map (·.1)

/-- Whether a key is there. -/
def has (entries : Entries κ ν) (key : κ) : Bool :=
  (entries.find? key).isSome

/-- Entries put one after the other, so that of two with the same key the later value stays. -/
def ofPairs (pairs : List (κ × ν)) : Entries κ ν :=
  pairs.foldl (fun acc e => acc.put e.1 e.2) []

/-- What was put under a key is found there, and nothing else has changed. -/
theorem find?_put (entries : Entries κ ν) (key : κ) (value : ν) (k : κ) :
    (entries.put key value).find? k = if key = k then some value else entries.find? k := by
  induction entries with
  | nil => simp [put, find?]
  | cons e rest ih =>
    obtain ⟨k', v'⟩ := e
    simp only [put]
    split <;> simp only [find?] <;> grind

/-- Putting a value keeps the keys that are there in their order and appends a new one. -/
theorem keys_put (entries : Entries κ ν) (key : κ) (value : ν) :
    (entries.put key value).keys = if key ∈ entries.keys then entries.keys else entries.keys ++ [key] := by
  induction entries with
  | nil => simp [put, keys]
  | cons e rest ih =>
    obtain ⟨k', v'⟩ := e
    simp only [put, keys, List.map_cons] at *
    split <;> grind

end Entries

end Deskhand
