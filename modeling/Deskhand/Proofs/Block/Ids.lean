import Deskhand.Proofs.Block.Stored
import Deskhand.Proofs.Text.Quoted
import Deskhand.Text.Case
import Mathlib.Data.List.ReduceOption
import Mathlib.Data.Nat.ModEq

/-!
# The ids of a chain

A block has the id that its element of a stored chain gives, or the next one of the supply. Values are recorded by id
in lower case, so that blocks are told apart only if their ids differ in more than letter case. Main statements:

* `ids_readElements`: the ids that blocks get;
* `idsFrom_perm`: they are the given ones and a run of drawn ones;
* `lower_idOf`, `idOf_eq_iff`: drawn ids are in lower case, and repeat only after `16 ^ 12` of them;
* `areToldApart_iff`: when the blocks of a chain are told apart.
-/

namespace Deskhand

/-! ## Drawn ids -/

namespace Text

/-- Small characters change their letter case one by one. -/
theorem lowerFrom_of_small {before cs : List Char} (h : ∀ c ∈ cs, c.toNat < 0x80) :
    lowerFrom before cs = cs.map Char.toLower := by
  induction cs generalizing before with
  | nil => rfl
  | cons c rest ih =>
    obtain ⟨hsmall, hrest⟩ := List.forall_mem_cons.mp h
    have hsigma : (c == 'Σ') = false := beq_eq_false_iff_ne.mpr fun hc => by
      rw [hc] at hsmall
      exact absurd hsmall (by decide)
    rw [lowerFrom, hsigma, if_neg Bool.false_ne_true, lowerChar, if_pos hsmall, ih hrest]
    rfl

theorem toList_lower_of_small {s : String} (h : ∀ c ∈ s.toList, c.toNat < 0x80) :
    (lower s).toList = s.toList.map Char.toLower := by
  rw [lower, String.toList_ofList, lowerFrom_of_small h]

/-- A text of small characters without capitals is in lower case. -/
theorem lower_eq_self {s : String} (h : ∀ c ∈ s.toList, c.toNat < 0x80 ∧ c.toLower = c) : lower s = s := by
  refine String.toList_inj.mp ?_
  rw [toList_lower_of_small fun c hc => (h c hc).1]
  exact (List.map_congr_left fun c hc => (h c hc).2).trans (List.map_id' _)

theorem hexDigit_small : ∀ d < 16, (hexDigit d).toNat < 0x80 ∧ (hexDigit d).toLower = hexDigit d := by
  decide

theorem hexPadded_mod (width n : Nat) : hexPadded width (n % 16 ^ width) = hexPadded width n := by
  refine String.toList_inj.mp ?_
  induction width generalizing n with
  | zero => rfl
  | succ width ih =>
    rw [hexPadded_succ, hexPadded_succ, Nat.pow_succ, Nat.mul_comm, Nat.mod_mul_right_div_self, ih,
      Nat.mod_mul_right_mod]

/-- Numbers are written alike in a width iff their lowest digits are the same. -/
theorem hexPadded_eq_iff {width m n : Nat} :
    hexPadded width m = hexPadded width n ↔ m % 16 ^ width = n % 16 ^ width := by
  refine ⟨fun h => ?_, fun h => by rw [← hexPadded_mod, h, hexPadded_mod]⟩
  have hpos : 0 < 16 ^ width := Nat.pow_pos (by decide)
  rw [← hexPadded_mod width m, ← hexPadded_mod width n] at h
  rw [← hexNumber_hexPadded (Nat.mod_lt m hpos), h, hexNumber_hexPadded (Nat.mod_lt n hpos)]

end Text

namespace IdSupply

/-- How many ids are drawn until they repeat. -/
def period : Nat := 16 ^ 12

theorem idOf_eq_iff {m n : Nat} : idOf m = idOf n ↔ m % period = n % period :=
  (String.append_right_inj _).trans Text.hexPadded_eq_iff

/-- Drawn ids are in lower case. -/
theorem lower_idOf (serial : Nat) : Text.lower (idOf serial) = idOf serial := by
  have hid : (idOf serial).toList = "00000000-0000-4000-8000-".toList ++ (Text.hexPadded 12 serial).toList :=
    String.toList_append
  have hfront : ("00000000-0000-4000-8000-".toList.all fun c => c.toNat < 0x80 && c.toLower == c) = true := by
    decide +kernel
  refine Text.lower_eq_self fun c hc => ?_
  rw [hid, List.mem_append] at hc
  rcases hc with hc | hc
  · simpa using List.all_eq_true.mp hfront c hc
  · rw [Text.hexPadded, String.toList_ofList, List.mem_map] at hc
    obtain ⟨i, -, rfl⟩ := hc
    exact Text.hexDigit_small _ (Nat.mod_lt _ (by decide))

/-- The next ids of a supply. -/
def next (drawn count : Nat) : List String :=
  (List.range count).map fun i => idOf (drawn + 1 + i)

theorem next_succ (drawn count : Nat) : next drawn (count + 1) = idOf (drawn + 1) :: next (drawn + 1) count := by
  rw [next, List.range_succ_eq_map, List.map_cons, List.map_map, next]
  refine congrArg₂ List.cons rfl (List.map_congr_left fun i _ => congrArg idOf ?_)
  omega

theorem map_lower_next (drawn count : Nat) : (next drawn count).map Text.lower = next drawn count := by
  rw [next, List.map_map]
  exact List.map_congr_left fun i _ => lower_idOf _

/-- The next ids are distinct unless there are more of them than the period. -/
theorem nodup_next_iff {drawn count : Nat} : (next drawn count).Nodup ↔ count ≤ period := by
  constructor
  · intro h
    by_contra hmore
    have hrepeat : idOf (drawn + 1 + 0) = idOf (drawn + 1 + period) := idOf_eq_iff.mpr (by simp)
    have hsame := List.inj_on_of_nodup_map h (List.mem_range.mpr (by omega)) (List.mem_range.mpr (by omega)) hrepeat
    exact absurd hsame (by decide)
  · intro hfew
    refine List.Nodup.map_on (fun i hi j hj hid => ?_) List.nodup_range
    have hi := List.mem_range.mp hi
    have hj := List.mem_range.mp hj
    have hmod : i % period = j % period := Nat.ModEq.add_left_cancel rfl (idOf_eq_iff.mp hid)
    rwa [Nat.mod_eq_of_lt (by omega), Nat.mod_eq_of_lt (by omega)] at hmod

end IdSupply

namespace Chain

/-! ## The ids of blocks -/

/-- The id that an element of a stored chain gives to its block, if it has a known type; an empty one is none. -/
def givenId? : Value → Option (Option String)
  | .record item =>
    (kindOf? (field "Type" "type" item)).map fun _ => (idOf? (field "Id" "id" item)).filter (· ≠ "")
  | _ => none

/-- The ids that blocks get: the given ones, and where none is given the next one of a supply. -/
def idsFrom : Nat → List (Option String) → List String
  | _, [] => []
  | drawn, some id :: rest => id :: idsFrom drawn rest
  | drawn, none :: rest => IdSupply.idOf (drawn + 1) :: idsFrom (drawn + 1) rest

theorem orDraw_eq (given : Option String) (supply : IdSupply) :
    supply.orDraw given =
      match given.filter (· ≠ "") with
      | some id => (id, supply)
      | none => supply.draw := by
  cases given with
  | none => rfl
  | some id => by_cases hempty : id = "" <;> simp [IdSupply.orDraw, Option.filter_some, hempty]

/-- An element makes no block, or one whose id it gives, or one whose id is drawn. -/
theorem readElement_cases (supply : IdSupply) (v : Value) :
    (givenId? v = none ∧ readElement supply v = none) ∨
      ∃ given b supply', givenId? v = some given ∧ readElement supply v = some (b, supply') ∧
        (given = some b.id ∧ supply' = supply ∨
          given = none ∧ b.id = IdSupply.idOf (supply.drawn + 1) ∧ supply' = ⟨supply.drawn + 1⟩) := by
  cases v with
  | record item =>
    simp only [givenId?, readElement]
    cases kindOf? (field "Type" "type" item) with
    | none => exact .inl ⟨rfl, rfl⟩
    | some kind =>
      refine .inr ⟨_, _, _, rfl, rfl, ?_⟩
      rw [orDraw_eq]
      cases (idOf? (field "Id" "id" item)).filter (· ≠ "") with
      | some id => exact .inl ⟨rfl, rfl⟩
      | none => exact .inr ⟨rfl, rfl, rfl⟩
  | _ => exact .inl ⟨rfl, rfl⟩

/-- The blocks of a stored chain have the ids that its elements give, and drawn ones where none is given. -/
theorem ids_readElements (supply : IdSupply) (vs : List Value) :
    (readElements supply vs).1.map Block.id = idsFrom supply.drawn (vs.filterMap givenId?) := by
  induction vs generalizing supply with
  | nil => rfl
  | cons v rest ih =>
    rcases readElement_cases supply v with ⟨hgiven, hread⟩ | ⟨given, b, supply', hgiven, hread, hid⟩
    · rw [readElements, hread, List.filterMap_cons_none hgiven]
      exact ih supply
    · rw [readElements, hread, List.filterMap_cons_some hgiven]
      dsimp only
      rw [List.map_cons, ih supply']
      rcases hid with ⟨rfl, rfl⟩ | ⟨rfl, hid, rfl⟩
      · rfl
      · rw [hid, idsFrom]

/-- The ids of blocks are the given ones and the next ones of the supply, one for each block without one. -/
theorem idsFrom_perm (drawn : Nat) (given : List (Option String)) :
    (idsFrom drawn given).Perm (given.reduceOption ++ IdSupply.next drawn (given.count none)) := by
  induction given generalizing drawn with
  | nil => exact .refl _
  | cons g rest ih =>
    cases g with
    | some id =>
      rw [idsFrom, List.reduceOption_cons_of_some, List.count_cons_of_ne (by simp)]
      exact (ih drawn).cons id
    | none =>
      rw [idsFrom, List.reduceOption_cons_of_none, List.count_cons_self, IdSupply.next_succ]
      exact ((ih (drawn + 1)).cons _).trans List.perm_middle.symm

/-- Blocks are told apart by their ids, in whatever case these are written. -/
def AreToldApart (blocks : List Block) : Prop :=
  (blocks.map fun b => Text.lower b.id).Nodup

/-- Given ids differ from each other and from the ids that are drawn beside them, of which there are not too many. -/
structure AreGivenApart (drawn : Nat) (given : List (Option String)) : Prop where
  among : (given.reduceOption.map Text.lower).Nodup
  few : given.count none ≤ IdSupply.period
  apart : ∀ id ∈ given.reduceOption, Text.lower id ∉ IdSupply.next drawn (given.count none)

/-- The blocks of a stored chain are told apart iff the ids that it gives are apart from each other and from those
that are drawn. -/
theorem areToldApart_iff (supply : IdSupply) (vs : List Value) :
    AreToldApart (readElements supply vs).1 ↔ AreGivenApart supply.drawn (vs.filterMap givenId?) := by
  have hids : (readElements supply vs).1.map (fun b => Text.lower b.id) =
      (idsFrom supply.drawn (vs.filterMap givenId?)).map Text.lower := by
    rw [← ids_readElements, List.map_map]
    rfl
  generalize vs.filterMap givenId? = given at hids ⊢
  have hdrawn : (IdSupply.next supply.drawn (given.count none)).map Text.lower =
      IdSupply.next supply.drawn (given.count none) := IdSupply.map_lower_next _ _
  rw [AreToldApart, hids, ((idsFrom_perm supply.drawn given).map Text.lower).nodup_iff, List.map_append, hdrawn,
    List.nodup_append', IdSupply.nodup_next_iff]
  constructor
  · rintro ⟨hgiven, hfew, hapart⟩
    exact ⟨hgiven, hfew, fun id hid => hapart (List.mem_map_of_mem hid)⟩
  · rintro ⟨hgiven, hfew, hapart⟩
    refine ⟨hgiven, hfew, fun _ hid => ?_⟩
    obtain ⟨id, hgivenId, rfl⟩ := List.mem_map.mp hid
    exact hapart id hgivenId

end Chain

end Deskhand
