import Deskhand.Clock
import Mathlib

/-!
# Ratios beyond every finite double

The nearest double to a ratio is infinite when the ratio reaches the middle between the greatest finite double and the
power of two after it, since that middle is rounded up. A ratio far below has an exponent that leaves room for any
mantissa (`isFinite_of_small`); a large one has exactly 53 bits at its exponent (`exponentOf_spec`), so that only one
exponent is left at which rounding decides. Main statements:

* `isFinite_ofBits`: bits below those of infinity stand for finite doubles;
* `le_roundDiv_iff`: where a quotient is rounded up to an even number;
* `isFinite_nearest_iff`: the ratios that are rounded to finite doubles;
* `ofRatio?_eq_none_iff`: the ratios that have no double.
-/

namespace Deskhand

namespace Binary

open Float.Model (Format)
open Float.Model.UnpackedFloat (unpack pack unpackExponent isNaNBits pack_unpack)

/-! ## Finite doubles -/

/-- Bits stand for a finite double unless their exponent is all ones. -/
theorem isFinite_unpack (b : BitVec Format.binary64.numBits) :
    (unpack Format.binary64 b).isFinite = true ↔ unpackExponent b ≠ (-1#_) := by
  rw [unpack]
  dsimp only
  split
  · next h =>
    rw [← not_iff_not, Bool.not_eq_true, not_not, iff_true_right h]
    split <;> rfl
  · next h =>
    refine iff_of_true ?_ h
    split
    · split <;> rfl
    · rfl

/-- The exponent of bits below those of infinity is not all ones. -/
theorem exponent_of_lt {b : BitVec Format.binary64.numBits} (h : b.toNat < infinityBits) :
    unpackExponent b ≠ (-1#_) := by
  intro hones
  have hexponent := congrArg BitVec.toNat hones
  rw [infinityBits] at h
  simp [unpackExponent, BitVec.extractLsb_toNat, Nat.shiftRight_eq_div_pow] at hexponent
  omega

/-- Bits below those of infinity are kept, being those of a number. -/
theorem pack_unpack_of_lt {b : BitVec Format.binary64.numBits} (h : b.toNat < infinityBits) :
    pack Format.binary64 (unpack Format.binary64 b) = b := by
  have hexponent := exponent_of_lt h
  rw [pack_unpack, if_neg (by simpa [isNaNBits] using fun hones => absurd hones hexponent)]

/-- A double is finite iff its magnitude is below that of infinity. -/
theorem isFinite_ofBits {m : Nat} (h : m ≤ infinityBits) :
    (Float.ofBits (UInt64.ofNat m)).isFinite = true ↔ m < infinityBits := by
  constructor
  · intro hfinite
    refine Nat.lt_of_le_of_ne h ?_
    rintro rfl
    exact absurd hfinite (by decide +kernel)
  · intro hlt
    have hbits : (UInt64.ofNat m).toBitVec.toNat < infinityBits := by
      rwa [UInt64.toNat_toBitVec, UInt64.toNat_ofNat_of_lt' (Nat.lt_trans hlt (by decide))]
    refine (isFinite_unpack _).mpr ?_
    exact fun hones => exponent_of_lt hbits (pack_unpack_of_lt hbits ▸ hones)

/-! ## Rounding -/

/-- A quotient is rounded to an even number from half below it on. -/
theorem le_roundDiv_iff {num den m : Nat} (hden : 0 < den) (hm : 0 < m) (heven : m % 2 = 0) :
    m ≤ roundDiv num den ↔ (2 * m - 1) * den ≤ 2 * num := by
  have hnum := Nat.div_add_mod num den
  have hrest := Nat.mod_lt num hden
  rw [roundDiv]
  generalize num / den = quotient at hnum
  generalize num % den = rest at hnum hrest
  obtain ⟨k, rfl⟩ : ∃ k, m = k + 1 := ⟨m - 1, by omega⟩
  have htwice : (2 * (k + 1) - 1) * den = 2 * (den * k) + den := by
    rw [show 2 * (k + 1) - 1 = 2 * k + 1 from by omega]
    ring
  rw [htwice, ← hnum]
  rcases Nat.lt_trichotomy quotient k with hlt | rfl | hgt
  · have hle : den * (quotient + 1) ≤ den * k := Nat.mul_le_mul_left den hlt
    rw [Nat.mul_succ] at hle
    split <;> omega
  · have hodd : quotient % 2 = 1 := by omega
    simp only [hodd, beq_self_eq_true, Bool.and_true, Bool.or_eq_true, decide_eq_true_eq, beq_iff_eq]
    split <;> omega
  · have hle : den * (k + 1) ≤ den * quotient := Nat.mul_le_mul_left den hgt
    rw [Nat.mul_succ] at hle
    split <;> omega

theorem roundDiv_le {num den m : Nat} (h : num < den * m) : roundDiv num den ≤ m := by
  have hquotient : num / den < m := Nat.div_lt_of_lt_mul h
  rw [roundDiv]
  split <;> omega

/-- The exponent at which a ratio is rounded is told by the sizes of its parts to within one. -/
theorem exponentOf_bounds (num den : Nat) :
    let q := (Nat.log2 num : Int) - Nat.log2 den - 52
    q - 1 ≤ exponentOf num den ∧ exponentOf num den ≤ max q (-1074) := by
  intro q
  have hsmall : ∀ small : Bool, q - 1 ≤ (if small then q - 1 else q) ∧ (if small then q - 1 else q) ≤ q := by
    intro small
    cases small <;> simp
  rw [exponentOf]
  exact ⟨Int.le_trans (hsmall _).1 (Int.le_max_left _ _), max_le_max_right _ (hsmall _).2⟩

/-- A ratio has no more than 54 bits at the exponent at which it is rounded. -/
theorem scaled_le (num : Nat) {den : Nat} (hden : 0 < den) : scaled num den (exponentOf num den) ≤ 2 ^ 54 := by
  have hq := (exponentOf_bounds num den).1
  have hnum : num < 2 ^ (Nat.log2 num + 1) := Nat.lt_log2_self
  have hden' : 2 ^ Nat.log2 den ≤ den := Nat.log2_self_le hden.ne'
  generalize exponentOf num den = q at hq
  rw [scaled]
  split
  · next hpos =>
    obtain ⟨k, rfl⟩ := Int.eq_ofNat_of_zero_le hpos
    refine roundDiv_le ?_
    calc num < 2 ^ (Nat.log2 num + 1) := hnum
      _ ≤ 2 ^ (Nat.log2 den + k + 54) := Nat.pow_le_pow_right (by decide) (by omega)
      _ = 2 ^ Nat.log2 den * 2 ^ k * 2 ^ 54 := by ring
      _ ≤ den * 2 ^ k * 2 ^ 54 := by gcongr
  · next hneg =>
    obtain ⟨k, rfl⟩ : ∃ k : Nat, q = -k := ⟨(-q).toNat, by omega⟩
    refine roundDiv_le ?_
    rw [Int.neg_neg, Int.toNat_natCast]
    calc num * 2 ^ k < 2 ^ (Nat.log2 num + 1) * 2 ^ k := by gcongr
      _ = 2 ^ (Nat.log2 num + 1 + k) := by ring
      _ ≤ 2 ^ (Nat.log2 den + 54) := Nat.pow_le_pow_right (by decide) (by omega)
      _ = 2 ^ Nat.log2 den * 2 ^ 54 := by ring
      _ ≤ den * 2 ^ 54 := by gcongr

/-- A large ratio has 53 bits at the exponent at which it is rounded. -/
theorem exponentOf_spec {num den : Nat} (hden : 0 < den) (h : den * 2 ^ 53 ≤ num) :
    ∃ k : Nat, exponentOf num den = k ∧ den * 2 ^ (52 + k) ≤ num ∧ num < den * 2 ^ (53 + k) := by
  have hpos : 0 < num := Nat.lt_of_lt_of_le (by positivity) h
  have hnum := Nat.log2_self_le hpos.ne'
  have hnum' : num < 2 ^ (Nat.log2 num + 1) := Nat.lt_log2_self
  have hden' := Nat.log2_self_le hden.ne'
  have hden'' : den < 2 ^ (Nat.log2 den + 1) := Nat.lt_log2_self
  have hlog : Nat.log2 den + 53 ≤ Nat.log2 num := by
    refine (Nat.le_log2 hpos.ne').mpr (Nat.le_trans ?_ h)
    rw [Nat.pow_add]
    gcongr
  obtain ⟨j, hj⟩ := Nat.exists_eq_add_of_le hlog
  rw [hj] at hnum hnum'
  have hq : (Nat.log2 num : Int) - Nat.log2 den - 52 = (j + 1 : Nat) := by omega
  rw [exponentOf, hq]
  simp only [Int.natCast_nonneg, if_true, Int.toNat_natCast, Nat.pow_eq]
  by_cases hsmall : num < den * 2 ^ (52 + (j + 1))
  · refine ⟨j, ?_, ?_, ?_⟩
    · rw [decide_eq_true hsmall, if_pos rfl]
      omega
    · calc den * 2 ^ (52 + j) ≤ 2 ^ (Nat.log2 den + 1) * 2 ^ (52 + j) := by gcongr
        _ = 2 ^ (Nat.log2 den + 53 + j) := by ring
        _ ≤ num := hnum
    · rwa [show 52 + (j + 1) = 53 + j from by omega] at hsmall
  · refine ⟨j + 1, ?_, Nat.le_of_not_lt hsmall, ?_⟩
    · rw [decide_eq_false hsmall, if_neg Bool.false_ne_true]
      omega
    · calc num < 2 ^ (Nat.log2 den + 53 + j + 1) := hnum'
        _ = 2 ^ Nat.log2 den * 2 ^ (53 + (j + 1)) := by ring
        _ ≤ den * 2 ^ (53 + (j + 1)) := by gcongr

/-! ## Overflow -/

/-- Rounding stays finite if the exponent and what is rounded at it are below infinity. -/
theorem isFinite_nearest (num den : Nat) :
    (nearest false num den).isFinite = true ↔
      num = 0 ∨ (exponentOf num den + 1074).toNat * 2 ^ 52 + scaled num den (exponentOf num den) < 2047 * 2 ^ 52 := by
  have hinfinity : infinityBits = 2047 * 2 ^ 52 := by decide
  rw [nearest]
  simp only [Bool.false_eq_true, if_false, Nat.zero_add, Nat.pow_eq]
  split
  · next hzero => exact iff_of_true (by decide +kernel) (.inl hzero)
  · next hzero =>
    rw [isFinite_ofBits (Nat.min_le_right _ _), or_iff_right hzero, hinfinity]
    omega

/-- A ratio below the 1020th power of two is rounded to a finite double. -/
theorem isFinite_of_small {num den : Nat} (hden : 0 < den) (h : num < den * 2 ^ 1020) :
    (nearest false num den).isFinite = true := by
  rw [isFinite_nearest]
  by_cases hzero : num = 0
  · exact .inl hzero
  have hlog : Nat.log2 num < Nat.log2 den + 1021 := by
    have hden' : den < 2 ^ (Nat.log2 den + 1) := Nat.lt_log2_self
    refine (Nat.log2_lt hzero).mpr (Nat.lt_of_lt_of_le h ?_)
    calc den * 2 ^ 1020 ≤ 2 ^ (Nat.log2 den + 1) * 2 ^ 1020 := by gcongr
      _ = 2 ^ (Nat.log2 den + 1021) := by rw [← Nat.pow_add, Nat.add_assoc]
  clear h
  have hq := (exponentOf_bounds num den).2
  have hscaled := scaled_le num hden
  right
  omega

/-- The ratios that are rounded to finite doubles: those below the middle between the greatest finite double and the
power of two after it. -/
theorem isFinite_nearest_iff {num den : Nat} (hden : 0 < den) :
    (nearest false num den).isFinite = true ↔ num < den * (2 ^ 1024 - 2 ^ 970) := by
  -- the powers of two are far beyond what is computed with, so they are kept as multiples of this one
  obtain ⟨base, hbase⟩ : ∃ base : Nat, base = 970 := ⟨_, rfl⟩
  have h1020 : 2 ^ 1020 = 2 ^ 50 * 2 ^ base := by rw [hbase, ← Nat.pow_add]
  have hlimit : 2 ^ 1024 - 2 ^ 970 = (2 ^ 54 - 1) * 2 ^ base := by
    rw [hbase, Nat.sub_mul, Nat.one_mul, ← Nat.pow_add]
  rw [hlimit]
  by_cases hsmall : num < den * 2 ^ 1020
  · refine iff_of_true (isFinite_of_small hden hsmall) (Nat.lt_of_lt_of_le hsmall ?_)
    rw [h1020]
    gcongr
    decide
  have hlarge : den * 2 ^ 53 ≤ num := by
    calc den * 2 ^ 53 ≤ den * 2 ^ 1020 := by gcongr <;> omega
      _ ≤ num := Nat.le_of_not_lt hsmall
  clear hsmall h1020 hlimit
  obtain ⟨k, hk, hlow, hhigh⟩ := exponentOf_spec hden hlarge
  have hnum : num ≠ 0 := by
    have hpos : 0 < den * 2 ^ 53 := by positivity
    omega
  have hstep : 0 < den * 2 ^ k := by positivity
  have hscaled : scaled num den k = roundDiv num (den * 2 ^ k) := by
    rw [scaled, if_pos (Int.natCast_nonneg k), Int.toNat_natCast, Nat.pow_eq]
  have hmost : roundDiv num (den * 2 ^ k) ≤ 2 ^ 53 :=
    roundDiv_le (by rwa [Nat.mul_assoc, ← Nat.pow_add, Nat.add_comm k])
  have hleast : 2 ^ 52 ≤ roundDiv num (den * 2 ^ k) := by
    rw [le_roundDiv_iff hstep (by decide) (by decide)]
    rw [Nat.pow_add, Nat.mul_left_comm] at hlow
    omega
  rw [isFinite_nearest, or_iff_right hnum, hk, hscaled]
  rcases Nat.lt_trichotomy k (base + 1) with hlt | rfl | hgt
  · refine iff_of_true (by omega) (Nat.lt_of_lt_of_le hhigh ?_)
    calc den * 2 ^ (53 + k) ≤ den * 2 ^ (53 + base) := by gcongr <;> omega
      _ = den * (2 ^ 53 * 2 ^ base) := by rw [Nat.pow_add]
      _ ≤ den * ((2 ^ 54 - 1) * 2 ^ base) := by gcongr; decide
  · have hround : 2 ^ 53 ≤ roundDiv num (den * 2 ^ (base + 1)) ↔
        2 * (den * ((2 ^ 54 - 1) * 2 ^ base)) ≤ 2 * num := by
      rw [le_roundDiv_iff hstep (by decide) (by decide)]
      exact iff_of_eq (congrArg (· ≤ 2 * num) (by ring))
    rw [Nat.mul_le_mul_left_iff (by decide)] at hround
    rw [← Nat.not_le (a := den * _), ← hround]
    omega
  · refine iff_of_false (by omega) (Nat.not_lt.mpr (Nat.le_trans ?_ hlow))
    calc den * ((2 ^ 54 - 1) * 2 ^ base) ≤ den * (2 ^ 54 * 2 ^ base) := by gcongr; decide
      _ = den * 2 ^ (52 + (base + 2)) := by rw [← Nat.pow_add]; congr 2; omega
      _ ≤ den * 2 ^ (52 + k) := by gcongr <;> omega

/-- A ratio has no double iff it is at least the middle between the greatest finite double and the power of two after
it. -/
theorem ofRatio?_eq_none_iff {num den : Nat} (hden : 0 < den) :
    ofRatio? num den = none ↔ den * (2 ^ 1024 - 2 ^ 970) ≤ num := by
  rw [ofRatio?, ite_eq_right_iff, ← Nat.not_lt, ← isFinite_nearest_iff hden]
  simp

end Binary

end Deskhand
