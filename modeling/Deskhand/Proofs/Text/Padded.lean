import Deskhand.Calendar.Iso
import Mathlib.Tactic.IntervalCases

/-!
# Numbers of a fixed width

`Text.digits width n` are the last digits of a number, and a number that fits into a width is written as just
these (`toList_padded`). They are read back as the number (`digits?_digits`), and their order is that of the
numbers (`digits_lt`).
-/

namespace Deskhand.Text

/-- The last `width` digits of a number. -/
def digits : Nat → Nat → List Char
  | 0, _ => []
  | width + 1, n => digits width (n / 10) ++ [Nat.digitChar (n % 10)]

@[simp] theorem length_digits (width n : Nat) : (digits width n).length = width := by
  induction width generalizing n with
  | zero => rfl
  | succ width ih => simp [digits, ih]

theorem digits_zero (width : Nat) : digits width 0 = List.replicate width '0' := by
  induction width with
  | zero => rfl
  | succ width ih => rw [digits, Nat.zero_div, ih, List.replicate_succ']; rfl

/-- A number with zeros in front fills its width with its digits. -/
theorem toList_padded {width n : Nat} (hwidth : 0 < width) (h : n < 10 ^ width) :
    (padded width n).toList = digits width n := by
  simp only [padded, Nat.toString_eq_ofList_toDigits, String.toList_append, String.toList_ofList,
    String.length_ofList]
  induction width generalizing n with
  | zero => omega
  | succ width ih =>
    rcases Nat.lt_or_ge n 10 with hsmall | hlarge
    · rw [Nat.toDigits_of_lt_base hsmall, digits, Nat.div_eq_of_lt hsmall, Nat.mod_eq_of_lt hsmall,
        digits_zero]
      rfl
    · have hpow : 10 ^ (width + 1) = 10 * 10 ^ width := by rw [Nat.pow_succ, Nat.mul_comm]
      have hwidth : 0 < width := Nat.pos_of_ne_zero (by rintro rfl; omega)
      rw [Nat.toDigits_of_base_le (by decide) hlarge, digits, ← ih hwidth (by omega), List.length_append,
        List.length_singleton, Nat.add_sub_add_right, List.append_assoc]

theorem isAsciiDigit_digitChar {n : Nat} (h : n < 10) : isAsciiDigit (Nat.digitChar n) = true := by
  interval_cases n <;> rfl

theorem all_isAsciiDigit_digits (width n : Nat) : (digits width n).all isAsciiDigit = true := by
  induction width generalizing n with
  | zero => rfl
  | succ width ih => simp [digits, ih, isAsciiDigit_digitChar (Nat.mod_lt n (by decide : 0 < 10))]

/-- Digits are read back as their number. -/
theorem foldl_digits {width n : Nat} (h : n < 10 ^ width) :
    (digits width n).foldl (fun acc c => 10 * acc + (c.toNat - 0x30)) 0 = n := by
  induction width generalizing n with
  | zero =>
    rw [Nat.pow_zero] at h
    rw [Nat.lt_one_iff.mp h]
    rfl
  | succ width ih =>
    rw [Nat.pow_succ] at h
    have hchar : (Nat.digitChar (n % 10)).toNat = 48 + n % 10 :=
      Nat.toNat_digitChar_of_lt_ten (Nat.mod_lt n (by decide))
    rw [digits, List.foldl_append, ih (by omega), List.foldl_cons, List.foldl_nil, hchar]
    omega

theorem digits?_digits (width : Nat) {n : Nat} (h : n < 10 ^ width) (rest : List Char) :
    Stamp.digits? width (digits width n ++ rest) = some (n, rest) := by
  simp [Stamp.digits?, foldl_digits h, all_isAsciiDigit_digits]

theorem digitChar_lt {m n : Nat} (hn : n < 10) (h : m < n) : Nat.digitChar m < Nat.digitChar n := by
  interval_cases n <;> interval_cases m <;> decide

/-- Of two numbers of one width the digits of the lesser one come first, whatever follows. -/
theorem digits_lt {width m n : Nat} (hn : n < 10 ^ width) (h : m < n) (cs ds : List Char) :
    digits width m ++ cs < digits width n ++ ds := by
  induction width generalizing m n cs ds with
  | zero => omega
  | succ width ih =>
    rw [Nat.pow_succ] at hn
    rw [digits, digits, List.append_assoc, List.append_assoc]
    rcases Nat.lt_or_ge (m / 10) (n / 10) with hlt | hge
    · exact ih (by omega) hlt _ _
    · have hsame : m / 10 = n / 10 := by omega
      rw [hsame]
      refine List.append_left_lt (List.cons_lt_cons_iff.mpr (.inl ?_))
      exact digitChar_lt (Nat.mod_lt n (by decide)) (by omega)

/-- Fields of digits with a mark behind them are in order if the first one that differs is. -/
theorem digits_cons_lt {width m n : Nat} (hn : n < 10 ^ width) (mark : Char) {cs ds : List Char}
    (h : m < n ∨ m = n ∧ cs < ds) : digits width m ++ mark :: cs < digits width n ++ mark :: ds := by
  obtain hlt | ⟨rfl, hrest⟩ := h
  · exact digits_lt hn hlt _ _
  · exact List.append_left_lt (List.cons_lt_cons_iff.mpr (.inr ⟨rfl, hrest⟩))

end Deskhand.Text
