import Deskhand.Calendar.Date
import Mathlib.Order.Monotone.Basic
import Mathlib.Tactic.ByContra

/-!
# Days and dates

The date of a day is a date of the calendar, and the day of that date is the day (`toDays_ofDays`,
`isValid_ofDays`). Later days have later dates (`ofDays_lt`).
-/

namespace Deskhand.Date

/-! ## Years -/

/-- The number of days of a year. -/
def daysInYear (year : Nat) : Nat :=
  if isLeap year then 366 else 365

theorem daysBeforeYear_succ {year : Nat} (h : 1 ≤ year) :
    daysBeforeYear (year + 1) = daysBeforeYear year + daysInYear year := by
  obtain ⟨y, rfl⟩ : ∃ y, year = y + 1 := ⟨year - 1, by omega⟩
  have hcentury : (y + 1) % 100 = 0 → (y + 1) % 4 = 0 := by omega
  have hfourth : (y + 1) % 400 = 0 → (y + 1) % 100 = 0 := by omega
  have hfewer : y / 100 ≤ y / 4 := by omega
  simp only [daysBeforeYear, daysInYear, isLeap, Bool.and_eq_true, Bool.or_eq_true, beq_iff_eq, bne_iff_ne,
    Nat.add_sub_cancel, Nat.succ_div, Nat.dvd_iff_mod_eq_zero]
  -- the three quotients grow by one where the year is a multiple; only that matters from here
  generalize (y + 1) % 400 = m at *
  generalize (y + 1) % 100 = l at *
  generalize (y + 1) % 4 = k at *
  generalize y / 400 = c at *
  generalize y / 100 = b at *
  generalize y / 4 = a at *
  repeat' split
  all_goals omega

theorem daysBeforeYear_mono : Monotone daysBeforeYear :=
  monotone_nat_of_le_succ fun year => by
    rcases Nat.eq_zero_or_pos year with rfl | hpos
    · exact Nat.le_refl _
    · rw [daysBeforeYear_succ hpos]
      exact Nat.le_add_right _ _

/-- What holds up to some number holds of as many numbers of a range as there are. -/
theorem lt_length_filter_range {p : Nat → Bool} (hp : ∀ i j, i ≤ j → p j = true → p i = true) (n : Nat) :
    ∀ i < n, p i = true ↔ i < ((List.range n).filter p).length := by
  induction n with
  | zero => simp
  | succ n ih =>
    intro i hi
    rw [List.range_succ, List.filter_append, List.length_append]
    have hle : ((List.range n).filter p).length ≤ n := by
      simpa using List.length_filter_le p (List.range n)
    by_cases hn : p n = true
    · -- what holds of the last number holds of all before it
      have hall : (List.range n).filter p = List.range n :=
        List.filter_eq_self.mpr fun j hj => hp j n (Nat.le_of_lt (List.mem_range.mp hj)) hn
      simpa [hall, hn] using ⟨fun _ => by omega, fun _ => hp i n (by omega) hn⟩
    · rcases Nat.lt_or_ge i n with hlt | hge
      · simpa [hn] using ih i hlt
      · obtain rfl : i = n := by omega
        simpa [hn] using hle

/-- A year that has begun by a day, which is at most as many years ahead as there are looked through. -/
theorem guess_le (days : Nat) :
    daysBeforeYear (days / 366 + 1) ≤ days ∧
      days < daysBeforeYear (days / 366 + 1 + (days / 100000 + 1) + 1) := by
  simp only [daysBeforeYear]
  omega

/-- The year of a day: the last one that has begun by then. -/
theorem year_ofDays (days : Nat) :
    1 ≤ (ofDays days).year ∧ daysBeforeYear (ofDays days).year ≤ days ∧
      days < daysBeforeYear ((ofDays days).year + 1) := by
  obtain ⟨hfirst, hlast⟩ := guess_le days
  have hmono : ∀ i j, i ≤ j → decide (daysBeforeYear (days / 366 + 1 + j + 1) ≤ days) = true →
      decide (daysBeforeYear (days / 366 + 1 + i + 1) ≤ days) = true := fun i j hij hj =>
    decide_eq_true ((daysBeforeYear_mono (by omega)).trans (of_decide_eq_true hj))
  have hiff := lt_length_filter_range hmono (days / 100000 + 2)
  have hyear : (ofDays days).year = days / 366 + 1 + ((List.range (days / 100000 + 2)).filter
      fun i => decide (daysBeforeYear (days / 366 + 1 + i + 1) ≤ days)).length := rfl
  rw [hyear]
  generalize ((List.range (days / 100000 + 2)).filter _).length = later at hiff
  simp only [decide_eq_true_eq] at hiff
  have hlater : later ≤ days / 100000 + 1 := by
    by_contra hmore
    have hbegun := (hiff (days / 100000 + 1) (by omega)).mpr (by omega)
    omega
  refine ⟨by omega, ?_, ?_⟩
  · rcases Nat.eq_zero_or_pos later with hzero | hpos
    · simpa [hzero] using hfirst
    · have hbegun := (hiff (later - 1) (by omega)).mpr (by omega)
      rwa [show days / 366 + 1 + (later - 1) + 1 = days / 366 + 1 + later by omega] at hbegun
  · exact Nat.not_le.mp fun hbegun => Nat.lt_irrefl later ((hiff later (by omega)).mp hbegun)

/-! ## Months -/

theorem daysBeforeMonth_succ (year : Nat) {month : Nat} (h : 1 ≤ month) :
    daysBeforeMonth year (month + 1) = daysBeforeMonth year month + daysInMonth year month := by
  obtain ⟨m, rfl⟩ : ∃ m, month = m + 1 := ⟨month - 1, by omega⟩
  simp [daysBeforeMonth, List.range_succ]

theorem daysBeforeMonth_thirteen (year : Nat) : daysBeforeMonth year 13 = daysInYear year := by
  simp only [daysBeforeMonth, daysInYear]
  cases hleap : isLeap year <;> simp [List.range_succ, daysInMonth, hleap]

theorem daysBeforeMonth_mono (year : Nat) {a b : Nat} (ha : 1 ≤ a) (h : a ≤ b) :
    daysBeforeMonth year a ≤ daysBeforeMonth year b := by
  induction h with
  | refl => exact Nat.le_refl _
  | @step b hb ih =>
    rw [Nat.succ_eq_add_one, daysBeforeMonth_succ year (Nat.le_trans ha hb)]
    exact Nat.le_trans ih (Nat.le_add_right _ _)

/-- The month and the day of a day of the year, where what is left of the year begins with a month. -/
theorem monthOf_spec (year fuel : Nat) {month n : Nat} (hmonth : 1 ≤ month)
    (h : daysBeforeMonth year month + n < daysBeforeMonth year (month + fuel + 1)) :
    month ≤ (monthOf year fuel month n).1 ∧ (monthOf year fuel month n).1 ≤ month + fuel ∧
      1 ≤ (monthOf year fuel month n).2 ∧
      (monthOf year fuel month n).2 ≤ daysInMonth year (monthOf year fuel month n).1 ∧
      daysBeforeMonth year (monthOf year fuel month n).1 + ((monthOf year fuel month n).2 - 1) =
        daysBeforeMonth year month + n := by
  induction fuel generalizing month n with
  | zero =>
    rw [daysBeforeMonth_succ year (by omega)] at h
    simp only [monthOf, Nat.add_zero] at *
    omega
  | succ fuel ih =>
    rw [monthOf]
    split
    · dsimp only
      omega
    · next hsize =>
      have hnext := daysBeforeMonth_succ year hmonth
      have hrest := ih (n := n - daysInMonth year month) (Nat.le_add_left 1 month)
        (by rw [show month + 1 + fuel + 1 = month + (fuel + 1) + 1 by omega]; omega)
      omega

/-! ## Dates -/

/-- The date of a day, month by month. -/
theorem ofDays_spec (days : Nat) :
    daysBeforeYear (ofDays days).year ≤ days ∧ days < daysBeforeYear ((ofDays days).year + 1) ∧
      1 ≤ (ofDays days).year ∧ 1 ≤ (ofDays days).month ∧ (ofDays days).month ≤ 12 ∧
      1 ≤ (ofDays days).day ∧ (ofDays days).day ≤ daysInMonth (ofDays days).year (ofDays days).month ∧
      daysBeforeMonth (ofDays days).year (ofDays days).month + ((ofDays days).day - 1) =
        days - daysBeforeYear (ofDays days).year := by
  obtain ⟨hone, hbegun, hnext⟩ := year_ofDays days
  have hmonths := monthOf_spec (ofDays days).year 11
    (n := days - daysBeforeYear (ofDays days).year) (Nat.le_refl 1) (by
      rw [daysBeforeMonth_thirteen]
      rw [daysBeforeYear_succ hone] at hnext
      have hjanuary : daysBeforeMonth (ofDays days).year 1 = 0 := rfl
      omega)
  have hjanuary : daysBeforeMonth (ofDays days).year 1 = 0 := rfl
  rw [hjanuary, Nat.zero_add] at hmonths
  obtain ⟨hmonth, hlast, hday, hsize, hsum⟩ := hmonths
  exact ⟨hbegun, hnext, hone, hmonth, hlast, hday, hsize, hsum⟩

/-- The day of the date of a day is that day. -/
theorem toDays_ofDays (days : Nat) : (ofDays days).toDays = days := by
  obtain ⟨hbegun, -, -, -, -, -, -, hsum⟩ := ofDays_spec days
  rw [toDays, Nat.add_assoc, hsum]
  omega

theorem year_lt_of_days {days : Nat} (h : days < dayLimit) : (ofDays days).year < 10000 := by
  by_contra hge
  have hmono := daysBeforeYear_mono (Nat.not_lt.mp hge)
  obtain ⟨hbegun, -⟩ := ofDays_spec days
  rw [dayLimit] at h
  omega

/-- The date of a day before the year 10000 is a date of the calendar. -/
theorem isValid_ofDays {days : Nat} (h : days < dayLimit) : (ofDays days).isValid = true := by
  obtain ⟨-, -, hyear, hmonth, hmonth', hday, hday', -⟩ := ofDays_spec days
  have hlimit := year_lt_of_days h
  simp only [isValid, Bool.and_eq_true, decide_eq_true_eq]
  omega

theorem daysInMonth_le (year month : Nat) : daysInMonth year month ≤ 31 := by
  unfold daysInMonth
  split
  · split <;> decide
  all_goals decide

/-- Of two days the earlier one has the earlier date. -/
theorem ofDays_lt {a b : Nat} (h : a < b) :
    (ofDays a).year < (ofDays b).year ∨ (ofDays a).year = (ofDays b).year ∧
      ((ofDays a).month < (ofDays b).month ∨ (ofDays a).month = (ofDays b).month ∧
        (ofDays a).day < (ofDays b).day) := by
  obtain ⟨ha, -, -, hamonth, -, haday, -, hasum⟩ := ofDays_spec a
  obtain ⟨hb, hbnext, -, hbmonth, -, -, hbsize, hbsum⟩ := ofDays_spec b
  generalize ofDays a = d at *
  generalize ofDays b = e at *
  rcases Nat.lt_trichotomy d.year e.year with hyear | hyear | hyear
  · exact .inl hyear
  · refine .inr ⟨hyear, ?_⟩
    rw [hyear] at ha hasum
    rcases Nat.lt_trichotomy d.month e.month with hmonth | hmonth | hmonth
    · exact .inl hmonth
    · rw [hmonth] at hasum
      exact .inr ⟨hmonth, by omega⟩
    · -- a later month starts behind the whole of this one
      have hmonths := daysBeforeMonth_mono e.year (by omega) (Nat.succ_le_of_lt hmonth)
      rw [Nat.succ_eq_add_one, daysBeforeMonth_succ e.year hbmonth] at hmonths
      omega
  · have hyears := daysBeforeYear_mono (Nat.succ_le_of_lt hyear)
    rw [Nat.succ_eq_add_one] at hyears
    omega

end Deskhand.Date
