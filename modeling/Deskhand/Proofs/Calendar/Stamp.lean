import Deskhand.Proofs.Calendar.Date
import Deskhand.Proofs.Text.Padded
import Mathlib.Data.List.TakeWhile
import Mathlib.Data.String.Basic

/-!
# Instants as text

An instant of the calendar is read back from its text to the microsecond (`Stamp.read?_text`), and instants that
are written to the second are in the order of their seconds (`Instant.secondText_lt`).
-/

namespace Deskhand

open Text

/-! ## Parts of an instant -/

/-- A date of the calendar fills ten characters. -/
theorem Date.toList_text {days : Nat} (h : days < Date.dayLimit) :
    (Date.ofDays days).text.toList = digits 4 (Date.ofDays days).year ++
      '-' :: (digits 2 (Date.ofDays days).month ++ '-' :: digits 2 (Date.ofDays days).day) := by
  obtain ⟨-, -, -, -, hmonth, -, hday, -⟩ := Date.ofDays_spec days
  have hsize := Date.daysInMonth_le (Date.ofDays days).year (Date.ofDays days).month
  rw [Date.text]
  simp only [String.toList_append]
  rw [toList_padded (by decide) (Date.year_lt_of_days h), toList_padded (by decide) (by omega),
    toList_padded (by decide) (by omega)]
  simp

/-- A time of day to the second fills eight characters. -/
theorem TimeOfDay.toList_clockText {time : Nat} (h : time < Instant.perDay) :
    (TimeOfDay.clockText time).toList = digits 2 (time / 1000000 / 3600) ++
      ':' :: (digits 2 (time / 1000000 / 60 % 60) ++ ':' :: digits 2 (time / 1000000 % 60)) := by
  rw [Instant.perDay] at h
  rw [TimeOfDay.clockText]
  simp only [String.toList_append]
  rw [toList_padded (by decide) (by omega), toList_padded (by decide) (by omega),
    toList_padded (by decide) (by omega)]
  simp

/-- A fraction of a second is written with six digits, unless it is zero. -/
theorem TimeOfDay.toList_text (time : Nat) : (TimeOfDay.text time).toList = (TimeOfDay.clockText time).toList ++
    if time % 1000000 = 0 then [] else '.' :: digits 6 (time % 1000000) := by
  have hmicro : time % 1000000 < 10 ^ 6 := Nat.mod_lt _ (by decide)
  simp only [TimeOfDay.text, String.toList_append, beq_iff_eq]
  split
  · rfl
  · rw [String.toList_append, toList_padded (by decide) hmicro]
    rfl

namespace Instant

theorem days_lt {t : Instant} (h : t.micros < limit) : t.days < Date.dayLimit :=
  Nat.div_lt_of_lt_mul (by rwa [Nat.mul_comm])

theorem timeOfDay_lt (t : Instant) : t.timeOfDay < perDay :=
  Nat.mod_lt _ (by decide)

theorem ofDay_days (t : Instant) : ofDay t.days t.timeOfDay = t := by
  rw [ofDay, days, timeOfDay, Nat.div_add_mod']

end Instant

/-! ## Reading -/

namespace Stamp

theorem dateLength?_dashed {y a : Nat} {rest : List Char} (h : Nat.digitChar a ≠ 'W') (hlong : 2 < rest.length) :
    dateLength? (digits 4 y ++ '-' :: Nat.digitChar a :: rest) = some 10 := by
  simp [dateLength?, digits, h]
  omega

theorem digitChar_ne_W {a : Nat} (h : a < 10) : Nat.digitChar a ≠ 'W' := by
  interval_cases a <;> decide

/-- A date is read back from its text. -/
theorem readDay?_text {days : Nat} (h : days < Date.dayLimit) :
    readDay? (Date.ofDays days).text.toList = some days := by
  obtain ⟨-, -, -, -, hmonth, -, hday, -⟩ := Date.ofDays_spec days
  have hsize := Date.daysInMonth_le (Date.ofDays days).year (Date.ofDays days).month
  have hvalid : Date.ofNumbers? (Date.ofDays days).year (Date.ofDays days).month (Date.ofDays days).day =
      some (Date.ofDays days) := by
    simp only [Date.ofNumbers?, Date.isValid_ofDays h, if_true]
  have hyear := digits?_digits 4 (Date.year_lt_of_days h)
  have hmonths := digits?_digits 2 (n := (Date.ofDays days).month) (by omega)
  have hdays := digits?_digits 2 (n := (Date.ofDays days).day) (by omega) []
  rw [List.append_nil] at hdays
  rw [Date.toList_text h, readDay?, hyear]
  simp only [Option.bind_eq_bind, Option.bind_some]
  split
  · next hweek =>
    -- no month starts with the mark of a week
    simp [digits, digitChar_ne_W (Nat.mod_lt _ (by decide : 0 < 10))] at hweek
  · simp [hmonths, hdays, hvalid, Date.toDays_ofDays]

/-- A field of a time of day with a colon and more behind it. -/
theorem readFields?_colon {n : Nat} (hn : n < 100) {colons : Option Bool} (hcolons : colons.getD true = true)
    (more : Nat) (before : List Nat) (c : Char) (behind : List Char) :
    readFields? (more + 1) colons before (digits 2 n ++ ':' :: c :: behind) =
      readFields? more (some true) (before ++ [n]) (c :: behind) := by
  rw [readFields?, digits?_digits 2 hn]
  cases colons with
  | none => simp
  | some colons =>
    obtain rfl : colons = true := hcolons
    simp

/-- The last field of a time of day. -/
theorem readFields?_last {n : Nat} (hn : n < 100) (more : Nat) (colons : Option Bool) (before : List Nat) :
    readFields? more colons before (digits 2 n) = some (.ofList (before ++ [n]) 0, true) := by
  have hread := digits?_digits 2 hn []
  rw [List.append_nil] at hread
  rw [readFields?.eq_def]
  dsimp only
  rw [hread]
  rfl

/-- The last field of a time of day with six digits of a fraction. -/
theorem readFields?_fraction {n micro : Nat} (hn : n < 100) (hmicro : micro < 1000000) (more : Nat)
    (before : List Nat) :
    readFields? more (some true) before (digits 2 n ++ '.' :: digits 6 micro) =
      some (.ofList (before ++ [n]) micro, true) := by
  have hread := digits?_digits 6 hmicro []
  rw [List.append_nil] at hread
  have hfraction : readFraction? (digits 6 micro) = some (micro, true) := by
    simp [readFraction?, hread]
  obtain ⟨c, rest, hcons⟩ : ∃ c rest, digits 6 micro = c :: rest := ⟨_, _, rfl⟩
  rw [readFields?.eq_def]
  dsimp only
  rw [digits?_digits 2 hn]
  rw [hcons] at hfraction ⊢
  simp [hfraction]

/-- The fields of a time of day. -/
def Fields.ofTime (time : Nat) : Fields :=
  ⟨time / 1000000 / 3600, time / 1000000 / 60 % 60, time / 1000000 % 60, time % 1000000⟩

theorem Fields.toMicros_ofTime (time : Nat) : (Fields.ofTime time).toMicros = time := by
  simp only [toMicros, ofTime, TimeOfDay.ofFields]
  omega

/-- The fields of a time of day are read back from its text. -/
theorem readFields?_text {time : Nat} (h : time < Instant.perDay) :
    readFields? 2 none [] (TimeOfDay.text time).toList = some (.ofTime time, true) := by
  rw [Instant.perDay] at h
  have hhour : time / 1000000 / 3600 < 100 := by omega
  have hminute : time / 1000000 / 60 % 60 < 100 := by omega
  have hsecond : time / 1000000 % 60 < 100 := by omega
  have hstart : ∀ tail, readFields? 2 none [] ((TimeOfDay.clockText time).toList ++ tail) =
      readFields? 0 (some true) [time / 1000000 / 3600, time / 1000000 / 60 % 60]
        (digits 2 (time / 1000000 % 60) ++ tail) := by
    intro tail
    rw [TimeOfDay.toList_clockText h]
    simp only [List.append_assoc, List.cons_append]
    exact (readFields?_colon hhour rfl 1 [] _ _).trans (readFields?_colon hminute rfl 0 _ _ _)
  rw [TimeOfDay.toList_text, hstart]
  split
  · next hwhole =>
    rw [List.append_nil, readFields?_last hsecond, Fields.ofTime, hwhole]
    rfl
  · exact readFields?_fraction hsecond (Nat.mod_lt _ (by decide)) 0 _

theorem startsOffset_of_mem_digits {width n : Nat} {c : Char} (h : c ∈ digits width n) :
    startsOffset c = false := by
  have hdigit := List.all_eq_true.mp (all_isAsciiDigit_digits width n) c h
  by_contra hstarts
  simp only [startsOffset, Bool.not_eq_false, Bool.or_eq_true, beq_iff_eq] at hstarts
  rcases hstarts with (rfl | rfl) | rfl <;> revert hdigit <;> decide

/-- Nothing in the text of a time of day starts an offset. -/
theorem startsOffset_of_mem_text {time : Nat} (h : time < Instant.perDay) {c : Char}
    (hc : c ∈ (TimeOfDay.text time).toList) : startsOffset c = false := by
  have hparts : (∃ width n, c ∈ digits width n) ∨ c = ':' ∨ c = '.' := by
    rw [TimeOfDay.toList_text, TimeOfDay.toList_clockText h] at hc
    split at hc <;> simp only [List.mem_append, List.mem_cons, List.append_nil] at hc <;> grind
  rcases hparts with ⟨width, n, hdigit⟩ | rfl | rfl
  · exact startsOffset_of_mem_digits hdigit
  · rfl
  · rfl

/-- A time of day is read back from its text. -/
theorem readTime?_text {time : Nat} (h : time < Instant.perDay) :
    readTime? (TimeOfDay.text time).toList = some (time, none) := by
  have htake : (TimeOfDay.text time).toList.takeWhile (!startsOffset ·) = (TimeOfDay.text time).toList :=
    List.takeWhile_eq_self_iff.mpr fun c hc => by simp [startsOffset_of_mem_text h hc]
  have hdrop : (TimeOfDay.text time).toList.dropWhile (!startsOffset ·) = [] :=
    List.dropWhile_eq_nil_iff.mpr fun c hc => by simp [startsOffset_of_mem_text h hc]
  rw [readTime?, htake, hdrop, readFields?_text h]
  rw [Instant.perDay] at h
  have hhour : (Fields.ofTime time).hour < 24 := by
    simp only [Fields.ofTime]
    omega
  have hminute : (Fields.ofTime time).minute < 60 := Nat.mod_lt _ (by decide)
  have hsecond : (Fields.ofTime time).second < 60 := Nat.mod_lt _ (by decide)
  simp [readOffset?, hhour, hminute, hsecond, Fields.toMicros_ofTime]

/-- An instant of the calendar is read back from its text. -/
theorem read?_text {t : Instant} (h : t.micros < Instant.limit) : read? (text ⟨t, none⟩) = some ⟨t, none⟩ := by
  have hdays := Instant.days_lt h
  have hdate : t.date.text.toList.length = 10 := by
    rw [Instant.date, Date.toList_text hdays]
    simp
  have htext : (text ⟨t, none⟩).toList = t.date.text.toList ++ 'T' :: (TimeOfDay.text t.timeOfDay).toList := by
    simp [text, Instant.text]
  have hlength : dateLength? (t.date.text.toList ++ 'T' :: (TimeOfDay.text t.timeOfDay).toList) = some 10 := by
    rw [Instant.date, Date.toList_text hdays, List.append_assoc, List.cons_append]
    exact dateLength?_dashed (digitChar_ne_W (Nat.mod_lt _ (by decide))) (by simp)
  rw [read?, htext]
  dsimp only
  rw [if_neg (by simp only [List.length_append, hdate]; omega), hlength]
  simp only [Option.bind_eq_bind, Option.bind_some, List.take_left' hdate, List.drop_left' hdate]
  rw [Instant.date, readDay?_text hdays, Option.bind_some, readTime?_text t.timeOfDay_lt]
  simp [Instant.ofDay_days]

end Stamp

/-! ## The order of seconds -/

namespace Instant

/-- The second of an instant, counted from the start of the calendar. -/
def seconds (t : Instant) : Nat :=
  t.micros / 1000000

theorem clockText_lt {a b : Nat} (hb : b < perDay) (ha : a < perDay) (h : a / 1000000 < b / 1000000) :
    (TimeOfDay.clockText a).toList < (TimeOfDay.clockText b).toList := by
  rw [TimeOfDay.toList_clockText ha, TimeOfDay.toList_clockText hb]
  rw [perDay] at ha hb
  refine digits_cons_lt (by omega) ':' ?_
  rw [or_iff_not_imp_left]
  refine fun hhour => ⟨by omega, digits_cons_lt (by omega) ':' ?_⟩
  rw [or_iff_not_imp_left]
  refine fun hminute => ⟨by omega, ?_⟩
  have hsecond : digits 2 (a / 1000000 % 60) ++ [] < digits 2 (b / 1000000 % 60) ++ [] :=
    digits_lt (by omega) (by omega) [] []
  simpa using hsecond

/-- Of two instants that are written to the second the text of the earlier one comes first. -/
theorem secondText_lt {a b : Instant} (ha : a.micros < limit) (hb : b.micros < limit) (h : a.seconds < b.seconds) :
    a.secondText < b.secondText := by
  have htext : ∀ t : Instant, t.micros < limit → t.secondText.toList = digits 4 (Date.ofDays t.days).year ++
      '-' :: (digits 2 (Date.ofDays t.days).month ++ '-' :: (digits 2 (Date.ofDays t.days).day ++
        ' ' :: (TimeOfDay.clockText t.timeOfDay).toList)) := by
    intro t ht
    simp [secondText, date, Date.toList_text (days_lt ht)]
  rw [String.lt_iff_toList_lt, htext a ha, htext b hb]
  obtain ⟨-, -, -, -, hmonth, -, hday, -⟩ := Date.ofDays_spec b.days
  have hsize := Date.daysInMonth_le (Date.ofDays b.days).year (Date.ofDays b.days).month
  refine digits_cons_lt (Date.year_lt_of_days (days_lt hb)) '-' ?_
  rcases Nat.lt_or_ge a.days b.days with hdays | hdays
  · obtain hyear | ⟨hyear, hmonths⟩ := Date.ofDays_lt hdays
    · exact .inl hyear
    · refine .inr ⟨hyear, digits_cons_lt (by omega) '-' ?_⟩
      obtain hmonth | ⟨hmonth, hday⟩ := hmonths
      · exact .inl hmonth
      · exact .inr ⟨hmonth, digits_lt (by omega) hday _ _⟩
  · have hsame : a.days = b.days := by
      simp only [seconds, days, perDay] at h hdays ⊢
      omega
    rw [hsame]
    have hclock : (TimeOfDay.clockText a.timeOfDay).toList < (TimeOfDay.clockText b.timeOfDay).toList := by
      refine clockText_lt b.timeOfDay_lt a.timeOfDay_lt ?_
      simp only [seconds, days, timeOfDay, perDay] at h hsame ⊢
      omega
    exact .inr ⟨rfl, digits_cons_lt (by omega) '-' (.inr ⟨rfl, digits_cons_lt (by omega) ' ' (.inr ⟨rfl, hclock⟩)⟩)⟩

/-- Instants of one second are written to the second alike. -/
theorem secondText_congr {a b : Instant} (h : a.seconds = b.seconds) : a.secondText = b.secondText := by
  have hdays : a.days = b.days := by
    simp only [seconds, days, perDay] at h ⊢
    omega
  have htime : a.timeOfDay / 1000000 = b.timeOfDay / 1000000 := by
    simp only [seconds, timeOfDay, perDay] at h ⊢
    omega
  rw [secondText, secondText, date, date, hdays, TimeOfDay.clockText, TimeOfDay.clockText, htime]

/-- The order of the texts is that of the seconds. -/
theorem secondText_lt_iff {a b : Instant} (ha : a.micros < limit) (hb : b.micros < limit) :
    a.secondText < b.secondText ↔ a.seconds < b.seconds := by
  refine ⟨fun htext => ?_, secondText_lt ha hb⟩
  by_contra hnot
  rcases Nat.eq_or_lt_of_le (Nat.not_lt.mp hnot) with heq | hlt
  · rw [secondText_congr heq] at htext
    exact String.lt_irrefl _ htext
  · exact String.lt_irrefl _ (String.lt_trans htext (secondText_lt hb ha hlt))

end Instant

end Deskhand
