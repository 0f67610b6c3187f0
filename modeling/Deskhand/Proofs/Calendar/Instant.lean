import Deskhand.Calendar.TimeOfDay
import Deskhand.Proofs.Calendar.Stamp

/-!
# Instants, days and times of day

An instant is a day and a time of day (`Instant.days_ofDay`), and later instants are of later days (`days_mono`). A
span moves an instant by itself or out of the calendar (`micros_of_shift?`, `shift?_natCast`). A field of a time of day
that is read holds no more than its range admits (`field?_lt`), so what is read lies within a day (`read?_lt`).
-/

namespace Deskhand

namespace Instant

theorem le_iff {t u : Instant} : t ≤ u ↔ t.micros ≤ u.micros :=
  Iff.rfl

theorem lt_iff {t u : Instant} : t < u ↔ t.micros < u.micros :=
  Iff.rfl

theorem days_mono {t u : Instant} (h : t ≤ u) : t.days ≤ u.days :=
  Nat.div_le_div_right h

/-- A time of day on a day is an instant of that day which shows that time. -/
theorem days_ofDay {day time : Nat} (h : time < perDay) :
    (ofDay day time).days = day ∧ (ofDay day time).timeOfDay = time := by
  simp only [perDay] at h
  simp only [days, timeOfDay, ofDay, perDay]
  omega

theorem micros_of_shift? {t u : Instant} {d : Int} (h : t.shift? d = some u) : (u.micros : Int) = t.micros + d := by
  simp only [shift?] at h
  split at h
  · next hin =>
    simp only [Bool.and_eq_true, decide_eq_true_eq] at hin
    rw [← Option.some.inj h]
    exact Int.toNat_of_nonneg hin.1
  · cases h

theorem shift?_natCast {t : Instant} {n : Nat} (h : t.micros + n < limit) : t.shift? n = some ⟨t.micros + n⟩ := by
  have hin : (decide (0 ≤ (t.micros : Int) + n) && decide ((t.micros : Int) + n < limit)) = true := by
    simp only [Bool.and_eq_true, decide_eq_true_eq]
    omega
  simp only [shift?, if_pos hin]
  congr 2

end Instant

namespace Text

/-- The digits of a script follow its zero, and no zero comes before that of ASCII. -/
theorem digitValue?_spec {c : Char} {d : Nat} (h : digitValue? c = some d) : d < 10 ∧ d ≤ c.toNat - 0x30 := by
  obtain ⟨first, hfirst, rfl⟩ := Option.map_eq_some_iff.mp h
  have hrange := List.find?_some hfirst
  simp only [Bool.and_eq_true, decide_eq_true_eq] at hrange
  have hascii : ∀ z ∈ digitZeros, 0x30 ≤ z := by decide
  have := hascii first (List.mem_of_find?_eq_some hfirst)
  omega

end Text

namespace TimeOfDay

/-- A field holds less than a bound if two digits that fit do, and a single one does. -/
theorem field?_lt {fits : Nat → Char → Bool} {bound : Nat} (hten : 10 ≤ bound)
    (hfits : ∀ first c second, fits first c = true → Text.digitValue? c = some second → 10 * first + second < bound)
    {cs rest : List Char} {n : Nat} (h : field? fits cs = some (n, rest)) : n < bound := by
  rw [field?] at h
  cases htwo : twoDigits? fits cs with
  | some found =>
    rw [htwo] at h
    obtain rfl := Option.some.inj h
    match cs with
    | [] | [_] => cases htwo
    | a :: c :: cs =>
      simp only [twoDigits?, Option.bind_eq_bind, Option.bind_eq_some_iff] at htwo
      obtain ⟨first, -, second, hsecond, htwo⟩ := htwo
      split at htwo
      · next hfit =>
        obtain ⟨rfl, -⟩ := Prod.mk.inj (Option.some.inj htwo)
        exact hfits first c second hfit hsecond
      · cases htwo
  | none =>
    rw [htwo] at h
    cases cs with
    | nil => cases h
    | cons a cs =>
      obtain ⟨d, hd, hpair⟩ := Option.map_eq_some_iff.mp h
      obtain ⟨rfl, -⟩ := Prod.mk.inj hpair
      exact Nat.lt_of_lt_of_le (Text.digitValue?_spec hd).1 hten

theorem hour_lt {cs rest : List Char} {n : Nat} (h : field? hourFits cs = some (n, rest)) : n < 24 := by
  refine field?_lt (by decide) (fun first c second hfit hsecond => ?_) h
  obtain ⟨hten, hvalue⟩ := Text.digitValue?_spec hsecond
  simp only [hourFits, Bool.or_eq_true, Bool.and_eq_true, decide_eq_true_eq, beq_iff_eq] at hfit
  rcases hfit with hlow | ⟨⟨rfl, -⟩, hto⟩
  · omega
  · have hlast : c.toNat ≤ '3'.toNat := hto
    rw [show '3'.toNat = 0x33 from rfl] at hlast
    omega

theorem minute_lt {cs rest : List Char} {n : Nat} (h : field? minuteFits cs = some (n, rest)) : n < 60 := by
  refine field?_lt (by decide) (fun first c second hfit hsecond => ?_) h
  have hfit : first ≤ 5 := by simpa [minuteFits] using hfit
  have := (Text.digitValue?_spec hsecond).1
  omega

/-- A time of day that is read lies within a day. -/
theorem read?_lt {s : String} {time : Nat} (h : read? s = some time) : time < Instant.perDay := by
  have hfields : ∀ {hour minute second : Nat}, hour < 24 → minute < 60 → second < 60 →
      ofFields hour minute second 0 < Instant.perDay := by
    intro hour minute second hhour hminute hsecond
    rw [ofFields, Instant.perDay]
    omega
  simp only [read?, Option.bind_eq_bind, Option.bind_eq_some_iff] at h
  obtain ⟨⟨hour, rest⟩, hhour, rest', -, ⟨minute, rest''⟩, hminute, h⟩ := h
  split at h
  · rw [← Option.some.inj h]
    exact hfields (hour_lt hhour) (minute_lt hminute) (by decide)
  · simp only [Option.bind_eq_some_iff] at h
    obtain ⟨rest₃, -, ⟨second, rest₄⟩, hsecond, h⟩ := h
    split at h
    · rw [← Option.some.inj h]
      exact hfields (hour_lt hhour) (minute_lt hminute) (minute_lt hsecond)
    · cases h

end TimeOfDay

end Deskhand
