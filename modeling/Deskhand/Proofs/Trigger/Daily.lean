import Deskhand.Trigger.Basic

/-!
# When daily triggers fire

A daily trigger remembers nothing: whether it fires is decided by its block, the last run of its scenario and the
time (`Trigger.check_of_isDaily`). After its time on a day that it may fire on, it declines iff that day is settled
(`Daily.isSettled`): the last run is of that day and came after the time, or it is of another day and the minute
in which the trigger fires is over.
-/

namespace Deskhand

/-- Whether a trigger fires at a time of day. -/
def Trigger.isDaily (t : Trigger) : Bool :=
  match t.state with
  | .daily => true
  | _ => false

theorem Trigger.state_of_isDaily {t : Trigger} (h : t.isDaily = true) : t.state = .daily := by
  rw [isDaily] at h
  split at h
  · next hstate => exact hstate
  · cases h

/-- A trigger that fires at a time of day asks nothing but the clock, and stays as it is. -/
theorem Trigger.check_of_isDaily {t : Trigger} (h : t.isDaily = true) (bot : Option ChatBot)
    (last : Option Instant) (now : Instant) :
    t.check bot last now = (Daily.shouldFire t.block last now, t) := by
  simp only [check, state_of_isDaily h]

/-- Of two instants of one day the later one shows the later time. -/
theorem Instant.timeOfDay_le {t u : Instant} (hle : t ≤ u) (hday : t.days = u.days) :
    t.timeOfDay ≤ u.timeOfDay := by
  have ht := Nat.div_add_mod t.micros perDay
  have hu := Nat.div_add_mod u.micros perDay
  have hquot : t.micros / perDay = u.micros / perDay := hday
  have hmicros : t.micros ≤ u.micros := hle
  show t.micros % perDay ≤ u.micros % perDay
  rw [hquot] at ht
  omega

namespace Daily

/-- Whether a last run leaves nothing to do on the day of an instant, once the time of day has come. -/
def isSettled (target : Nat) (last : Option Instant) (now : Instant) : Bool :=
  match last.filter fun t => t.days == now.days with
  | some t => target < t.timeOfDay
  | none => ((Instant.ofDay now.days target).shift? window).all fun closing => closing ≤ now

theorem ofDay_le_iff {target : Nat} {now : Instant} :
    Instant.ofDay now.days target ≤ now ↔ target ≤ now.timeOfDay := by
  have hsplit : now.days * Instant.perDay + now.timeOfDay = now.micros := by
    rw [Nat.mul_comm]
    exact Nat.div_add_mod now.micros Instant.perDay
  show now.days * Instant.perDay + target ≤ now.micros ↔ _
  omega

theorem not_lt_iff {t u : Instant} : ¬t < u ↔ u ≤ t :=
  Nat.not_lt

variable {b : Block} {target : Nat} {last : Option Instant} {now : Instant}

/-- Whether a trigger may fire is the same all day. -/
theorem isAllowed_congr {t u : Instant} (h : t.days = u.days) : isAllowed b t = isAllowed b u := by
  simp only [isAllowed, Instant.weekday, h]

/-- A trigger fires only on a day that it may fire on, and not before its time. -/
theorem of_shouldFire (ht : target? b = some target) (h : shouldFire b last now = .ok true) :
    isAllowed b now = true ∧ target ≤ now.timeOfDay := by
  simp only [shouldFire, ht] at h
  split at h
  · cases h
  · next hallowed =>
    refine ⟨by simpa using hallowed, ?_⟩
    split at h
    · have hbetween := Except.ok.inj h
      simp only [Bool.and_eq_true, decide_eq_true_eq] at hbetween
      exact hbetween.2
    · split at h
      · cases h
      · next hlate => exact ofDay_le_iff.mp (not_lt_iff.mp hlate)

/-- Once its time has come, a trigger fires iff the day is not settled. -/
theorem shouldFire_iff (ht : target? b = some target) (hallowed : isAllowed b now = true)
    (hlate : target ≤ now.timeOfDay) :
    shouldFire b last now = .ok true ↔ isSettled target last now = false := by
  simp only [shouldFire, ht, hallowed, isSettled, Bool.not_true, Bool.false_eq_true, if_false]
  cases last.filter fun t => t.days == now.days with
  | some t => simp [hlate]
  | none =>
    simp only [if_neg (not_lt_iff.mpr (ofDay_le_iff.mpr hlate))]
    cases (Instant.ofDay now.days target).shift? window with
    | none => simp
    | some closing => simp [← not_lt_iff]

end Daily

end Deskhand
