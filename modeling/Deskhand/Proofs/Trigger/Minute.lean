import Deskhand.Proofs.Calendar.Instant
import Deskhand.Proofs.Trigger.Daily
import Mathlib.Data.List.Chain

/-!
# A daily trigger that is checked often enough

A daily trigger fires within a minute from its time. Checks less than a minute apart cannot step over that minute, and
each firing is the last run for the checks behind it. Of the checks that come on the date from the time on, the first
one fires and settles the date (`firings_of_settled`), with one exception: a firing that comes at the time itself does
not settle it, so the next check of the date fires too. The minute ends with the date: checks behind midnight do not
fire in what is left of it (`days_of_shouldFire`). Main statements:

* `due_firings`: which checks of the date fire from the time on;
* `firesOnce_iff`: when exactly one check of the minute fires and no later one of the date.
-/

namespace Deskhand

namespace Daily

variable {b : Block} {target day : Nat} {last : Option Instant} {checks : List Instant} {t u : Instant}

/-! ## Checks in turn -/

/-- The instants at which a trigger fires when it is checked in turn. Each firing is the last run from then on. -/
def firings (b : Block) : Option Instant → List Instant → List Instant
  | _, [] => []
  | last, now :: rest =>
    match shouldFire b last now with
    | .ok true => now :: firings b (some now) rest
    | _ => firings b last rest

theorem firings_cons_of_fires {rest : List Instant} (h : shouldFire b last t = .ok true) :
    firings b last (t :: rest) = t :: firings b (some t) rest := by
  simp only [firings, h]

theorem firings_cons_of_not_fires {rest : List Instant} (h : shouldFire b last t ≠ .ok true) :
    firings b last (t :: rest) = firings b last rest := by
  rw [firings]
  split
  · next hfires => exact absurd hfires h
  · rfl

theorem firings_sublist (b : Block) (last : Option Instant) (checks : List Instant) :
    (firings b last checks).Sublist checks := by
  induction checks generalizing last with
  | nil => exact .slnil
  | cons t rest ih =>
    by_cases h : shouldFire b last t = .ok true
    · rw [firings_cons_of_fires h]
      exact (ih _).cons_cons t
    · rw [firings_cons_of_not_fires h]
      exact (ih _).cons t

theorem firings_append (b : Block) (last : Option Instant) (before rest : List Instant) :
    firings b last (before ++ rest) =
      firings b last before ++ firings b ((firings b last before).getLast?.or last) rest := by
  induction before generalizing last with
  | nil => rfl
  | cons t before ih =>
    rw [List.cons_append]
    by_cases h : shouldFire b last t = .ok true
    · rw [firings_cons_of_fires h, firings_cons_of_fires h, ih, List.cons_append, List.getLast?_cons]
      cases (firings b (some t) before).getLast? <;> rfl
    · rw [firings_cons_of_not_fires h, firings_cons_of_not_fires h, ih]

/-- An instant at which a trigger fires is one of the checks, and one at which it fires after some last run. -/
theorem of_mem_firings (h : t ∈ firings b last checks) : t ∈ checks ∧ ∃ ran, shouldFire b ran t = .ok true := by
  refine ⟨(firings_sublist b last checks).subset h, ?_⟩
  induction checks generalizing last with
  | nil => cases h
  | cons u rest ih =>
    by_cases hfires : shouldFire b last u = .ok true
    · rw [firings_cons_of_fires hfires] at h
      rcases List.mem_cons.mp h with rfl | h
      · exact ⟨last, hfires⟩
      · exact ih h
    · rw [firings_cons_of_not_fires hfires] at h
      exact ih h

/-! ## The minute and the date -/

/-- A check that fires in the minute from the time on a date comes on that date. -/
theorem days_of_shouldFire (ht : target? b = some target) (hday : target < Instant.perDay)
    (hfrom : Instant.ofDay day target ≤ t) (hto : t.micros < (Instant.ofDay day target).micros + window)
    (h : shouldFire b last t = .ok true) : t.days = day := by
  have hlate := (of_shouldFire ht h).2
  rw [Instant.le_iff] at hfrom
  simp only [Instant.ofDay, Instant.perDay] at hfrom hto hday
  simp only [window] at hto
  simp only [Instant.timeOfDay, Instant.perDay] at hlate
  simp only [Instant.days, Instant.perDay]
  omega

/-- A date is settled once the trigger ran on it behind its time. -/
theorem not_shouldFire_of_ran (ht : target? b = some target) (hday : t.days = day)
    (hbehind : Instant.ofDay day target < t) (hsame : u.days = day) : shouldFire b (some t) u ≠ .ok true := by
  intro h
  obtain ⟨hallowed, hlate⟩ := of_shouldFire ht h
  have hopen := (shouldFire_iff ht hallowed hlate).mp h
  have hran : target < t.timeOfDay := by
    by_contra hnot
    subst hday
    have hle : Instant.ofDay t.days target ≤ t := Nat.le_of_lt hbehind
    have hat : t.timeOfDay = target := Nat.le_antisymm (Nat.not_lt.mp hnot) (ofDay_le_iff.mp hle)
    have hsplit : t.days * Instant.perDay + t.timeOfDay = t.micros := by
      rw [Nat.mul_comm]
      exact Nat.div_add_mod t.micros Instant.perDay
    have hbehind : t.days * Instant.perDay + target < t.micros := hbehind
    omega
  simp [isSettled, Option.filter_some, hday, hsame, hran] at hopen

/-- A run at the time itself does not settle the date. -/
theorem shouldFire_of_ran_at (ht : target? b = some target) (hday : target < Instant.perDay)
    (hallowed : isAllowed b (Instant.ofDay day target) = true) (hfrom : Instant.ofDay day target ≤ u)
    (hsame : u.days = day) : shouldFire b (some (Instant.ofDay day target)) u = .ok true := by
  have ⟨hdays, htime⟩ : (Instant.ofDay day target).days = day ∧ (Instant.ofDay day target).timeOfDay = target :=
    Instant.days_ofDay hday
  have hallowed : isAllowed b u = true := (isAllowed_congr (by rw [hdays, hsame])).trans hallowed
  have hlate : target ≤ u.timeOfDay := ofDay_le_iff.mp (by rw [hsame]; exact hfrom)
  rw [shouldFire_iff ht hallowed hlate, isSettled]
  simp [Option.filter_some, hdays, hsame, htime]

/-- A check of the minute fires where the trigger did not run since its time on that date. -/
theorem shouldFire_of_early (ht : target? b = some target) (hallowed : isAllowed b t = true)
    (hearly : ∀ ran, last = some ran → ran < Instant.ofDay t.days target)
    (hfrom : Instant.ofDay t.days target ≤ t)
    (hto : t.micros < (Instant.ofDay t.days target).micros + window)
    (hend : (Instant.ofDay t.days target).micros + window < Instant.limit) : shouldFire b last t = .ok true := by
  rw [shouldFire_iff ht hallowed (ofDay_le_iff.mp hfrom), isSettled]
  cases hran : last.filter fun ran => ran.days == t.days with
  | some ran =>
    obtain ⟨hlast, hsame⟩ := Option.filter_eq_some_iff.mp hran
    have hsame : ran.days = t.days := by simpa using hsame
    have hran := hearly ran hlast
    rw [← hsame] at hran
    have hnot : ¬target ≤ ran.timeOfDay := fun hle => Nat.not_le.mpr hran (ofDay_le_iff.mpr hle)
    simp only [decide_eq_false_iff_not]
    omega
  | none =>
    dsimp only
    rw [Instant.shift?_natCast hend, Option.all_some, decide_eq_false_iff_not, Instant.le_iff]
    dsimp only
    exact Nat.not_le.mpr hto

/-- The checks that come on a date, from a time of day on. -/
def due (day target : Nat) (checks : List Instant) : List Instant :=
  checks.filter fun t => Instant.ofDay day target ≤ t && t.days == day

theorem mem_due {checks : List Instant} :
    t ∈ due day target checks ↔ t ∈ checks ∧ Instant.ofDay day target ≤ t ∧ t.days = day := by
  simp [due]

theorem due_cons_of_day {rest : List Instant} (hfrom : Instant.ofDay day target ≤ t) (hday : t.days = day) :
    due day target (t :: rest) = t :: due day target rest := by
  simp [due, hfrom, hday]

theorem due_eq_nil (h : ∀ t ∈ checks, Instant.ofDay day target ≤ t → t.days ≠ day) : due day target checks = [] := by
  refine List.eq_nil_iff_forall_not_mem.mpr fun t ht => ?_
  obtain ⟨hmem, hfrom, hday⟩ := mem_due.mp ht
  exact h t hmem hfrom hday

theorem due_append (day target : Nat) (before rest : List Instant) :
    due day target (before ++ rest) = due day target before ++ due day target rest :=
  List.filter_append ..

theorem due_eq_nil_of_sublist {fired : List Instant} (hsub : fired.Sublist checks) (h : due day target checks = []) :
    due day target fired = [] :=
  List.sublist_nil.mp (h ▸ hsub.filter _)

/-- Instants in order, each before the next one. -/
abbrev IsRising (checks : List Instant) : Prop :=
  checks.Pairwise (· < ·)

theorem due_eq_nil_of_early (h : ∀ t ∈ checks, t < Instant.ofDay day target) : due day target checks = [] :=
  due_eq_nil fun t ht hfrom => absurd hfrom (Nat.not_le.mpr (h t ht))

/-- Behind a check of a later date none comes on an earlier one. -/
theorem due_eq_nil_of_later {rest : List Instant} (hrising : IsRising (t :: rest)) (hlater : day < t.days) :
    due day target (t :: rest) = [] := by
  refine due_eq_nil fun u hu _ => ?_
  rcases List.mem_cons.mp hu with rfl | hu
  · omega
  · have := Instant.days_mono (Nat.le_of_lt (List.rel_of_pairwise_cons hrising hu))
    omega

/-- On a date that is settled no further check fires. -/
theorem firings_of_settled (ht : target? b = some target) (hrising : IsRising (t :: checks)) (hlow : day ≤ t.days)
    (hsettled : t.days = day → Instant.ofDay day target < t) : due day target (firings b (some t) checks) = [] := by
  induction checks generalizing t with
  | nil => rfl
  | cons u rest ih =>
    obtain ⟨hfront, hrest⟩ := List.pairwise_cons.mp hrising
    have hmono := Instant.days_mono (Nat.le_of_lt (hfront u List.mem_cons_self))
    by_cases hfires : shouldFire b (some t) u = .ok true
    · have hother : u.days ≠ day := fun hsame =>
        not_shouldFire_of_ran ht (by omega) (hsettled (by omega)) hsame hfires
      have htail := ih hrest (by omega) fun hsame => absurd hsame hother
      rw [firings_cons_of_fires hfires]
      simpa [due, hother] using htail
    · rw [firings_cons_of_not_fires hfires]
      exact ih (hrising.sublist (List.Sublist.cons_cons t (List.sublist_cons_self u rest))) hlow hsettled

/-- Behind a run at the time itself one more check of the date fires. -/
theorem firings_of_ran_at (ht : target? b = some target) (hday : target < Instant.perDay)
    (hallowed : isAllowed b (Instant.ofDay day target) = true)
    (hrising : IsRising (Instant.ofDay day target :: checks)) :
    due day target (firings b (some (Instant.ofDay day target)) checks) = (due day target checks).take 1 := by
  cases checks with
  | nil => rfl
  | cons u rest =>
    obtain ⟨hfront, hrest⟩ := List.pairwise_cons.mp hrising
    have hbehind := hfront u List.mem_cons_self
    have hfrom : Instant.ofDay day target ≤ u := Nat.le_of_lt hbehind
    by_cases hsame : u.days = day
    · have hfires := shouldFire_of_ran_at ht hday hallowed hfrom hsame
      rw [firings_cons_of_fires hfires, due_cons_of_day hfrom hsame, due_cons_of_day hfrom hsame,
        firings_of_settled ht hrest hsame.ge fun _ => hbehind]
      rfl
    · have hmono := Instant.days_mono hfrom
      rw [(Instant.days_ofDay hday).1] at hmono
      have hnone : due day target (u :: rest) = [] := due_eq_nil_of_later hrest (by omega)
      rw [hnone, List.take_nil]
      exact due_eq_nil_of_sublist (firings_sublist _ _ _) hnone

/-! ## Checks around the minute -/

/-- Checks of a trigger that surround the minute from its time on a date that it may fire on, in order and less than a
minute apart. The last run before them, if there is one, came before the time. -/
structure Surrounds (b : Block) (day target : Nat) (last : Option Instant) (checks : List Instant) : Prop where
  target? : Daily.target? b = some target
  isAllowed : Daily.isAllowed b (Instant.ofDay day target) = true
  last_lt : ∀ ran ∈ last, ran < Instant.ofDay day target
  isChain : checks.IsChain fun t u => t < u ∧ u.micros < t.micros + window
  begins : ∃ t ∈ checks.head?, t < Instant.ofDay day target
  ends : ∃ t ∈ checks.getLast?, (Instant.ofDay day target).micros + window ≤ t.micros
  inCalendar : ∀ t ∈ checks, t.micros < Instant.limit

instance : Decidable (Surrounds b day target last checks) :=
  decidable_of_iff (Daily.target? b = some target ∧ Daily.isAllowed b (Instant.ofDay day target) = true ∧
      (∀ ran ∈ last, ran < Instant.ofDay day target) ∧
      (checks.IsChain fun t u => t < u ∧ u.micros < t.micros + window) ∧
      (∃ t ∈ checks.head?, t < Instant.ofDay day target) ∧
      (∃ t ∈ checks.getLast?, (Instant.ofDay day target).micros + window ≤ t.micros) ∧
      ∀ t ∈ checks, t.micros < Instant.limit)
    ⟨fun ⟨htarget, hallowed, hlast, hchain, hbegins, hends, hin⟩ =>
      ⟨htarget, hallowed, hlast, hchain, hbegins, hends, hin⟩,
    fun h => ⟨h.target?, h.isAllowed, h.last_lt, h.isChain, h.begins, h.ends, h.inCalendar⟩⟩

/-- Checks less than a span apart that begin before an instant and do not end before it have a first one from it on,
which comes less than that span behind it. -/
theorem exists_first {opening : Instant} {span : Nat}
    (hchain : checks.IsChain fun t u => t < u ∧ u.micros < t.micros + span)
    (hbegins : ∃ t ∈ checks.head?, t < opening) (hends : ∃ t ∈ checks.getLast?, opening ≤ t) :
    ∃ before t rest, checks = before ++ t :: rest ∧ (∀ u ∈ before, u < opening) ∧ opening ≤ t ∧
      t.micros < opening.micros + span := by
  induction checks with
  | nil => simp at hbegins
  | cons s rest ih =>
    have hs : s < opening := by simpa using hbegins
    cases rest with
    | nil =>
      have hlate : opening ≤ s := by simpa using hends
      exact absurd hlate (Nat.not_le.mpr hs)
    | cons u rest =>
      obtain ⟨⟨hstep, hclose⟩, hchain⟩ := List.isChain_cons_cons.mp hchain
      by_cases hu : u < opening
      · obtain ⟨before, t, rest', hsplit, hbefore, hfrom, hto⟩ := ih hchain ⟨u, rfl, hu⟩ (by simpa using hends)
        refine ⟨s :: before, t, rest', by rw [hsplit, List.cons_append], ?_, hfrom, hto⟩
        exact List.forall_mem_cons.mpr ⟨hs, hbefore⟩
      · refine ⟨[s], u, rest, rfl, by simpa using hs, Nat.not_lt.mp hu, ?_⟩
        rw [Instant.lt_iff] at hs
        omega

namespace Surrounds

theorem target_lt (h : Surrounds b day target last checks) : target < Instant.perDay := by
  obtain ⟨time, -, hread⟩ := Option.bind_eq_some_iff.mp h.target?
  exact TimeOfDay.read?_lt hread

theorem isRising (h : Surrounds b day target last checks) : IsRising checks := by
  have hlt : checks.IsChain fun t u : Instant => t.micros < u.micros := h.isChain.imp fun t u htu => htu.1
  have htrans : IsTrans Instant fun t u => t.micros < u.micros := ⟨fun _ _ _ => Nat.lt_trans⟩
  exact List.isChain_iff_pairwise.mp hlt

/-- The first check from the time on comes in the minute, and the last run before it came before the time. -/
theorem exists_first (h : Surrounds b day target last checks) :
    ∃ before t rest, checks = before ++ t :: rest ∧ (∀ u ∈ before, u < Instant.ofDay day target) ∧
      Instant.ofDay day target ≤ t ∧ t.micros < (Instant.ofDay day target).micros + window ∧
      (Instant.ofDay day target).micros + window < Instant.limit ∧
      ∀ ran, (firings b last before).getLast?.or last = some ran → ran < Instant.ofDay day target := by
  obtain ⟨final, hfinal, hlate⟩ := h.ends
  have hends : Instant.ofDay day target ≤ final := Nat.le_trans (Nat.le_add_right _ _) hlate
  obtain ⟨before, t, rest, hsplit, hbefore, hfrom, hto⟩ := Daily.exists_first h.isChain h.begins ⟨final, hfinal, hends⟩
  have hend := Nat.lt_of_le_of_lt hlate (h.inCalendar final (List.mem_of_getLast? hfinal))
  refine ⟨before, t, rest, hsplit, hbefore, hfrom, hto, hend, fun ran hran => ?_⟩
  rcases Option.or_eq_some_iff.mp hran with hfired | ⟨-, hlast⟩
  · exact hbefore ran ((firings_sublist b last before).subset (List.mem_of_getLast? hfired))
  · exact h.last_lt ran hlast

/-- Of the checks on the date from the time on the first one fires, or the first two where a check comes at the time
itself. -/
theorem due_firings (h : Surrounds b day target last checks) :
    due day target (firings b last checks) =
      (due day target checks).take (if Instant.ofDay day target ∈ checks then 2 else 1) := by
  obtain ⟨before, t, rest, hsplit, hbefore, hfrom, hto, hend, hran⟩ := h.exists_first
  have hrising := h.isRising
  rw [hsplit] at hrising
  have hrest : IsRising (t :: rest) := (List.pairwise_append.mp hrising).2.1
  have hnone := due_eq_nil_of_early hbefore
  rw [hsplit, firings_append, due_append, due_append, hnone, List.nil_append,
    due_eq_nil_of_sublist (firings_sublist b last before) hnone, List.nil_append]
  generalize (firings b last before).getLast?.or last = ran at hran
  by_cases hday : t.days = day
  · have hallowed : Daily.isAllowed b t = true :=
      (isAllowed_congr (by rw [(Instant.days_ofDay h.target_lt).1, hday])).trans h.isAllowed
    have hfires : shouldFire b ran t = .ok true := by
      subst hday
      exact shouldFire_of_early h.target? hallowed hran hfrom hto hend
    rw [firings_cons_of_fires hfires, due_cons_of_day hfrom hday, due_cons_of_day hfrom hday]
    by_cases hat : t = Instant.ofDay day target
    · subst hat
      rw [firings_of_ran_at h.target? h.target_lt h.isAllowed hrest, if_pos (by simp)]
      rfl
    · have hbehind : Instant.ofDay day target < t := by
        rw [Instant.le_iff] at hfrom
        have hne : t.micros ≠ (Instant.ofDay day target).micros := fun hsame => hat (congrArg Instant.mk hsame)
        rw [Instant.lt_iff]
        omega
      have hmissed : Instant.ofDay day target ∉ before ++ t :: rest := by
        intro hmem
        rcases List.mem_append.mp hmem with hmem | hmem
        · exact Nat.lt_irrefl _ (hbefore _ hmem)
        · rcases List.mem_cons.mp hmem with hmem | hmem
          · exact hat hmem.symm
          · exact Nat.lt_asymm hbehind (List.rel_of_pairwise_cons hrest hmem)
      rw [firings_of_settled h.target? hrest hday.ge fun _ => hbehind, if_neg hmissed]
      rfl
  · have hlater := Instant.days_mono hfrom
    rw [(Instant.days_ofDay h.target_lt).1] at hlater
    have hover : due day target (t :: rest) = [] := due_eq_nil_of_later hrest (by omega)
    rw [hover, List.take_nil]
    exact due_eq_nil_of_sublist (firings_sublist b ran (t :: rest)) hover

/-- If a check comes on the date from the time on, the first one comes in the minute. -/
theorem lt_of_head_due (h : Surrounds b day target last checks) (hhead : (due day target checks).head? = some t) :
    t.micros < (Instant.ofDay day target).micros + window := by
  obtain ⟨before, first, rest, hsplit, hbefore, hfrom, hto, -⟩ := h.exists_first
  have hrising := h.isRising
  rw [hsplit] at hhead hrising
  rw [due_append, due_eq_nil_of_early hbefore, List.nil_append] at hhead
  by_cases hday : first.days = day
  · rw [due_cons_of_day hfrom hday] at hhead
    rwa [← Option.some.inj hhead]
  · have hlater := Instant.days_mono hfrom
    rw [(Instant.days_ofDay h.target_lt).1] at hlater
    rw [due_eq_nil_of_later (List.pairwise_append.mp hrising).2.1 (show day < first.days by omega)] at hhead
    cases hhead

end Surrounds

/-- Exactly one check of the minute from the time on a date fires, and no other one from the time on that date does. -/
def FiresOnce (b : Block) (day target : Nat) (last : Option Instant) (checks : List Instant) : Prop :=
  ∃ t ∈ firings b last checks, Instant.ofDay day target ≤ t ∧
    t.micros < (Instant.ofDay day target).micros + window ∧
    ∀ u ∈ firings b last checks, Instant.ofDay day target ≤ u →
      u.micros < (Instant.ofDay day target).micros + window ∨ u.days = day → u = t

instance : Decidable (FiresOnce b day target last checks) :=
  inferInstanceAs (Decidable (∃ t ∈ firings b last checks, _ ∧ _))

/-- What fires in the minute fires on its date, so exactly one check does iff exactly one of the date does. -/
theorem Surrounds.firesOnce_iff_due (h : Surrounds b day target last checks) :
    FiresOnce b day target last checks ↔ ∃ t, due day target (firings b last checks) = [t] := by
  have hdays : ∀ {t}, t ∈ firings b last checks → Instant.ofDay day target ≤ t →
      t.micros < (Instant.ofDay day target).micros + window → t.days = day := by
    intro t ht hfrom hto
    obtain ⟨-, ran, hfires⟩ := of_mem_firings ht
    exact days_of_shouldFire h.target? h.target_lt hfrom hto hfires
  constructor
  · rintro ⟨t, ht, hfrom, hto, honly⟩
    refine ⟨t, ?_⟩
    have hrising : IsRising (due day target (firings b last checks)) :=
      h.isRising.sublist (List.filter_sublist.trans (firings_sublist b last checks))
    have hall : ∀ u ∈ due day target (firings b last checks), u = t := fun u hu => by
      obtain ⟨hu, hsince, hday⟩ := mem_due.mp hu
      exact honly u hu hsince (.inr hday)
    have hmem : t ∈ due day target (firings b last checks) := mem_due.mpr ⟨ht, hfrom, hdays ht hfrom hto⟩
    generalize due day target (firings b last checks) = fired at hrising hall hmem
    match fired with
    | [] => cases hmem
    | [u] => rw [hall u List.mem_cons_self]
    | u :: v :: _ =>
      have huv := List.rel_of_pairwise_cons hrising List.mem_cons_self
      rw [hall u (by simp), hall v (by simp)] at huv
      exact absurd huv (Nat.lt_irrefl _)
  · rintro ⟨t, ht⟩
    have hmem : ∀ u, u ∈ due day target (firings b last checks) ↔ u = t := fun u => by rw [ht, List.mem_singleton]
    obtain ⟨hfired, hfrom, hday⟩ := mem_due.mp ((hmem t).mpr rfl)
    refine ⟨t, hfired, hfrom, h.lt_of_head_due ?_, fun u hu hsince hnear => ?_⟩
    · rw [h.due_firings] at ht
      cases hdue : due day target checks with
      | nil => simp [hdue] at ht
      | cons x more =>
        rw [hdue] at ht
        split at ht <;> exact congrArg some (List.cons.inj ht).1
    · refine (hmem u).mp (mem_due.mpr ⟨hu, hsince, ?_⟩)
      exact hnear.elim (hdays hu hsince) id

/-- Checks that surround the minute from the time on a date. Of those on the date from the time on the first one fires,
or the first two where a check comes at the time itself. So exactly one check of the minute fires, and no later one of
the date, iff a check comes on the date from the time on, and one that comes at the time itself is the last one of
the date. -/
theorem firesOnce_iff (h : Surrounds b day target last checks) :
    due day target (firings b last checks) =
      (due day target checks).take (if Instant.ofDay day target ∈ checks then 2 else 1) ∧
    (FiresOnce b day target last checks ↔
      (∃ t ∈ checks, Instant.ofDay day target ≤ t ∧ t.days = day) ∧
      (Instant.ofDay day target ∈ checks → ∀ t ∈ checks, Instant.ofDay day target < t → t.days ≠ day)) := by
  refine ⟨h.due_firings, ?_⟩
  rw [h.firesOnce_iff_due, h.due_firings]
  cases hdue : due day target checks with
  | nil =>
    simp only [List.take_nil, List.nil_eq, reduceCtorEq, exists_false, false_iff, not_and]
    rintro ⟨t, ht⟩
    have hmem := mem_due.mpr ht
    rw [hdue] at hmem
    cases hmem
  | cons x more =>
    have hmem : ∀ t, t ∈ x :: more ↔ t ∈ checks ∧ Instant.ofDay day target ≤ t ∧ t.days = day := fun t => by
      rw [← hdue, mem_due]
    have hx := (hmem x).mp List.mem_cons_self
    constructor
    · rintro ⟨t, ht⟩
      refine ⟨⟨x, hx⟩, fun hat u hu hbehind hsame => ?_⟩
      have htime := (hmem _).mpr ⟨hat, Nat.le_refl _, (Instant.days_ofDay h.target_lt).1⟩
      have hlater := (hmem u).mpr ⟨hu, Nat.le_of_lt hbehind, hsame⟩
      rw [if_pos hat] at ht
      cases more with
      | nil =>
        rw [List.mem_singleton.mp htime, List.mem_singleton.mp hlater] at hbehind
        exact Nat.lt_irrefl _ hbehind
      | cons y more => cases ht
    · rintro ⟨-, hlast⟩
      refine ⟨x, ?_⟩
      split
      · next hat =>
        cases more with
        | nil => rfl
        | cons y more =>
          have hrising : IsRising (x :: y :: more) := hdue ▸ h.isRising.sublist List.filter_sublist
          have hxy : x < y := List.rel_of_pairwise_cons hrising List.mem_cons_self
          obtain ⟨hy, -, hsame⟩ := (hmem y).mp (by simp)
          exact absurd hsame (hlast hat y hy (Nat.lt_of_le_of_lt hx.2.1 hxy))
      · rfl

/-- A trigger that fires at a time of day. -/
def dailyAt (time : String) : Block :=
  ⟨.timeTrigger, "t", [("Time", time)]⟩

/-- The first of January 2024. -/
def newYearsDay : Nat :=
  (Date.mk 2024 1 1).toDays

/-- An instant of that day; hours from 24 on are those of the next one. -/
def newYear (hour minute second : Nat) : Instant :=
  .ofDay newYearsDay (TimeOfDay.ofFields hour minute second 0)

/-- Nine o'clock. -/
def nine : Nat :=
  TimeOfDay.ofFields 9 0 0 0

/-- Half a minute before midnight. -/
def late : Nat :=
  TimeOfDay.ofFields 23 59 30 0

/-- A morning on which a check comes just behind the time. -/
def morning : List Instant :=
  [newYear 8 59 30, newYear 9 0 1, newYear 9 0 31, newYear 9 1 1]

/-- A morning on which a check comes at the time itself. -/
def punctual : List Instant :=
  [newYear 8 59 30, newYear 9 0 0, newYear 9 0 30, newYear 9 1 0]

/-- A night on which no check comes between the time and midnight. -/
def midnight : List Instant :=
  [newYear 23 59 20, newYear 24 0 10, newYear 24 0 40]

theorem surrounds_morning : Surrounds (dailyAt "09:00") newYearsDay nine none morning := by
  decide +kernel

/-- On the first morning the trigger fires once. -/
theorem firesOnce_morning :
    Surrounds (dailyAt "09:00") newYearsDay nine none morning ∧
      due newYearsDay nine (firings (dailyAt "09:00") none morning) = [newYear 9 0 1] ∧
      FiresOnce (dailyAt "09:00") newYearsDay nine none morning := by
  obtain ⟨hdue, honce⟩ := firesOnce_iff surrounds_morning
  exact ⟨surrounds_morning, by rw [hdue]; decide +kernel, honce.mpr (by decide +kernel)⟩

/-- On the other morning the trigger fires twice, and at midnight not at all. -/
theorem punctual_not_firesOnce :
    (Surrounds (dailyAt "09:00") newYearsDay nine none punctual ∧
      firings (dailyAt "09:00") none punctual = [newYear 9 0 0, newYear 9 0 30] ∧
      ¬FiresOnce (dailyAt "09:00") newYearsDay nine none punctual) ∧
    Surrounds (dailyAt "23:59:30") newYearsDay late none midnight ∧
      firings (dailyAt "23:59:30") none midnight = [] ∧
      ¬FiresOnce (dailyAt "23:59:30") newYearsDay late none midnight := by
  decide +kernel

end Daily

end Deskhand
