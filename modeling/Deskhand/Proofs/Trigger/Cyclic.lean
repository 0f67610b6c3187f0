import Deskhand.Proofs.Calendar.Instant
import Deskhand.Trigger.Cyclic
import Mathlib.Data.List.Induction

/-!
# How far apart a cyclic trigger fires

A cyclic trigger remembers one thing, the time of its next firing. Its first check sets it, unless the calendar ends
before; from then on a check moves it only by firing, and then one interval ahead of its own time. What is shown of
the last run matters to the check that sets it and to none behind. Nothing is asked of the times of the checks: they
may stand still, and a check that meets the end of the calendar is one of them. Main statements:

* `check_cases`, `check_none`: what a check answers, and what it leaves as the next firing;
* `le_nextAfter`: the next firing is never put back;
* `keeps_pace`: how far apart firings are, which one comes first, and that none is left out.
-/

namespace Deskhand

namespace Cyclic

variable {b : Block} {span : Int}

theorem unitOf_pos (b : Block) : 0 < unitOf b := by
  have hall : ∀ e ∈ unitSeconds, 0 < e.2 := by decide
  rw [unitOf]
  cases hunit : unitSeconds.lookup (Text.lower (Text.trim (b.param "Unit" "minutes"))) with
  | none => decide
  | some seconds =>
    obtain ⟨front, back, hsplit, -⟩ := List.lookup_eq_some_iff.mp hunit
    have hmem : (Text.lower (Text.trim (b.param "Unit" "minutes")), seconds) ∈ unitSeconds := by
      rw [hsplit]
      exact List.mem_append_right _ List.mem_cons_self
    exact hall _ hmem

theorem interval_pos (h : interval b = .ok (some span)) : 0 < span := by
  rw [interval] at h
  split at h
  · cases h
  · next amount _ =>
    split at h
    · cases h
    · next hpos =>
      dsimp only at h
      split at h
      · next found hspan =>
        obtain rfl := Option.some.inj (Except.ok.inj h)
        simp only [Span.ofSeconds?] at hspan
        split at hspan
        · rw [← Option.some.inj hspan]
          have hunit : (0 : Int) < unitOf b := by exact_mod_cast unitOf_pos b
          exact Int.mul_pos (Int.mul_pos (by omega) hunit) (by decide)
        · cases hspan
      · cases h

/-! ## One check -/

/-- Before the next firing a check declines. From it on it fires and sets the one after, unless the calendar ends
before. -/
theorem check_cases (h : interval b = .ok (some span)) (due : Instant) (last : Option Instant) (now : Instant) :
    (now < due ∧ check b (some due) last now = (.ok false, some due)) ∨
      (due ≤ now ∧ now.shift? span = none ∧ check b (some due) last now = (.error .dateOverflow, some due)) ∨
      ∃ after, due ≤ now ∧ now.shift? span = some after ∧ check b (some due) last now = (.ok true, some after) := by
  by_cases hearly : now < due
  · refine .inl ⟨hearly, ?_⟩
    simp only [check, h, Option.orElse_some, if_pos hearly]
  · have hdue : due ≤ now := Nat.not_lt.mp hearly
    cases hafter : now.shift? span with
    | none =>
      refine .inr (.inl ⟨hdue, rfl, ?_⟩)
      simp only [check, h, Option.orElse_some, if_neg hearly, hafter]
    | some after =>
      refine .inr (.inr ⟨after, hdue, rfl, ?_⟩)
      simp only [check, h, Option.orElse_some, if_neg hearly, hafter]

/-- A first check sets the next firing and does what a check does then, unless the calendar ends before that. -/
theorem check_none (h : interval b = .ok (some span)) (last : Option Instant) (now : Instant) :
    check b none last now =
      match seed span last now with
      | none => (.error .dateOverflow, none)
      | some due => check b (some due) last now := by
  rw [check, h]
  dsimp only
  rw [Option.orElse_none]
  cases seed span last now with
  | none => rfl
  | some due =>
    dsimp only
    rw [check, h]
    rfl

/-- Once the next firing is set, what a check does hangs on its time alone. -/
theorem check_congr (due : Instant) (last last' : Option Instant) (now : Instant) :
    check b (some due) last now = check b (some due) last' now :=
  rfl

/-- A check that fires comes from the next firing on, and sets the one after. -/
theorem of_check (h : interval b = .ok (some span)) {due : Instant} {last : Option Instant} {now : Instant}
    (hfires : (check b (some due) last now).1 = .ok true) :
    due ≤ now ∧ ∃ after, now.shift? span = some after ∧ (check b (some due) last now).2 = some after := by
  obtain ⟨-, hcheck⟩ | ⟨-, -, hcheck⟩ | ⟨after, hdue, hafter, hcheck⟩ := check_cases h due last now
  · rw [hcheck] at hfires
    cases hfires
  · rw [hcheck] at hfires
    cases hfires
  · exact ⟨hdue, after, hafter, by rw [hcheck]⟩

/-! ## Checks one after the other -/

/-- A check: what is shown of the last run, and the time. -/
structure Check where
  last : Option Instant
  now : Instant
  deriving DecidableEq, Repr

/-- The next firing that is set after checks of a trigger that is new. -/
def nextAfter (b : Block) (checks : List Check) : Option Instant :=
  checks.foldl (fun next c => (check b next c.last c.now).2) none

/-- What a check answers that comes after others. -/
def answer (b : Block) (before : List Check) (c : Check) : Except Fault Bool :=
  (check b (nextAfter b before) c.last c.now).1

/-- Whether a check that comes after others fires. -/
def Fires (b : Block) (before : List Check) (c : Check) : Prop :=
  answer b before c = .ok true

/-- Whether a check that comes after others is the one that sets the first firing. -/
def Seeds (b : Block) (before : List Check) (c : Check) : Prop :=
  nextAfter b before = none ∧ (nextAfter b (before ++ [c])).isSome = true

/-- Whether a check that comes after others ends with a fault, and the calendar ends within one interval of it. -/
def Overflows (b : Block) (span : Int) (before : List Check) (c : Check) : Prop :=
  answer b before c = .error .dateOverflow ∧ c.now.shift? span = none

variable {before mid : List Check} {c d : Check} {due : Instant}

theorem nextAfter_snoc (b : Block) (before : List Check) (c : Check) :
    nextAfter b (before ++ [c]) = (check b (nextAfter b before) c.last c.now).2 := by
  rw [nextAfter, List.foldl_append]
  rfl

theorem nextAfter_append (b : Block) (before mid : List Check) :
    nextAfter b (before ++ mid) = mid.foldl (fun next c => (check b next c.last c.now).2) (nextAfter b before) :=
  List.foldl_append

/-- A check that fires sets the next firing one interval ahead of its time. -/
theorem nextAfter_of_fires (h : interval b = .ok (some span)) (hfires : Fires b before c) :
    ∃ after, c.now.shift? span = some after ∧ nextAfter b (before ++ [c]) = some after := by
  rw [nextAfter_snoc]
  rw [Fires, answer] at hfires
  cases hnext : nextAfter b before with
  | some due =>
    rw [hnext] at hfires
    exact (of_check h hfires).2
  | none =>
    rw [hnext, check_none h] at hfires
    rw [check_none h]
    cases hseed : seed span c.last c.now with
    | none =>
      rw [hseed] at hfires
      cases hfires
    | some due =>
      rw [hseed] at hfires
      exact (of_check h hfires).2

/-- A check fires from the next firing on, or meets the end of the calendar. -/
theorem fires_or_overflows (h : interval b = .ok (some span)) (hnext : nextAfter b before = some due)
    (hdue : due ≤ c.now) : Fires b before c ∨ Overflows b span before c := by
  rw [Fires, Overflows, answer, hnext]
  obtain ⟨hearly, -⟩ | ⟨-, hend, hcheck⟩ | ⟨after, -, -, hcheck⟩ := check_cases h due c.last c.now
  · exact absurd hdue (Nat.not_le.mpr hearly)
  · exact .inr ⟨by rw [hcheck], hend⟩
  · exact .inl (by rw [hcheck])

/-- No check fires before the next firing. -/
theorem le_of_fires (h : interval b = .ok (some span)) (hnext : nextAfter b before = some due)
    (hfires : Fires b before c) : due ≤ c.now := by
  rw [Fires, answer, hnext] at hfires
  exact (of_check h hfires).1

/-- Once it is set, the next firing stays as it is until a check fires. -/
theorem nextAfter_of_not_fires (h : interval b = .ok (some span)) (hnext : nextAfter b before = some due)
    (hquiet : ¬Fires b before c) : nextAfter b (before ++ [c]) = some due := by
  rw [nextAfter_snoc, hnext]
  rw [Fires, answer, hnext] at hquiet
  obtain ⟨-, hcheck⟩ | ⟨-, -, hcheck⟩ | ⟨after, -, -, hcheck⟩ := check_cases h due c.last c.now
  · rw [hcheck]
  · rw [hcheck]
  · exact absurd (by rw [hcheck]) hquiet

/-- The next firing is never put back. -/
theorem le_nextAfter (h : interval b = .ok (some span)) (hnext : nextAfter b before = some due) (mid : List Check) :
    ∃ due', nextAfter b (before ++ mid) = some due' ∧ due ≤ due' := by
  induction mid using List.reverseRecOn with
  | nil => exact ⟨due, by rwa [List.append_nil], Nat.le_refl _⟩
  | append_singleton mid d ih =>
    obtain ⟨due', hnext', hle⟩ := ih
    rw [← List.append_assoc]
    by_cases hfires : Fires b (before ++ mid) d
    · obtain ⟨after, hafter, hset⟩ := nextAfter_of_fires h hfires
      refine ⟨after, hset, ?_⟩
      have hspan := interval_pos h
      have hmicros := Instant.micros_of_shift? hafter
      have hdue : due'.micros ≤ d.now.micros := le_of_fires h hnext' hfires
      have hle : due.micros ≤ due'.micros := hle
      show due.micros ≤ after.micros
      omega
    · exact ⟨due', nextAfter_of_not_fires h hnext' hfires, hle⟩

/-- Checks that do not fire leave the next firing as it is. -/
theorem nextAfter_of_quiet (h : interval b = .ok (some span)) (hnext : nextAfter b before = some due)
    (hquiet : ∀ front d back, mid = front ++ d :: back → ¬Fires b (before ++ front) d) :
    nextAfter b (before ++ mid) = some due := by
  induction mid using List.reverseRecOn with
  | nil => rwa [List.append_nil]
  | append_singleton mid d ih =>
    have hmid := ih fun front d' back hsplit => hquiet front d' (back ++ [d]) (by rw [hsplit]; simp)
    rw [← List.append_assoc]
    exact nextAfter_of_not_fires h hmid (hquiet mid d [] rfl)

/-- Where the next firing is set, a check has set it. -/
theorem exists_seeds (h : (nextAfter b before).isSome = true) :
    ∃ front c back, before = front ++ c :: back ∧ Seeds b front c := by
  induction before using List.reverseRecOn with
  | nil => cases h
  | append_singleton before c ih =>
    cases hbefore : nextAfter b before with
    | none => exact ⟨before, c, [], rfl, hbefore, h⟩
    | some due =>
      obtain ⟨front, d, back, hsplit, hseeds⟩ := ih (by rw [hbefore]; rfl)
      exact ⟨front, d, back ++ [c], by rw [hsplit]; simp, hseeds⟩

/-- The check that sets the first firing does what a check does that finds it set. -/
theorem check_of_seeds (h : interval b = .ok (some span)) (hseeds : Seeds b before c) :
    ∃ due, seed span c.last c.now = some due ∧
      check b (nextAfter b before) c.last c.now = check b (some due) c.last c.now := by
  obtain ⟨hnone, hsome⟩ := hseeds
  rw [nextAfter_snoc, hnone, check_none h] at hsome
  rw [hnone, check_none h]
  cases hseed : seed span c.last c.now with
  | none =>
    rw [hseed] at hsome
    cases hsome
  | some due => exact ⟨due, rfl, rfl⟩

/-- The check that sets the first firing sets it no earlier than one interval after the last run that it is shown. -/
theorem le_of_seeds (h : interval b = .ok (some span)) (hseeds : Seeds b before c) {t : Instant}
    (hlast : c.last = some t) :
    ∃ due, nextAfter b (before ++ [c]) = some due ∧ t.micros + span ≤ due.micros ∧
      (Fires b before c → t.micros + span ≤ c.now.micros) := by
  obtain ⟨due, hdue, hsame⟩ := check_of_seeds h hseeds
  rw [nextAfter_snoc, Fires, answer, hsame]
  rw [hlast] at hdue
  have hspan := interval_pos h
  have hmicros : (due.micros : Int) = t.micros + span := Instant.micros_of_shift? hdue
  have hearly : (check b (some due) c.last c.now).1 = .ok true → t.micros + span ≤ c.now.micros := fun hfires => by
    have hle : due.micros ≤ c.now.micros := (of_check h hfires).1
    omega
  obtain ⟨-, hcheck⟩ | ⟨-, -, hcheck⟩ | ⟨after, hle, hafter, hcheck⟩ := check_cases h due c.last c.now
  · exact ⟨due, by rw [hcheck], by omega, hearly⟩
  · exact ⟨due, by rw [hcheck], by omega, hearly⟩
  · have hafter := Instant.micros_of_shift? hafter
    have hle : due.micros ≤ c.now.micros := hle
    exact ⟨after, by rw [hcheck], by omega, hearly⟩

/-- A check that sets the first firing and is shown no last run fires, or meets the end of the calendar. -/
theorem fires_of_seeds (h : interval b = .ok (some span)) (hseeds : Seeds b before c) (hlast : c.last = none) :
    Fires b before c ∨ Overflows b span before c := by
  obtain ⟨due, hdue, hsame⟩ := check_of_seeds h hseeds
  rw [Fires, Overflows, answer, hsame]
  rw [hlast] at hdue
  obtain rfl : c.now = due := Option.some.inj hdue
  obtain ⟨hearly, -⟩ | ⟨-, hend, hcheck⟩ | ⟨after, -, -, hcheck⟩ := check_cases h c.now c.last c.now
  · exact absurd hearly (Nat.lt_irrefl _)
  · exact .inr ⟨by rw [hcheck], hend⟩
  · exact .inl (by rw [hcheck])

/-- Once the next firing is set, checks at the same times leave the same next firing. -/
theorem nextAfter_congr (h : interval b = .ok (some span)) (hset : (nextAfter b before).isSome = true)
    {mid mid' : List Check} (htimes : mid.map Check.now = mid'.map Check.now) :
    nextAfter b (before ++ mid) = nextAfter b (before ++ mid') := by
  induction mid generalizing before mid' with
  | nil =>
    rw [List.map_nil, eq_comm, List.map_eq_nil_iff] at htimes
    rw [htimes]
  | cons c mid ih =>
    obtain ⟨c', mid', rfl, hnow, htimes⟩ := List.map_eq_cons_iff.mp htimes.symm
    obtain ⟨due, hdue⟩ := Option.isSome_iff_exists.mp hset
    have hsame : nextAfter b (before ++ [c]) = nextAfter b (before ++ [c']) := by
      rw [nextAfter_snoc, nextAfter_snoc, hdue, ← hnow]
      exact congrArg Prod.snd (check_congr due _ _ _)
    obtain ⟨due', hdue', -⟩ := le_nextAfter h hdue [c]
    rw [List.append_cons, List.append_cons before c', ih (by rw [hdue']; rfl) htimes.symm, nextAfter_append,
      nextAfter_append b (before ++ [c']), hsame]

/-! ## Firings -/

/-- Checks that fire are at least one interval apart. -/
theorem add_span_le_of_fires (h : interval b = .ok (some span)) (hfirst : Fires b before c)
    (hsecond : Fires b (before ++ c :: mid) d) : c.now.micros + span ≤ d.now.micros := by
  obtain ⟨after, hafter, hset⟩ := nextAfter_of_fires h hfirst
  rw [List.append_cons] at hsecond
  obtain ⟨due, hdue, hle⟩ := le_nextAfter h hset mid
  have hlate : due.micros ≤ d.now.micros := le_of_fires h hdue hsecond
  have hle : after.micros ≤ due.micros := hle
  have hmicros := Instant.micros_of_shift? hafter
  omega

/-- A check that fires comes with or after the one that set the first firing, and one interval or more after the last
run that this was shown. -/
theorem exists_seeds_of_fires (h : interval b = .ok (some span)) (hfires : Fires b before d) :
    ∃ front c back, before ++ [d] = front ++ c :: back ∧ Seeds b front c ∧
      ∀ t, c.last = some t → t.micros + span ≤ d.now.micros := by
  cases hbefore : nextAfter b before with
  | none =>
    obtain ⟨after, -, hset⟩ := nextAfter_of_fires h hfires
    have hseeds : Seeds b before d := ⟨hbefore, by rw [hset]; rfl⟩
    refine ⟨before, d, [], rfl, hseeds, fun t hlast => ?_⟩
    obtain ⟨-, -, -, hlate⟩ := le_of_seeds h hseeds hlast
    exact hlate hfires
  | some due =>
    obtain ⟨front, c, back, rfl, hseeds⟩ := exists_seeds (show (nextAfter b before).isSome = true by rw [hbefore]; rfl)
    refine ⟨front, c, back ++ [d], by simp, hseeds, fun t hlast => ?_⟩
    obtain ⟨first, hfirst, hlate, -⟩ := le_of_seeds h hseeds hlast
    rw [List.append_cons] at hbefore hfires
    obtain ⟨due', hdue', hle⟩ := le_nextAfter h hfirst back
    have hdue : due'.micros ≤ d.now.micros := le_of_fires h hdue' hfires
    have hle : first.micros ≤ due'.micros := hle
    omega

/-- One interval after a firing a check fires, if none has done so since, or meets the end of the calendar. -/
theorem fires_of_late (h : interval b = .ok (some span)) (hfires : Fires b before c)
    (hquiet : ∀ front e back, mid = front ++ e :: back → ¬Fires b (before ++ c :: front) e)
    (hlate : c.now.micros + span ≤ d.now.micros) :
    Fires b (before ++ c :: mid) d ∨ Overflows b span (before ++ c :: mid) d := by
  obtain ⟨after, hafter, hset⟩ := nextAfter_of_fires h hfires
  have hmicros := Instant.micros_of_shift? hafter
  rw [List.append_cons]
  have hdue : nextAfter b (before ++ [c] ++ mid) = some after :=
    nextAfter_of_quiet h hset fun front e back hsplit => by
      rw [← List.append_cons]
      exact hquiet front e back hsplit
  refine fires_or_overflows h hdue ?_
  show after.micros ≤ d.now.micros
  omega

/-- Once the first firing is set, the answers hang on the times alone. -/
theorem answer_congr (h : interval b = .ok (some span)) (hset : (nextAfter b before).isSome = true)
    {mid' : List Check} {d' : Check} (htimes : mid.map Check.now = mid'.map Check.now) (hnow : d.now = d'.now) :
    answer b (before ++ mid) d = answer b (before ++ mid') d' := by
  obtain ⟨due, hdue⟩ := Option.isSome_iff_exists.mp hset
  obtain ⟨due', hdue', -⟩ := le_nextAfter h hdue mid
  rw [answer, answer, ← nextAfter_congr h hset htimes, hdue', hnow]
  exact congrArg Prod.fst (check_congr due' _ _ _)

/-- Checks of a new cyclic trigger with an interval, at any times and with any last runs shown. Two that fire are at
least one interval apart. One that fires comes with or after the check that set the first firing, and no earlier than
one interval after the last run which that check was shown; if it was shown none, it fires itself. From one interval
after a firing on, as long as none has fired since, a check fires. The exceptions are checks that meet the end of the
calendar. Once the first firing is set, the answers hang on the times alone. -/
theorem keeps_pace (h : interval b = .ok (some span)) :
    (∀ before c mid d, Fires b before c → Fires b (before ++ c :: mid) d → c.now.micros + span ≤ d.now.micros) ∧
    (∀ before d, Fires b before d → ∃ front c back, before ++ [d] = front ++ c :: back ∧ Seeds b front c ∧
      ∀ t, c.last = some t → t.micros + span ≤ d.now.micros) ∧
    (∀ before c, Seeds b before c → c.last = none → Fires b before c ∨ Overflows b span before c) ∧
    (∀ before c mid d, Fires b before c →
      (∀ front e back, mid = front ++ e :: back → ¬Fires b (before ++ c :: front) e) →
      c.now.micros + span ≤ d.now.micros →
      Fires b (before ++ c :: mid) d ∨ Overflows b span (before ++ c :: mid) d) ∧
    (∀ before, (nextAfter b before).isSome = true → ∀ mid mid' d d',
      mid.map Check.now = mid'.map Check.now → d.now = d'.now →
      answer b (before ++ mid) d = answer b (before ++ mid') d') :=
  ⟨fun _ _ _ _ => add_span_le_of_fires h, fun _ _ => exists_seeds_of_fires h, fun _ _ => fires_of_seeds h,
    fun _ _ _ _ => fires_of_late h, fun _ hset _ _ _ _ => answer_congr h hset⟩

/-- A trigger that fires every five seconds. -/
def everyFive : Block :=
  ⟨.cyclicTrigger, "c", [("Interval", "5"), ("Unit", "seconds")]⟩

theorem interval_everyFive : interval everyFive = .ok (some 5000000) := by
  rfl

/-- The check of a trigger without a last run, that many microseconds after the start of the year 2024. -/
def checkAt (micros : Nat) : Check :=
  ⟨none, ⟨(Instant.ofDate ⟨2024, 1, 1⟩ 0).micros + micros⟩⟩

/-- The trigger fires at once, declines within five seconds, and fires behind them: five seconds apart at least. -/
theorem keeps_pace_everyFive :
    interval everyFive = .ok (some 5000000) ∧ Fires everyFive [] (checkAt 0) ∧
      Fires everyFive [checkAt 0, checkAt 4900000] (checkAt 5000001) ∧
      ((checkAt 0).now.micros : Int) + 5000000 ≤ (checkAt 5000001).now.micros := by
  have hfirst : Fires everyFive [] (checkAt 0) := rfl
  have hsecond : Fires everyFive [checkAt 0, checkAt 4900000] (checkAt 5000001) := rfl
  exact ⟨interval_everyFive, hfirst, hsecond,
    (keeps_pace interval_everyFive).1 [] (checkAt 0) [checkAt 4900000] (checkAt 5000001) hfirst hsecond⟩

end Cyclic

end Deskhand
