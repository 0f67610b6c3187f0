import Deskhand.Proofs.Json.Reading
import Deskhand.Proofs.Text.Pieces
import Mathlib.Data.List.TakeWhile

/-!
# Where the reader stops

Whatever the reader takes from the front of a text it takes from it in front of other texts too. Only a number has to
know what stands behind it, which must not go on with it (`Continues`): no digit, no fraction and no exponent. Each
scanner is local in this sense, from the blanks up to the values, and since every step of the reader leaves fewer
characters, two units of fuel for each of them are always enough. Main statements:

* `readNumber_local`, `readText_local`, `readScalar_local`: scalars are read alike in front of whatever does not go on
  with a number, and strings in front of everything;
* `Reads.local`: so are values, items and fields;
* `Reads.isReadBy`: the reader takes whatever the rules read;
* `read_eq_ok_iff`: when a text is read as a value.
-/

namespace Deskhand.Json

open Text (isAsciiDigit)

/-! ## Blanks -/

/-- Whether there are only blanks. -/
def IsGap (gap : List Char) : Prop :=
  ∀ c ∈ gap, isSpace c = true

theorem isGap_nil : IsGap [] :=
  fun _ hc => absurd hc List.not_mem_nil

theorem skip_gap {gap : List Char} (h : IsGap gap) (cs : List Char) : skip (gap ++ cs) = skip cs :=
  List.dropWhile_append_of_pos h

theorem exists_gap (cs : List Char) : ∃ gap, IsGap gap ∧ cs = gap ++ skip cs :=
  ⟨cs.takeWhile isSpace, fun _ hc => List.mem_takeWhile_imp hc, List.takeWhile_append_dropWhile.symm⟩

/-- A stretch that starts behind blanks does so in front of everything. -/
theorem skip_local {cs w rest : List Char} (h : skip cs = w ++ rest) (hne : w ≠ []) :
    ∃ gap, IsGap gap ∧ cs = gap ++ (w ++ rest) ∧ ∀ rest', skip (gap ++ (w ++ rest')) = w ++ rest' := by
  obtain ⟨gap, hgap, hcs⟩ := exists_gap cs
  refine ⟨gap, hgap, h ▸ hcs, fun rest' => ?_⟩
  rw [skip_gap hgap]
  cases w with
  | nil => exact absurd rfl hne
  | cons c w =>
    have hhead := List.head?_dropWhile_not isSpace cs
    rw [show cs.dropWhile isSpace = _ from h] at hhead
    exact List.dropWhile_cons_of_neg (by simpa using hhead)

theorem skip_cons_local {cs rest : List Char} {c : Char} (h : skip cs = c :: rest) :
    ∃ gap, IsGap gap ∧ cs = gap ++ c :: rest ∧ ∀ rest', skip (gap ++ c :: rest') = c :: rest' :=
  skip_local (w := [c]) h (List.cons_ne_nil c [])

/-! ## Numbers -/

/-- Whether a list starts with a digit. -/
def StartsWithDigit (cs : List Char) : Prop :=
  ∃ c rest, cs = c :: rest ∧ isAsciiDigit c = true

/-- Whether a list starts with a fraction: a point and a digit. -/
def StartsWithFraction (cs : List Char) : Prop :=
  ∃ digits, cs = '.' :: digits ∧ StartsWithDigit digits

/-- Whether a list is a sign, or nothing. -/
def IsSign (sign : List Char) : Prop :=
  sign = [] ∨ sign = ['+'] ∨ sign = ['-']

/-- Whether a list starts with an exponent: its letter, perhaps a sign, and a digit. -/
def StartsWithExponent (cs : List Char) : Prop :=
  ∃ e sign digits, cs = e :: (sign ++ digits) ∧ (e = 'e' ∨ e = 'E') ∧ IsSign sign ∧ StartsWithDigit digits

/-- Whether a list goes on with the number that it stands behind. -/
def Continues (cs : List Char) : Prop :=
  StartsWithDigit cs ∨ StartsWithFraction cs ∨ StartsWithExponent cs

theorem leadingDigits_of_not {cs : List Char} (h : ¬StartsWithDigit cs) : Decimal.leadingDigits cs = ([], cs) := by
  cases cs with
  | nil => rfl
  | cons c rest =>
    have hc : ¬isAsciiDigit c = true := fun hc => h ⟨c, rest, rfl, hc⟩
    rw [Decimal.leadingDigits, List.takeWhile_cons_of_neg hc, List.dropWhile_cons_of_neg hc, List.map_nil]

/-- The digits at the start of a list are read alike in front of whatever starts with no digit. -/
theorem leadingDigits_append {digits rest : List Char} (hdigits : ∀ c ∈ digits, isAsciiDigit c = true)
    (hrest : ¬StartsWithDigit rest) :
    Decimal.leadingDigits (digits ++ rest) = (digits.map (fun c => c.toNat - 0x30), rest) := by
  have hnone := leadingDigits_of_not hrest
  rw [Decimal.leadingDigits, Prod.mk.injEq, List.map_eq_nil_iff] at hnone
  rw [Decimal.leadingDigits, List.takeWhile_append_of_pos hdigits, List.dropWhile_append_of_pos hdigits, hnone.1,
    hnone.2, List.append_nil]

/-- A list is the digits at its start and a rest that starts with none. -/
theorem exists_digits (cs : List Char) :
    ∃ digits rest, cs = digits ++ rest ∧ (∀ c ∈ digits, isAsciiDigit c = true) ∧ ¬StartsWithDigit rest := by
  refine ⟨cs.takeWhile isAsciiDigit, cs.dropWhile isAsciiDigit, List.takeWhile_append_dropWhile.symm,
    fun _ hc => List.mem_takeWhile_imp hc, ?_⟩
  rintro ⟨c, rest, hcs, hc⟩
  have hhead := List.head?_dropWhile_not isAsciiDigit cs
  rw [hcs] at hhead
  simp [hc] at hhead

theorem StartsWithDigit.append {cs : List Char} (h : StartsWithDigit cs) (rest : List Char) :
    StartsWithDigit (cs ++ rest) := by
  obtain ⟨c, more, rfl, hc⟩ := h
  exact ⟨c, more ++ rest, rfl, hc⟩

theorem startsWithDigit_of_ne_nil {digits : List Char} (hne : digits ≠ []) (h : ∀ c ∈ digits, isAsciiDigit c = true) :
    StartsWithDigit digits := by
  cases digits with
  | nil => exact absurd rfl hne
  | cons c rest => exact ⟨c, rest, rfl, h c List.mem_cons_self⟩

theorem fractionDigits_of_not {cs : List Char} (h : ¬StartsWithFraction cs) : fractionDigits cs = ([], cs) := by
  unfold fractionDigits
  split
  · next rest => rw [leadingDigits_of_not fun hdigits => h ⟨rest, rfl, hdigits⟩]
  · rfl

/-- The fraction at the start of a list is read alike in front of whatever starts with no digit and no fraction. -/
theorem fractionDigits_local (cs : List Char) :
    ∃ w fraction rest, cs = w ++ rest ∧ fractionDigits cs = (fraction, rest) ∧ (w = [] ∨ ∃ more, w = '.' :: more) ∧
      (fraction = [] ↔ ¬StartsWithFraction cs) ∧
      ∀ rest', ¬StartsWithDigit rest' → ¬StartsWithFraction rest' →
        fractionDigits (w ++ rest') = (fraction, rest') := by
  by_cases h : StartsWithFraction cs
  · obtain ⟨behind, rfl, hdigit⟩ := h
    obtain ⟨digits, rest, rfl, hdigits, hrest⟩ := exists_digits behind
    have hne : digits ≠ [] := by
      rintro rfl
      exact hrest hdigit
    have hread : ∀ rest', ¬StartsWithDigit rest' →
        fractionDigits ('.' :: digits ++ rest') = (digits.map (fun c => c.toNat - 0x30), rest') := by
      intro rest' hrest'
      rw [List.cons_append, fractionDigits, leadingDigits_append hdigits hrest']
      split
      · next hnil => simp [hne] at hnil
      · rfl
    refine ⟨'.' :: digits, _, rest, rfl, hread rest hrest, .inr ⟨digits, rfl⟩, ?_,
      fun rest' hrest' _ => hread rest' hrest'⟩
    simp [hne, StartsWithFraction, hdigit]
  · exact ⟨[], [], cs, rfl, fractionDigits_of_not h, .inl rfl, by simp [h],
      fun rest' _ hrest' => fractionDigits_of_not hrest'⟩

theorem exists_sign (cs : List Char) : ∃ sign, IsSign sign ∧ cs = sign ++ (Number.sign cs).2 := by
  unfold Number.sign
  split
  · exact ⟨['-'], .inr (.inr rfl), rfl⟩
  · exact ⟨['+'], .inr (.inl rfl), rfl⟩
  · exact ⟨[], .inl rfl, rfl⟩

/-- A sign is read alike in front of any digit. -/
theorem sign_append {sign : List Char} (h : IsSign sign) :
    ∃ negative, ∀ digits, StartsWithDigit digits → Number.sign (sign ++ digits) = (negative, digits) := by
  obtain rfl | rfl | rfl := h
  · refine ⟨false, ?_⟩
    rintro _ ⟨c, rest, rfl, hc⟩
    unfold Number.sign
    split
    · next heq => cases heq; exact absurd hc (by decide)
    · next heq => cases heq; exact absurd hc (by decide)
    · rfl
  · exact ⟨false, fun _ _ => rfl⟩
  · exact ⟨true, fun _ _ => rfl⟩

theorem exponentPart_of_not {cs : List Char} (h : ¬StartsWithExponent cs) : exponentPart cs = (none, cs) := by
  unfold exponentPart
  split
  · next c rest =>
    split
    · next he =>
      obtain ⟨sign, hsign, hrest⟩ := exists_sign rest
      have hdigits : ¬StartsWithDigit (Number.sign rest).2 := fun hdigits =>
        h ⟨c, sign, _, congrArg (c :: ·) hrest, by simpa using he, hsign, hdigits⟩
      dsimp only
      rw [leadingDigits_of_not hdigits]
    · rfl
  · rfl

/-- The exponent at the start of a list is read alike in front of whatever starts with no digit and no exponent. -/
theorem exponentPart_local (cs : List Char) :
    ∃ w e rest, cs = w ++ rest ∧ exponentPart cs = (e, rest) ∧
      (w = [] ∨ ∃ c more, w = c :: more ∧ (c = 'e' ∨ c = 'E')) ∧
      (e = none ↔ ¬StartsWithExponent cs) ∧
      ∀ rest', ¬StartsWithDigit rest' → ¬StartsWithExponent rest' → exponentPart (w ++ rest') = (e, rest') := by
  by_cases h : StartsWithExponent cs
  · obtain ⟨e, sign, behind, rfl, he, hsign, hdigit⟩ := h
    obtain ⟨digits, rest, rfl, hdigits, hrest⟩ := exists_digits behind
    have hne : digits ≠ [] := by
      rintro rfl
      exact hrest hdigit
    have hstart := startsWithDigit_of_ne_nil hne hdigits
    have hletter : (e == 'e' || e == 'E') = true := by simpa using he
    have hread : ∃ negative, ∀ rest', ¬StartsWithDigit rest' →
        exponentPart (e :: (sign ++ digits) ++ rest') =
          (some (Number.signed negative (Number.ofDigits (digits.map fun c => c.toNat - 0x30))), rest') := by
      obtain ⟨negative, hnegative⟩ := sign_append hsign
      refine ⟨negative, fun rest' hrest' => ?_⟩
      rw [List.cons_append, List.append_assoc, exponentPart, if_pos hletter, hnegative _ (hstart.append rest')]
      dsimp only
      rw [leadingDigits_append hdigits hrest']
      split
      · next hnil => simp [hne] at hnil
      · next heq => rw [← (Prod.mk.inj heq).1, ← (Prod.mk.inj heq).2]
    obtain ⟨negative, hread⟩ := hread
    refine ⟨e :: (sign ++ digits), _, rest, by simp, by rw [← hread rest hrest]; simp, .inr ⟨e, _, rfl, he⟩, ?_,
      fun rest' hrest' _ => hread rest' hrest'⟩
    simp only [reduceCtorEq, false_iff, not_not]
    exact ⟨e, sign, _, rfl, he, hsign, hdigit⟩
  · exact ⟨[], none, cs, rfl, exponentPart_of_not h, .inl rfl, by simp [h],
      fun rest' _ hrest' => exponentPart_of_not hrest'⟩

theorem wholeDigits_of_not {cs : List Char} (h : ¬StartsWithDigit cs) : wholeDigits cs = ([], cs) := by
  unfold wholeDigits
  split
  · next rest => exact absurd ⟨'0', rest, rfl, by decide⟩ h
  · exact leadingDigits_of_not h

/-- The whole part of a number is a zero, or all digits at its start. -/
theorem exists_whole {cs : List Char} (h : StartsWithDigit cs) :
    ∃ w rest, cs = w ++ rest ∧ StartsWithDigit w ∧ (∀ c ∈ w, isAsciiDigit c = true) ∧
      (w = ['0'] ∨ w.head? ≠ some '0' ∧ ¬StartsWithDigit rest) := by
  obtain ⟨digits, rest, rfl, hdigits, hrest⟩ := exists_digits cs
  have hne : digits ≠ [] := by
    rintro rfl
    exact hrest h
  by_cases hzero : digits.head? = some '0'
  · obtain ⟨more, rfl⟩ := List.head?_eq_some_iff.mp hzero
    exact ⟨['0'], more ++ rest, rfl, ⟨'0', [], rfl, by decide⟩, by simp; decide, .inl rfl⟩
  · exact ⟨digits, rest, rfl, startsWithDigit_of_ne_nil hne hdigits, hdigits, .inr ⟨hzero, hrest⟩⟩

/-- A whole part is read alike in front of whatever starts with no digit; a zero in front of everything. -/
theorem wholeDigits_append {w rest : List Char} (h : ∀ c ∈ w, isAsciiDigit c = true)
    (hwhole : w = ['0'] ∨ w.head? ≠ some '0' ∧ ¬StartsWithDigit rest) :
    wholeDigits (w ++ rest) = (w.map (fun c => c.toNat - 0x30), rest) := by
  obtain rfl | ⟨hzero, hrest⟩ := hwhole
  · rfl
  · unfold wholeDigits
    split
    · next more heq =>
      cases w with
      | nil => exact absurd ⟨'0', more, heq, by decide⟩ hrest
      | cons c w =>
        cases heq
        exact absurd rfl hzero
    · exact leadingDigits_append h hrest

/-- The number that its digits and its exponent make. -/
def numberOf (negative : Bool) (whole fraction : List Nat) (e : Option Int) : Except Refusal Value :=
  if fraction.isEmpty && e.isNone then
    if whole.length > Integer.maxDigits then .error (.tooLong whole.length)
    else .ok (.int (Number.signed negative (Number.ofDigits whole)))
  else
    .ok (.float (Binary.ofDecimal negative (Number.ofDigits (whole ++ fraction)) (e.getD 0 - (fraction.length : Int))))

theorem readNumber_eq {negative : Bool} {cs behindWhole behindFraction rest : List Char} {whole fraction : List Nat}
    {e : Option Int} (hwhole : wholeDigits cs = (whole, behindWhole)) (hne : whole ≠ [])
    (hfraction : fractionDigits behindWhole = (fraction, behindFraction))
    (hexponent : exponentPart behindFraction = (e, rest)) :
    readNumber negative cs = (numberOf negative whole fraction e).map fun v => (v, rest) := by
  rw [readNumber, hwhole]
  split
  · next heq => exact absurd (Prod.mk.inj heq).1 hne
  · next heq =>
    obtain ⟨rfl, rfl⟩ := Prod.mk.inj heq
    simp only [hfraction, hexponent, numberOf]
    split
    · split <;> rfl
    · rfl

theorem readNumber_of_not {negative : Bool} {cs : List Char} (h : ¬StartsWithDigit cs) :
    readNumber negative cs = .error .malformed := by
  rw [readNumber, wholeDigits_of_not h]

/-- A number is read alike in front of whatever does not go on with it. -/
theorem readNumber_local (negative : Bool) {cs : List Char} (h : StartsWithDigit cs) :
    ∃ (w rest : List Char) (outcome : Except Refusal Value), cs = w ++ rest ∧ StartsWithDigit w ∧
      readNumber negative cs = outcome.map (fun v => (v, rest)) ∧
      ∀ rest', ¬Continues rest' → readNumber negative (w ++ rest') = outcome.map fun v => (v, rest') := by
  obtain ⟨w, behindWhole, rfl, hw, hdigits, hwhole⟩ := exists_whole h
  obtain ⟨f, fraction, behindFraction, rfl, hfraction, hpoint, -, hflocal⟩ := fractionDigits_local behindWhole
  obtain ⟨x, e, rest, rfl, hexponent, hletter, -, hxlocal⟩ := exponentPart_local behindFraction
  have hne : w.map (fun c => c.toNat - 0x30) ≠ [] := by
    obtain ⟨c, more, rfl, -⟩ := hw
    simp
  refine ⟨w ++ (f ++ x), rest, numberOf negative (w.map fun c => c.toNat - 0x30) fraction e, ?_, hw.append _, ?_, ?_⟩
  · simp
  · exact readNumber_eq (wholeDigits_append hdigits hwhole) hne hfraction hexponent
  intro rest' hrest'
  obtain ⟨hdigit', hfraction', hexponent'⟩ : ¬StartsWithDigit rest' ∧ ¬StartsWithFraction rest' ∧
      ¬StartsWithExponent rest' := by
    simpa only [Continues, not_or] using hrest'
  -- no digit stands behind a stretch that starts with a point or the letter of an exponent, or is empty
  have hx : ¬StartsWithDigit (x ++ rest') ∧ ¬StartsWithFraction (x ++ rest') := by
    obtain rfl | ⟨c, more, rfl, hc⟩ := hletter
    · exact ⟨hdigit', hfraction'⟩
    · constructor
      · rintro ⟨d, _, heq, hd⟩
        cases heq
        obtain rfl | rfl := hc <;> exact absurd hd (by decide)
      · rintro ⟨_, heq, -⟩
        cases heq
        exact absurd hc (by decide)
  have hf : ¬StartsWithDigit (f ++ (x ++ rest')) := by
    obtain rfl | ⟨more, rfl⟩ := hpoint
    · exact hx.1
    · rintro ⟨d, _, heq, hd⟩
      cases heq
      exact absurd hd (by decide)
  rw [List.append_assoc, List.append_assoc]
  have hwhole' : w = ['0'] ∨ w.head? ≠ some '0' ∧ ¬StartsWithDigit (f ++ (x ++ rest')) :=
    hwhole.imp_right fun hzero => ⟨hzero.1, hf⟩
  exact readNumber_eq (wholeDigits_append hdigits hwhole') hne (hflocal _ hx.1 hx.2) (hxlocal _ hdigit' hexponent')

/-! ## Strings -/

/-- Four hexadecimal digits are read alike in front of everything. -/
theorem unit?_local {cs rest : List Char} {n : Nat} (h : unit? cs = some (n, rest)) :
    ∃ w, cs = w ++ rest ∧ ∀ rest', unit? (w ++ rest') = some (n, rest') := by
  unfold unit? at h
  split at h
  · next a b c d rest₀ =>
    simp only [Option.bind_eq_bind, Option.bind_eq_some_iff, Option.some.injEq, Prod.mk.injEq] at h
    obtain ⟨a', ha, b', hb, c', hc, d', hd, hn, rfl⟩ := h
    exact ⟨[a, b, c, d], rfl, fun rest' => by simp [unit?, ha, hb, hc, hd, hn]⟩
  · cases h

/-- Whether a list starts with the escape of a second half of a pair. -/
def StartsWithLow (cs : List Char) : Prop :=
  ∃ more low after, cs = '\\' :: 'u' :: more ∧ unit? more = some (low, after) ∧ 0xDC00 ≤ low ∧ low ≤ 0xDFFF

section Units

variable {cs behind after : List Char} {high low : Nat}

/-- An escape that makes a pair with the one behind it. -/
theorem readUnits_pair {more : List Char} (hunit : unit? cs = some (high, '\\' :: 'u' :: more))
    (hhigh : 0xD800 ≤ high ∧ high ≤ 0xDBFF) (hmore : unit? more = some (low, after))
    (hlow : 0xDC00 ≤ low ∧ low ≤ 0xDFFF) :
    readUnits cs = some (Char.ofNat (0x10000 + (high - 0xD800) * 0x400 + (low - 0xDC00)), after) := by
  simp [readUnits, hunit, hhigh, hmore, hlow]

/-- An escape that makes none. -/
theorem readUnits_single (hunit : unit? cs = some (high, behind))
    (h : ¬((0xD800 ≤ high ∧ high ≤ 0xDBFF) ∧ StartsWithLow behind)) :
    readUnits cs = some (ofUnit high, behind) := by
  simp only [readUnits, hunit, Option.bind_eq_bind, Option.bind_some]
  split
  · next hhigh =>
    split
    · next more =>
      split
      · next low after hmore =>
        split
        · next hlow =>
          simp only [Bool.and_eq_true, decide_eq_true_eq] at hhigh hlow
          exact absurd ⟨hhigh, more, low, after, rfl, hmore, hlow⟩ h
        · rfl
      · rfl
    · rfl
  · rfl

end Units

/-- A numeric escape is read alike in front of whatever makes no pair of it that is none. -/
theorem readUnits_local {cs rest : List Char} {c : Char} (h : readUnits cs = some (c, rest)) :
    ∃ w, cs = w ++ rest ∧
      ∀ rest', (StartsWithLow rest' → StartsWithLow rest) → readUnits (w ++ rest') = some (c, rest') := by
  obtain ⟨⟨high, behind⟩, hunit, -⟩ := Option.bind_eq_some_iff.mp (by rwa [readUnits] at h)
  obtain ⟨w, rfl, hw⟩ := unit?_local hunit
  by_cases hpair : (0xD800 ≤ high ∧ high ≤ 0xDBFF) ∧ StartsWithLow behind
  · obtain ⟨hhigh, more, low, after, rfl, hmore, hlow⟩ := hpair
    rw [readUnits_pair hunit hhigh hmore hlow] at h
    obtain ⟨rfl, rfl⟩ := Prod.mk.inj (Option.some.inj h)
    obtain ⟨w', rfl, hw'⟩ := unit?_local hmore
    refine ⟨w ++ '\\' :: 'u' :: w', by simp, fun rest' _ => ?_⟩
    rw [List.append_assoc]
    exact readUnits_pair (hw _) hhigh (hw' rest') hlow
  · rw [readUnits_single hunit hpair] at h
    obtain ⟨rfl, rfl⟩ := Prod.mk.inj (Option.some.inj h)
    exact ⟨w, rfl, fun rest' hrest' => readUnits_single (hw rest') fun hlow => hpair ⟨hlow.1, hrest' hlow.2⟩⟩

/-- What a string takes from its text first, its end apart: the stretch of one character. -/
inductive StringChar : List Char → Char → List Char → Prop
  | units {cs rest : List Char} {c : Char} : readUnits cs = some (c, rest) → StringChar ('\\' :: 'u' :: cs) c rest
  | escape {e c : Char} {rest : List Char} : escaped? e = some c → StringChar ('\\' :: e :: rest) c rest
  | plain {c : Char} {rest : List Char} : ¬c.toNat < 0x20 → c ≠ '\\' → c ≠ '"' → StringChar (c :: rest) c rest

theorem readString_cons {fuel : Nat} {cs behind more rest : List Char} {c : Char} (h : StringChar cs c behind)
    (hmore : readString fuel behind = .ok (more, rest)) : readString (fuel + 1) cs = .ok (c :: more, rest) := by
  cases h with
  | units hunits => simp [readString, hunits, hmore, bind, Except.bind]
  | @escape e _ _ hescape =>
    have he : e ≠ 'u' := by
      rintro rfl
      simp [escaped?] at hescape
    simp [readString, hescape, hmore, bind, Except.bind]
  | plain hcontrol hslash hquote => simp [readString, hcontrol, hslash, hmore, bind, Except.bind]

/-- A string ends at once, or goes on behind its first character. -/
theorem readString_cases {fuel : Nat} {cs chars rest : List Char} (h : readString fuel cs = .ok (chars, rest)) :
    (chars = [] ∧ cs = '"' :: rest) ∨ ∃ fuel' c behind more, fuel = fuel' + 1 ∧ chars = c :: more ∧
      StringChar cs c behind ∧ readString fuel' behind = .ok (more, rest) := by
  cases fuel with
  | zero => cases h
  | succ fuel =>
    unfold readString at h
    split at h
    · cases h
    · cases h
      exact .inl ⟨rfl, rfl⟩
    · split at h
      · next hunits =>
        obtain ⟨⟨more, after⟩, hmore, h⟩ := bind_eq_ok_iff.mp h
        cases h
        exact .inr ⟨fuel, _, _, more, rfl, rfl, .units hunits, hmore⟩
      · cases h
    · split at h
      · next hescape =>
        obtain ⟨⟨more, after⟩, hmore, h⟩ := bind_eq_ok_iff.mp h
        cases h
        exact .inr ⟨fuel, _, _, more, rfl, rfl, .escape hescape, hmore⟩
      · cases h
    · next c behind hquote _ _ =>
      split at h
      · cases h
      · next hplain =>
        obtain ⟨⟨more, after⟩, hmore, h⟩ := bind_eq_ok_iff.mp h
        cases h
        simp only [Bool.or_eq_true, decide_eq_true_eq, beq_iff_eq, not_or] at hplain
        exact .inr ⟨fuel, _, _, more, rfl, rfl, .plain hplain.1 hplain.2 hquote, hmore⟩

/-- Whether a string starts with a second half of a pair is seen from the string alone. -/
theorem StartsWithLow.of_string {fuel : Nat} {w chars rest' : List Char} (h : StartsWithLow (w ++ rest'))
    (hw : readString fuel w = .ok (chars, [])) (rest : List Char) : StartsWithLow (w ++ rest) := by
  obtain ⟨more, low, after, heq, hmore, hlow⟩ := h
  obtain ⟨-, rfl⟩ | ⟨_, _, _, _, -, -, hfirst, -⟩ := readString_cases hw
  · cases heq
  · cases hfirst with
    | units hunits =>
      obtain ⟨⟨high, behind⟩, hunit, -⟩ := Option.bind_eq_some_iff.mp (by rwa [readUnits] at hunits)
      obtain ⟨u, rfl, hu⟩ := unit?_local hunit
      simp only [List.cons_append, List.cons.injEq, true_and, List.append_assoc] at heq
      rw [← heq, hu] at hmore
      obtain ⟨rfl, -⟩ := Prod.mk.inj (Option.some.inj hmore)
      exact ⟨u ++ (behind ++ rest), high, _, by simp, hu _, hlow⟩
    | @escape e _ _ hescape =>
      simp only [List.cons_append, List.cons.injEq, true_and] at heq
      rw [heq.1] at hescape
      cases hescape
    | plain _ hslash _ => exact absurd (List.cons.inj heq).1 hslash

/-- The first character of a string is taken alike in front of everything behind the string. -/
theorem StringChar.local {fuel : Nat} {cs w rest chars : List Char} {c : Char} (h : StringChar cs c (w ++ rest))
    (hw : readString fuel w = .ok (chars, [])) :
    ∃ u, cs = u ++ (w ++ rest) ∧ u ≠ [] ∧ ∀ rest', StringChar (u ++ (w ++ rest')) c (w ++ rest') := by
  generalize hbehind : w ++ rest = behind at h
  cases h with
  | units hunits =>
    obtain ⟨u, rfl, hu⟩ := readUnits_local hunits
    refine ⟨'\\' :: 'u' :: u, by simp, by simp, fun rest' => .units (hu _ fun hlow => ?_)⟩
    rw [← hbehind]
    exact hlow.of_string hw rest
  | @escape e _ _ hescape => exact ⟨['\\', e], rfl, by simp, fun _ => .escape hescape⟩
  | plain hcontrol hslash hquote => exact ⟨[c], rfl, by simp, fun _ => .plain hcontrol hslash hquote⟩

/-- The characters of a string are read alike in front of everything, with enough fuel for each of them. -/
theorem readString_local {fuel : Nat} {cs chars rest : List Char} (h : readString fuel cs = .ok (chars, rest)) :
    ∃ w, cs = w ++ rest ∧ w ≠ [] ∧
      ∀ rest' fuel', w.length ≤ fuel' → readString fuel' (w ++ rest') = .ok (chars, rest') := by
  induction fuel generalizing cs chars rest with
  | zero => cases h
  | succ fuel ih =>
    obtain ⟨rfl, rfl⟩ | ⟨_, c, behind, more, hfuel, rfl, hfirst, hmore⟩ := readString_cases h
    · refine ⟨['"'], rfl, by simp, fun rest' fuel' hfuel => ?_⟩
      obtain ⟨fuel', rfl⟩ := Nat.exists_eq_add_one.mpr hfuel
      rfl
    · obtain rfl := Nat.succ.inj hfuel
      obtain ⟨w, rfl, hne, hw⟩ := ih hmore
      have halone : readString w.length w = .ok (more, []) := by simpa using hw [] w.length (Nat.le_refl _)
      obtain ⟨u, rfl, hu, hchar⟩ := hfirst.local halone
      refine ⟨u ++ w, by simp, by simp [hne], fun rest' fuel' hfuel => ?_⟩
      have hpos := List.length_pos_iff.mpr hu
      rw [List.length_append] at hfuel
      obtain ⟨fuel', rfl⟩ : ∃ n, fuel' = n + 1 := ⟨fuel' - 1, by omega⟩
      rw [List.append_assoc]
      exact readString_cons (hchar rest') (hw rest' fuel' (by omega))

/-- A string is read alike in front of everything. -/
theorem readText_local {cs rest : List Char} {s : String} (h : readText cs = .ok (s, rest)) :
    ∃ w, cs = w ++ rest ∧ ∀ rest', readText (w ++ rest') = .ok (s, rest') := by
  obtain ⟨⟨chars, after⟩, hchars, h⟩ := bind_eq_ok_iff.mp (by rwa [readText] at h)
  cases h
  obtain ⟨w, rfl, -, hw⟩ := readString_local hchars
  refine ⟨w, rfl, fun rest' => ?_⟩
  rw [readText, hw rest' _ (by simp; omega)]
  rfl

/-! ## Scalars -/

theorem readWord?_eq_none {cs : List Char} (h : ∀ w ∈ words, ¬w.1 <+: cs) : readWord? cs = none := by
  refine List.findSome?_eq_none_iff.mpr fun w hw => Option.map_eq_none_iff.mpr ?_
  rw [← Option.not_isSome_iff_eq_none, Text.afterChars?_isSome]
  exact h w hw

/-- A word is read alike in front of everything. -/
theorem readWord?_append : ∀ w ∈ words, ∀ rest, readWord? (w.1 ++ rest) = some (w.2, rest) := by
  simp [words, readWord?, Text.afterChars?]

theorem readScalar_quote (cs : List Char) :
    readScalar ('"' :: cs) = (readText cs >>= fun found => .ok (.text found.1, found.2)) := by
  have hword : readWord? ('"' :: cs) = none := readWord?_eq_none (by simp [words, List.cons_prefix_cons])
  rw [readScalar, hword]

/-- A word starts with two characters that are no digits. -/
theorem exists_of_mem_words {w : List Char × Value} (h : w ∈ words) :
    ∃ c c' more, w.1 = c :: c' :: more ∧ isAsciiDigit c = false ∧ isAsciiDigit c' = false := by
  simp only [words, List.mem_cons, List.not_mem_nil, or_false] at h
  obtain rfl | rfl | rfl | rfl | rfl | rfl := h <;> exact ⟨_, _, _, rfl, rfl, rfl⟩

theorem readScalar_minus {cs : List Char} (h : StartsWithDigit cs) : readScalar ('-' :: cs) = readNumber true cs := by
  obtain ⟨d, rest, rfl, hd⟩ := h
  have hword : readWord? ('-' :: d :: rest) = none := by
    refine readWord?_eq_none fun w hw hbegins => ?_
    obtain ⟨c, c', more, hwc, -, hc'⟩ := exists_of_mem_words hw
    rw [hwc, List.cons_prefix_cons, List.cons_prefix_cons] at hbegins
    rw [hbegins.2.1, hd] at hc'
    cases hc'
  rw [readScalar, hword]

theorem readScalar_digit {cs : List Char} (h : StartsWithDigit cs) : readScalar cs = readNumber false cs := by
  obtain ⟨d, rest, rfl, hd⟩ := h
  have hword : readWord? (d :: rest) = none := by
    refine readWord?_eq_none fun w hw hbegins => ?_
    obtain ⟨c, c', more, hwc, hc, -⟩ := exists_of_mem_words hw
    rw [hwc, List.cons_prefix_cons] at hbegins
    rw [hbegins.1, hd] at hc
    cases hc
  unfold readScalar
  rw [hword]
  dsimp only
  split
  · next heq => cases heq; exact absurd hd (by decide)
  · next heq => cases heq; exact absurd hd (by decide)
  · rfl

/-- A scalar is read alike in front of whatever does not go on with a number. -/
theorem readScalar_local {cs rest : List Char} {v : Value} (h : readScalar cs = .ok (v, rest)) :
    ∃ w, cs = w ++ rest ∧ w ≠ [] ∧ ∀ rest', ¬Continues rest' → readScalar (w ++ rest') = .ok (v, rest') := by
  have hnumber : ∀ {negative : Bool} {cs : List Char}, readNumber negative cs = .ok (v, rest) →
      ∃ w, cs = w ++ rest ∧ StartsWithDigit w ∧
        ∀ rest', ¬Continues rest' → readNumber negative (w ++ rest') = .ok (v, rest') := by
    intro negative cs h
    have hdigit : StartsWithDigit cs := by
      by_contra hnot
      rw [readNumber_of_not hnot] at h
      cases h
    obtain ⟨w, rest₀, outcome, rfl, hw, hread, hlocal⟩ := readNumber_local negative hdigit
    rw [hread] at h
    cases outcome with
    | error refusal => cases h
    | ok value =>
      cases h
      exact ⟨w, rfl, hw, hlocal⟩
  unfold readScalar at h
  split at h
  · next found hword =>
    obtain rfl : found = (v, rest) := by simpa using h
    obtain ⟨w, hw, hfound⟩ := List.exists_of_findSome?_eq_some hword
    obtain ⟨rest₀, hrest, heq⟩ := Option.map_eq_some_iff.mp hfound
    obtain ⟨rfl, rfl⟩ := Prod.mk.inj heq
    refine ⟨w.1, Text.afterChars?_eq_some_iff.mp hrest, ?_, fun rest' _ => ?_⟩
    · have hne : ∀ w ∈ words, w.1 ≠ [] := by simp [words]
      exact hne w hw
    · unfold readScalar
      rw [readWord?_append w hw]
  · split at h
    · obtain ⟨⟨s, after⟩, hs, h⟩ := bind_eq_ok_iff.mp h
      cases h
      obtain ⟨w, rfl, hw⟩ := readText_local hs
      refine ⟨'"' :: w, rfl, by simp, fun rest' _ => ?_⟩
      rw [List.cons_append, readScalar_quote, hw]
      rfl
    · obtain ⟨w, rfl, hw, hlocal⟩ := hnumber h
      refine ⟨'-' :: w, rfl, by simp, fun rest' hrest' => ?_⟩
      rw [List.cons_append, readScalar_minus (hw.append _)]
      exact hlocal rest' hrest'
    · obtain ⟨w, rfl, hw, hlocal⟩ := hnumber h
      refine ⟨w, rfl, ?_, fun rest' hrest' => ?_⟩
      · obtain ⟨c, more, rfl, -⟩ := hw
        simp
      · rw [readScalar_digit (hw.append _)]
        exact hlocal rest' hrest'

/-! ## Values -/

/-- What may stand behind a value: the marks between the parts of a text, and blanks. -/
def marks : List Char :=
  [',', ':', ']', '\x7d', ' ', '\t', '\n', '\r']

theorem mem_marks_of_isSpace {c : Char} (h : isSpace c = true) : c ∈ marks := by
  simp only [isSpace, Bool.or_eq_true, beq_iff_eq, or_assoc] at h
  obtain rfl | rfl | rfl | rfl := h <;> decide

/-- What starts with a mark does not go on with a number. -/
theorem not_continues {cs : List Char} (h : ∀ c ∈ cs.head?, c ∈ marks) : ¬Continues cs := by
  have hmarks : ∀ c ∈ marks, isAsciiDigit c = false ∧ c ≠ '.' ∧ c ≠ 'e' ∧ c ≠ 'E' := by
    have hall : (marks.all fun c => !isAsciiDigit c && (c != '.' && (c != 'e' && c != 'E'))) = true := by decide
    simpa using hall
  rintro (⟨c, _, rfl, hc⟩ | ⟨_, rfl, -⟩ | ⟨e, _, _, rfl, he, -⟩)
  · rw [(hmarks c (h c rfl)).1] at hc
    cases hc
  · exact (hmarks '.' (h '.' rfl)).2.1 rfl
  · exact he.elim (hmarks e (h e rfl)).2.2.1 (hmarks e (h e rfl)).2.2.2

theorem IsGap.not_continues {gap : List Char} (h : IsGap gap) : ¬Continues gap :=
  Json.not_continues fun c hc => mem_marks_of_isSpace (h c (List.mem_of_head? hc))

/-- Blanks and a mark do not go on with a number. -/
theorem not_continues_gap {gap cs : List Char} {c : Char} (hgap : IsGap gap) (hc : c ∈ marks) :
    ¬Continues (gap ++ c :: cs) := by
  refine not_continues fun d hd => ?_
  cases gap with
  | nil =>
    cases hd
    exact hc
  | cons d' gap =>
    cases hd
    exact mem_marks_of_isSpace (hgap d List.mem_cons_self)

/-- A part is read alike in front of whatever does not go on with a number. -/
theorem Reads.local {cs rest : List Char} {part : Part} (h : Reads cs part rest) :
    ∃ w, cs = w ++ rest ∧ w ≠ [] ∧ ∀ rest', ¬Continues rest' → Reads (w ++ rest') part rest' := by
  induction h with
  | scalar hv =>
    obtain ⟨w, rfl, hne, hw⟩ := readScalar_local hv
    exact ⟨w, rfl, hne, fun rest' hrest' => .scalar (hw rest' hrest')⟩
  | noItems hend =>
    obtain ⟨gap, -, rfl, hskip⟩ := skip_cons_local hend
    exact ⟨'[' :: (gap ++ [']']), by simp, by simp, fun rest' _ => by simpa using Reads.noItems (hskip rest')⟩
  | list _ ih =>
    obtain ⟨w, hcs, hne, hw⟩ := ih
    obtain ⟨gap, -, rfl, hskip⟩ := skip_local hcs hne
    refine ⟨'[' :: (gap ++ w), by simp, by simp, fun rest' hrest' => ?_⟩
    rw [List.cons_append, List.append_assoc]
    exact .list (by rw [hskip]; exact hw rest' hrest')
  | noFields hend =>
    obtain ⟨gap, -, rfl, hskip⟩ := skip_cons_local hend
    exact ⟨'\x7b' :: (gap ++ ['\x7d']), by simp, by simp, fun rest' _ => by simpa using Reads.noFields (hskip rest')⟩
  | record _ ih =>
    obtain ⟨w, hcs, hne, hw⟩ := ih
    obtain ⟨gap, -, rfl, hskip⟩ := skip_local hcs hne
    refine ⟨'\x7b' :: (gap ++ w), by simp, by simp, fun rest' hrest' => ?_⟩
    rw [List.cons_append, List.append_assoc]
    exact .record (by rw [hskip]; exact hw rest' hrest')
  | lastItem _ hend ih =>
    obtain ⟨w, rfl, hne, hw⟩ := ih
    obtain ⟨gap, hgap, rfl, hskip⟩ := skip_cons_local hend
    refine ⟨w ++ (gap ++ [']']), by simp, by simp, fun rest' _ => ?_⟩
    rw [List.append_assoc, List.append_assoc]
    exact .lastItem (hw _ (not_continues_gap hgap (by decide))) (hskip rest')
  | item _ hmore _ ih ihs =>
    obtain ⟨w, rfl, hne, hw⟩ := ih
    obtain ⟨ws, hnext, hnes, hws⟩ := ihs
    obtain ⟨gap, hgap, rfl, hskip⟩ := skip_cons_local hmore
    obtain ⟨gap', -, rfl, hskip'⟩ := skip_local hnext hnes
    refine ⟨w ++ (gap ++ ',' :: (gap' ++ ws)), by simp, by simp [hne], fun rest' hrest' => ?_⟩
    simp only [List.append_assoc, List.cons_append]
    exact .item (hw _ (not_continues_gap hgap (by decide))) (hskip _) (by rw [hskip']; exact hws rest' hrest')
  | lastField hk hcolon _ hend ih =>
    obtain ⟨u, rfl, hu⟩ := readText_local hk
    obtain ⟨gap, -, rfl, hskip⟩ := skip_cons_local hcolon
    obtain ⟨w, hstart, hne, hw⟩ := ih
    obtain ⟨gap', -, rfl, hskip'⟩ := skip_local hstart hne
    obtain ⟨gap'', hgap, rfl, hskip''⟩ := skip_cons_local hend
    refine ⟨'"' :: (u ++ (gap ++ ':' :: (gap' ++ (w ++ (gap'' ++ ['\x7d']))))), by simp, by simp, fun rest' _ => ?_⟩
    simp only [List.append_assoc, List.cons_append, List.nil_append]
    refine .lastField (hu _) (hskip _) ?_ (hskip'' rest')
    rw [hskip']
    exact hw _ (not_continues_gap hgap (by decide))
  | field hk hcolon _ hmore _ ih ihs =>
    obtain ⟨u, rfl, hu⟩ := readText_local hk
    obtain ⟨gap, -, rfl, hskip⟩ := skip_cons_local hcolon
    obtain ⟨w, hstart, hne, hw⟩ := ih
    obtain ⟨gap', -, rfl, hskip'⟩ := skip_local hstart hne
    obtain ⟨gap'', hgap, rfl, hskip''⟩ := skip_cons_local hmore
    obtain ⟨ws, hnext, hnes, hws⟩ := ihs
    obtain ⟨gap₃, -, rfl, hskip₃⟩ := skip_local hnext hnes
    refine ⟨'"' :: (u ++ (gap ++ ':' :: (gap' ++ (w ++ (gap'' ++ ',' :: (gap₃ ++ ws)))))), by simp, by simp,
      fun rest' hrest' => ?_⟩
    simp only [List.append_assoc, List.cons_append]
    refine .field (hu _) (hskip _) ?_ (hskip'' _) (by rw [hskip₃]; exact hws rest' hrest')
    rw [hskip']
    exact hw _ (not_continues_gap hgap (by decide))

/-! ## Fuel -/

theorem Reads.length_lt {cs rest : List Char} {part : Part} (h : Reads cs part rest) : rest.length < cs.length := by
  obtain ⟨w, rfl, hne, -⟩ := h.local
  have hpos := List.length_pos_iff.mpr hne
  rw [List.length_append]
  omega

theorem length_skip_le (cs : List Char) : (skip cs).length ≤ cs.length :=
  (List.dropWhile_sublist _).length_le

theorem length_of_skip {cs rest : List Char} {c : Char} (h : skip cs = c :: rest) : rest.length < cs.length := by
  have hle := length_skip_le cs
  rw [h, List.length_cons] at hle
  omega

/-- A bracket, a brace or a mark starts no scalar. -/
theorem readScalar_mark {c : Char} (hc : c ∈ '[' :: '\x7b' :: marks) (cs : List Char) :
    readScalar (c :: cs) = .error .malformed := by
  have hnumber : ¬StartsWithDigit (c :: cs) := by
    rintro ⟨_, _, heq, hdigit⟩
    cases heq
    have hnone : (('[' :: '\x7b' :: marks).all fun c => !isAsciiDigit c) = true := by decide
    simpa [hdigit] using List.all_eq_true.mp hnone c hc
  have hword : readWord? (c :: cs) = none := by
    refine readWord?_eq_none fun w hw hbegins => ?_
    have hheads : ∀ w ∈ words, ∀ c ∈ '[' :: '\x7b' :: marks, ¬w.1 <+: c :: cs := by
      simp [words, marks, List.cons_prefix_cons]
    exact hheads w hw c hc hbegins
  unfold readScalar
  rw [hword]
  dsimp only
  split
  · next heq => cases heq; exact absurd hc (by decide)
  · next heq => cases heq; exact absurd hc (by decide)
  · exact readNumber_of_not hnumber

/-- What a part is read by, with an amount of fuel. -/
def Part.IsReadBy (fuel : Nat) (cs rest : List Char) : Part → Prop
  | value v => readValue fuel cs = .ok (v, rest)
  | items vs => readItems fuel cs = .ok (vs, rest)
  | fields fs => readPairs fuel cs = .ok (fs, rest)

/-- The fuel that a part of a text needs at most. -/
def Part.fuel (cs : List Char) : Part → Nat
  | value _ => 2 * cs.length + 1
  | items _ | fields _ => 2 * cs.length + 2

/-- Where a scalar is read, or refused for another reason than that none starts there, it is the value. -/
theorem readValue_eq_readScalar {fuel : Nat} {cs : List Char} (h : readScalar cs ≠ .error .malformed) :
    readValue (fuel + 1) cs = readScalar cs := by
  unfold readValue
  split
  · exact absurd (readScalar_mark (by decide) _) h
  · exact absurd (readScalar_mark (by decide) _) h
  · rfl

theorem readValue_scalar {fuel : Nat} {cs rest : List Char} {v : Value} (h : readScalar cs = .ok (v, rest)) :
    readValue (fuel + 1) cs = .ok (v, rest) :=
  (readValue_eq_readScalar (by simp [h])).trans h

/-- A value does not start with a mark. -/
theorem Reads.head_value {cs rest : List Char} {v : Value} (h : Reads cs (.value v) rest) {c : Char} (hc : c ∈ marks) :
    cs.head? ≠ some c := by
  intro hhead
  obtain ⟨more, rfl⟩ := List.head?_eq_some_iff.mp hhead
  cases h with
  | scalar hv =>
    rw [readScalar_mark (List.mem_cons_of_mem _ (List.mem_cons_of_mem _ hc))] at hv
    cases hv
  | noItems _ | list _ | noFields _ | record _ => exact absurd hc (by decide)

/-- The items of a list do not start with its end. -/
theorem Reads.head_items {cs rest : List Char} {vs : List Value} (h : Reads cs (.items vs) rest) :
    cs.head? ≠ some ']' := by
  cases h with
  | lastItem hv _ => exact hv.head_value (by decide)
  | item hv _ _ => exact hv.head_value (by decide)

/-- The fields of a record start with a name. -/
theorem Reads.head_fields {cs rest : List Char} {fs : List (String × Value)} (h : Reads cs (.fields fs) rest) :
    ∃ more, cs = '"' :: more := by
  cases h <;> exact ⟨_, rfl⟩

/-- The reader takes whatever is read by the rules, with two units of fuel for every character. -/
theorem Reads.isReadBy {cs rest : List Char} {part : Part} (h : Reads cs part rest) {fuel : Nat}
    (hfuel : part.fuel cs ≤ fuel) : part.IsReadBy fuel cs rest := by
  obtain ⟨fuel, rfl⟩ : ∃ n, fuel = n + 1 := ⟨fuel - 1, by cases part <;> simp only [Part.fuel] at hfuel <;> omega⟩
  induction h generalizing fuel with
  | scalar hv => exact readValue_scalar hv
  | noItems hend =>
    rw [Part.IsReadBy, readValue]
    simp [hend]
  | @list cs rest vs hvs ih =>
    have hskip := length_skip_le cs
    simp only [Part.fuel, List.length_cons] at hfuel ih
    obtain ⟨fuel, rfl⟩ : ∃ n, fuel = n + 1 := ⟨fuel - 1, by omega⟩
    exact readValue_list rfl hvs.head_items (ih fuel (by omega))
  | noFields hend =>
    rw [Part.IsReadBy, readValue]
    simp [hend]
  | @record cs rest fs hfs ih =>
    have hskip := length_skip_le cs
    obtain ⟨more, hmore⟩ := hfs.head_fields
    simp only [Part.fuel, List.length_cons] at hfuel ih
    obtain ⟨fuel, rfl⟩ : ∃ n, fuel = n + 1 := ⟨fuel - 1, by omega⟩
    refine readValue_record hmore ?_
    rw [← hmore]
    exact ih fuel (by omega)
  | lastItem _ hend ih =>
    simp only [Part.fuel] at hfuel ih
    obtain ⟨fuel, rfl⟩ : ∃ n, fuel = n + 1 := ⟨fuel - 1, by omega⟩
    exact readItems_last (ih fuel (by omega)) hend
  | @item cs behind next rest v vs hv hmore _ ih ihs =>
    have hbehind := hv.length_lt
    have hnext := length_of_skip hmore
    have hskip := length_skip_le next
    simp only [Part.fuel] at hfuel ih ihs
    obtain ⟨fuel, rfl⟩ : ∃ n, fuel = n + 1 := ⟨fuel - 1, by omega⟩
    exact readItems_cons (ih fuel (by omega)) hmore (ihs fuel (by omega))
  | @lastField cs colon start behind rest k v hk hcolon _ hend ih =>
    obtain ⟨u, hcs, -⟩ := readText_local hk
    have hlength := congrArg List.length hcs
    have hstart := length_of_skip hcolon
    have hskip := length_skip_le start
    simp only [Part.fuel, List.length_append, List.length_cons] at hfuel ih hlength
    obtain ⟨fuel, rfl⟩ : ∃ n, fuel = n + 1 := ⟨fuel - 1, by omega⟩
    exact readPairs_last hk hcolon (ih fuel (by omega)) hend
  | @field cs colon start behind next rest k v fs hk hcolon hv hmore _ ih ihs =>
    obtain ⟨u, hcs, -⟩ := readText_local hk
    have hlength := congrArg List.length hcs
    have hstart := length_of_skip hcolon
    have hskip := length_skip_le start
    have hbehind := hv.length_lt
    have hnext := length_of_skip hmore
    have hskip' := length_skip_le next
    simp only [Part.fuel, List.length_append, List.length_cons] at hfuel ih ihs hlength
    obtain ⟨fuel, rfl⟩ : ∃ n, fuel = n + 1 := ⟨fuel - 1, by omega⟩
    exact readPairs_cons hk hcolon (ih fuel (by omega)) hmore (ihs fuel (by omega))

/-- A text is read as a value iff the rules read it so behind blanks, and only blanks stand behind it. -/
theorem read_eq_ok_iff {s : String} {v : Value} :
    read s = .ok v ↔ ∃ rest, Reads (skip s.toList) (.value v) rest ∧ IsGap rest := by
  have hblank : ∀ rest, skip rest = [] ↔ IsGap rest := fun rest => List.dropWhile_eq_nil_iff
  constructor
  · intro h
    obtain ⟨rest, hv, hend⟩ := reads_of_read h
    exact ⟨rest, hv, (hblank rest).mp hend⟩
  · rintro ⟨rest, hv, hend⟩
    have hskip := length_skip_le s.toList
    have hread : readValue (2 * s.toList.length + 2) (skip s.toList) = .ok (v, rest) :=
      hv.isReadBy (by simp only [Part.fuel]; omega)
    rw [read]
    simp [hread, (hblank rest).mpr hend, bind, Except.bind]

end Deskhand.Json
