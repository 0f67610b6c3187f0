import Deskhand.Proofs.Json.Locality

/-!
# What is refused

The reader has two ways to fail. A text that is no JSON is malformed; an integer of more digits than are read is
refused, and with it the whole text, whatever stands behind it. `Leads` says without the reader where a value may stand:
behind a front of complete items and fields, each of them a text that is read by itself, and the brackets and braces
that are open. Main statements:

* `readScalar_refused_iff`: a scalar is refused iff it is an integer of too many digits;
* `Leads.refuses`: such an integer is refused behind every front;
* `meets_of_refused`: what is refused has one behind a front;
* `read_eq_tooLong_iff`: when a text is refused.
-/

namespace Deskhand.Json

open Text (isAsciiDigit)

theorem bind_eq_error_iff {ε α β : Type} {x : Except ε α} {f : α → Except ε β} {e : ε} :
    (x >>= f) = .error e ↔ x = .error e ∨ ∃ a, x = .ok a ∧ f a = .error e := by
  cases x <;> simp [bind, Except.bind]

/-! ## Integers -/

/-- An integer of so many digits, more than are read, and what stands behind it. -/
inductive StartsLong (n : Nat) : List Char → Prop
  | mk {sign digits rest : List Char} : sign = [] ∨ sign = ['-'] → (∀ c ∈ digits, isAsciiDigit c = true) →
      digits.head? ≠ some '0' → digits.length = n → Integer.maxDigits < n → ¬Continues rest →
        StartsLong n (sign ++ (digits ++ rest))

section Number

variable {negative : Bool} {cs digits rest : List Char} {n : Nat}

theorem readNumber_refuses (hdigits : ∀ c ∈ digits, isAsciiDigit c = true) (hzero : digits.head? ≠ some '0')
    (hlong : Integer.maxDigits < digits.length) (hrest : ¬Continues rest) :
    readNumber negative (digits ++ rest) = .error (.tooLong digits.length) := by
  obtain ⟨hdigit, hfraction, hexponent⟩ : ¬StartsWithDigit rest ∧ ¬StartsWithFraction rest ∧
      ¬StartsWithExponent rest := by
    simpa only [Continues, not_or] using hrest
  have hne : digits.map (fun c => c.toNat - 0x30) ≠ [] := by
    rw [Ne, List.map_eq_nil_iff]
    rintro rfl
    exact absurd hlong (Nat.not_lt_zero _)
  rw [readNumber_eq (wholeDigits_append hdigits (.inr ⟨hzero, hdigit⟩)) hne (fractionDigits_of_not hfraction)
    (exponentPart_of_not hexponent), numberOf, if_pos (by rfl), if_pos (by rwa [List.length_map]), List.length_map]
  rfl

/-- A number is refused only if it is an integer of too many digits. -/
theorem of_readNumber_refused (h : readNumber negative cs = .error (.tooLong n)) :
    ∃ digits rest, cs = digits ++ rest ∧ (∀ c ∈ digits, isAsciiDigit c = true) ∧ digits.head? ≠ some '0' ∧
      digits.length = n ∧ Integer.maxDigits < n ∧ ¬Continues rest := by
  by_cases hdigit : StartsWithDigit cs
  · obtain ⟨w, rest, rfl, hw, hdigits, hwhole⟩ := exists_whole hdigit
    obtain ⟨f, fraction, behind, hf, hfraction, -, hfnone, -⟩ := fractionDigits_local rest
    obtain ⟨x, e, after, hx, hexponent, -, hxnone, -⟩ := exponentPart_local behind
    have hne : w.map (fun c => c.toNat - 0x30) ≠ [] := by
      obtain ⟨c, more, rfl, -⟩ := hw
      simp
    rw [readNumber_eq (wholeDigits_append hdigits hwhole) hne hfraction hexponent, numberOf] at h
    split at h
    · next hplain =>
      split at h
      · next hlong =>
        obtain ⟨rfl, rfl⟩ : fraction = [] ∧ e = none := by simpa using hplain
        have hn : w.length = n := by simpa [Except.map] using h
        rw [List.length_map, hn] at hlong
        have hnofraction := hfnone.mp rfl
        rw [fractionDigits_of_not hnofraction] at hfraction
        obtain ⟨-, rfl⟩ := Prod.mk.inj hfraction
        obtain rfl | ⟨hzero, hnodigit⟩ := hwhole
        · rw [← hn] at hlong
          exact absurd hlong (by decide)
        · refine ⟨w, rest, rfl, hdigits, hzero, hn, hlong, ?_⟩
          rintro (h | h | h)
          exacts [hnodigit h, hnofraction h, hxnone.mp rfl h]
      · cases h
    · cases h
  · rw [readNumber_of_not hdigit] at h
    cases h

end Number

/-! ## Strings -/

/-- A string is not refused for an integer in it. -/
theorem readString_error {fuel : Nat} {cs : List Char} {refusal : Refusal} (h : readString fuel cs = .error refusal) :
    refusal = .malformed := by
  induction fuel generalizing cs with
  | zero =>
    cases h
    rfl
  | succ fuel ih =>
    have hmore : ∀ {c : Char} {behind : List Char},
        (readString fuel behind >>= fun found => .ok (c :: found.1, found.2)) = .error refusal →
          refusal = .malformed := by
      intro c behind h
      obtain h | ⟨_, _, h⟩ := bind_eq_error_iff.mp h
      · exact ih h
      · cases h
    unfold readString at h
    split at h
    · cases h
      rfl
    · cases h
    · split at h
      · exact hmore h
      · cases h
        rfl
    · split at h
      · exact hmore h
      · cases h
        rfl
    · split at h
      · cases h
        rfl
      · exact hmore h

theorem readText_error {cs : List Char} {refusal : Refusal} (h : readText cs = .error refusal) :
    refusal = .malformed := by
  obtain h | ⟨_, _, h⟩ := bind_eq_error_iff.mp (by rwa [readText] at h)
  · exact readString_error h
  · cases h

/-- A scalar is refused iff it is an integer of too many digits. -/
theorem readScalar_refused_iff {cs : List Char} {n : Nat} :
    readScalar cs = .error (.tooLong n) ↔ StartsLong n cs := by
  constructor
  · intro h
    unfold readScalar at h
    split at h
    · cases h
    · split at h
      · obtain h | ⟨_, _, h⟩ := bind_eq_error_iff.mp h
        · cases readText_error h
        · cases h
      · obtain ⟨digits, rest, rfl, hdigits, hzero, hn, hlong, hrest⟩ := of_readNumber_refused h
        exact .mk (.inr rfl) hdigits hzero hn hlong hrest
      · obtain ⟨digits, rest, rfl, hdigits, hzero, hn, hlong, hrest⟩ := of_readNumber_refused h
        exact .mk (.inl rfl) hdigits hzero hn hlong hrest
  · rintro ⟨hsign, hdigits, hzero, rfl, hlong, hrest⟩
    rename_i sign digits rest
    have hne : digits ≠ [] := by
      rintro rfl
      exact absurd hlong (Nat.not_lt_zero _)
    have hstart := (startsWithDigit_of_ne_nil hne hdigits).append rest
    obtain rfl | rfl := hsign
    · exact (readScalar_digit hstart).trans (readNumber_refuses hdigits hzero hlong hrest)
    · exact (readScalar_minus hstart).trans (readNumber_refuses hdigits hzero hlong hrest)

/-! ## Places -/

/-- What comes next in a text: a value, the items of a list, or the fields of a record. -/
inductive Place where
  | value
  | items
  | fields

/-- A front of a text, up to where a value may stand: all of it is well formed so far. -/
inductive Leads : Place → List Char → Prop
  | here {gap : List Char} : IsGap gap → Leads .value gap
  | list {gap front : List Char} : IsGap gap → Leads .items front → Leads .value (gap ++ '[' :: front)
  | record {gap front : List Char} : IsGap gap → Leads .fields front → Leads .value (gap ++ '\x7b' :: front)
  | firstItem {front : List Char} : Leads .value front → Leads .items front
  | item {w front : List Char} {v : Value} :
      read (String.ofList w) = .ok v → Leads .items front → Leads .items (w ++ ',' :: front)
  | firstField {name front : List Char} {k : String} :
      read (String.ofList name) = .ok (.text k) → Leads .value front → Leads .fields (name ++ ':' :: front)
  | field {name w front : List Char} {k : String} {v : Value} :
      read (String.ofList name) = .ok (.text k) → read (String.ofList w) = .ok v → Leads .fields front →
        Leads .fields (name ++ ':' :: (w ++ ',' :: front))

/-- Blanks in front change nothing about what a text is read as. -/
theorem read_gap {gap w : List Char} (h : IsGap gap) {v : Value} (hw : read (String.ofList w) = .ok v) :
    read (String.ofList (gap ++ w)) = .ok v := by
  rw [read_eq_ok_iff, String.toList_ofList] at hw ⊢
  rwa [skip_gap h]

/-- Blanks in front change nothing about where a value may stand. -/
theorem Leads.gap {place : Place} {front gap : List Char} (h : Leads place front) (hgap : IsGap gap) :
    Leads place (gap ++ front) := by
  have hgaps : ∀ {gap'}, IsGap gap' → IsGap (gap ++ gap') := fun hgap' c hc =>
    (List.mem_append.mp hc).elim (hgap c) (hgap' c)
  induction h with
  | here hgap' => exact .here (hgaps hgap')
  | list hgap' hfront => rw [← List.append_assoc]; exact .list (hgaps hgap') hfront
  | record hgap' hfront => rw [← List.append_assoc]; exact .record (hgaps hgap') hfront
  | firstItem _ ih => exact .firstItem ih
  | item hw hfront => rw [← List.append_assoc]; exact .item (read_gap hgap hw) hfront
  | firstField hname hfront => rw [← List.append_assoc]; exact .firstField (read_gap hgap hname) hfront
  | field hname hw hfront => rw [← List.append_assoc]; exact .field (read_gap hgap hname) hw hfront

/-- A value that is read of a text in full is read of it in front of a mark. -/
theorem reads_in_front {w : List Char} {v : Value} (hw : read (String.ofList w) = .ok v) {c : Char}
    (hc : c ∈ marks) (hspace : isSpace c = false) (rest : List Char) :
    ∃ behind, Reads (skip (w ++ c :: rest)) (.value v) behind ∧ skip behind = c :: rest := by
  rw [read_eq_ok_iff, String.toList_ofList] at hw
  obtain ⟨gap, hv, hgap⟩ := hw
  obtain ⟨u, hu, hne, hlocal⟩ := hv.local
  obtain ⟨gap', -, rfl, hskip⟩ := skip_local hu hne
  refine ⟨gap ++ c :: rest, ?_, by rw [skip_gap hgap, skip_cons hspace]⟩
  rw [List.append_assoc, List.append_assoc, hskip]
  exact hlocal _ (not_continues_gap hgap hc)

theorem readValue_in_front {w : List Char} {v : Value} (hw : read (String.ofList w) = .ok v) {c : Char}
    (hc : c ∈ marks) (hspace : isSpace c = false) (rest : List Char) (fuel : Nat)
    (hfuel : 2 * (w.length + (rest.length + 1)) + 1 ≤ fuel) :
    ∃ behind, readValue fuel (skip (w ++ c :: rest)) = .ok (v, behind) ∧ skip behind = c :: rest := by
  obtain ⟨behind, hv, hbehind⟩ := reads_in_front hw hc hspace rest
  have hskip := length_skip_le (w ++ c :: rest)
  rw [List.length_append, List.length_cons] at hskip
  exact ⟨behind, hv.isReadBy (by simp only [Part.fuel]; omega), hbehind⟩

/-- What a value is read of in front of something is a text of its own, with the blanks behind it. -/
theorem Reads.read_front {cs behind gap rest : List Char} {v : Value} (h : Reads cs (.value v) behind)
    (hbehind : behind = gap ++ rest) (hgap : IsGap gap) :
    ∃ w, cs = w ++ rest ∧ read (String.ofList w) = .ok v := by
  obtain ⟨u, rfl, hne, hlocal⟩ := h.local
  refine ⟨u ++ gap, by rw [hbehind, List.append_assoc], ?_⟩
  have hstart : skip (u ++ gap) = u ++ gap := by
    cases u with
    | nil => exact absurd rfl hne
    | cons c u =>
      refine skip_cons ?_ _
      by_contra hspace
      exact h.head_value (mem_marks_of_isSpace (by simpa using hspace)) rfl
  rw [read_eq_ok_iff, String.toList_ofList, hstart]
  exact ⟨gap, hlocal gap hgap.not_continues, hgap⟩

theorem readScalar_text {cs rest : List Char} {k : String} (h : readScalar cs = .ok (.text k, rest)) :
    ∃ cs', cs = '"' :: cs' ∧ readText cs' = .ok (k, rest) := by
  unfold readScalar at h
  split at h
  · next found hword =>
    obtain rfl : found = (.text k, rest) := by simpa using h
    obtain ⟨w, hw, hfound⟩ := List.exists_of_findSome?_eq_some hword
    obtain ⟨_, -, heq⟩ := Option.map_eq_some_iff.mp hfound
    have hnone : ∀ w ∈ words, w.2 ≠ .text k := by simp [words]
    exact absurd (Prod.mk.inj heq).1 (hnone w hw)
  · split at h
    · next cs' _ =>
      obtain ⟨⟨s, after⟩, hs, h⟩ := bind_eq_ok_iff.mp h
      cases h
      exact ⟨cs', rfl, hs⟩
    · obtain ⟨_, hv⟩ | ⟨_, hv⟩ := readNumber_cases h <;> cases hv
    · obtain ⟨_, hv⟩ | ⟨_, hv⟩ := readNumber_cases h <;> cases hv

/-- The name of a field is read in front of its colon. -/
theorem reads_name {name : List Char} {k : String} (hname : read (String.ofList name) = .ok (.text k))
    (rest : List Char) :
    ∃ cs colon, skip (name ++ ':' :: rest) = '"' :: cs ∧ readText cs = .ok (k, colon) ∧ skip colon = ':' :: rest := by
  obtain ⟨colon, hk, hcolon⟩ := reads_in_front hname (c := ':') (by decide) (by decide) rest
  generalize skip (name ++ ':' :: rest) = cs at hk
  cases hk with
  | scalar hk =>
    obtain ⟨cs', rfl, hname⟩ := readScalar_text hk
    exact ⟨cs', colon, rfl, hname, hcolon⟩

/-! ## Refusals -/

/-- Whether the reader refuses what comes next for an integer of so many digits. -/
def Place.Refuses (fuel n : Nat) (cs : List Char) : Place → Prop
  | value => readValue fuel cs = .error (.tooLong n)
  | items => readItems fuel cs = .error (.tooLong n)
  | fields => readPairs fuel cs = .error (.tooLong n)

/-- The fuel that is needed at most for what comes next. -/
def Place.fuel (cs : List Char) : Place → Nat
  | value => 2 * cs.length + 1
  | items | fields => 2 * cs.length + 2

theorem StartsLong.skip_eq {n : Nat} {cs : List Char} (h : StartsLong n cs) : skip cs = cs := by
  have hscalar := readScalar_refused_iff.mpr h
  cases cs with
  | nil => rfl
  | cons c cs =>
    refine skip_cons ?_ cs
    by_contra hspace
    have hmark := mem_marks_of_isSpace (c := c) (by simpa using hspace)
    rw [readScalar_mark (List.mem_cons_of_mem _ (List.mem_cons_of_mem _ hmark))] at hscalar
    cases hscalar

theorem readValue_refused {fuel n : Nat} {cs : List Char} (h : readScalar cs = .error (.tooLong n)) :
    readValue (fuel + 1) cs = .error (.tooLong n) :=
  (readValue_eq_readScalar (by simp [h])).trans h

theorem readValue_mark {fuel : Nat} {c : Char} (hc : c ∈ marks) (cs : List Char) :
    readValue fuel (c :: cs) = .error .malformed := by
  cases fuel with
  | zero => rfl
  | succ fuel =>
    unfold readValue
    split
    · next heq => cases heq; exact absurd hc (by decide)
    · next heq => cases heq; exact absurd hc (by decide)
    · exact readScalar_mark (List.mem_cons_of_mem _ (List.mem_cons_of_mem _ hc)) cs

/-- Where the items of a list are refused there are some. -/
theorem head_of_readItems_refused {fuel n : Nat} {cs : List Char} (h : readItems fuel cs = .error (.tooLong n)) :
    cs.head? ≠ some ']' := by
  intro hhead
  obtain ⟨more, rfl⟩ := List.head?_eq_some_iff.mp hhead
  cases fuel with
  | zero => cases h
  | succ fuel =>
    rw [readItems, readValue_mark (by decide)] at h
    cases h

/-- Where the fields of a record are refused there are some. -/
theorem head_of_readPairs_refused {fuel n : Nat} {cs : List Char} (h : readPairs fuel cs = .error (.tooLong n)) :
    cs.head? ≠ some '\x7d' := by
  intro hhead
  obtain ⟨more, rfl⟩ := List.head?_eq_some_iff.mp hhead
  cases fuel with
  | zero => cases h
  | succ fuel => simp [readPairs] at h

theorem readValue_list_refused {fuel n : Nat} {cs : List Char} (h : readItems fuel (skip cs) = .error (.tooLong n)) :
    readValue (fuel + 1) ('[' :: cs) = .error (.tooLong n) := by
  rw [readValue]
  split
  · next hend => exact absurd (by rw [hend]; rfl) (head_of_readItems_refused h)
  · simp [h, bind, Except.bind]

theorem readValue_record_refused {fuel n : Nat} {cs : List Char} (h : readPairs fuel (skip cs) = .error (.tooLong n)) :
    readValue (fuel + 1) ('\x7b' :: cs) = .error (.tooLong n) := by
  rw [readValue]
  split
  · next hend => exact absurd (by rw [hend]; rfl) (head_of_readPairs_refused h)
  · simp [h, bind, Except.bind]

/-- Behind a front where a value may stand the reader comes to an integer of too many digits. -/
theorem Leads.refuses {place : Place} {front back : List Char} {n : Nat} (h : Leads place front)
    (hback : StartsLong n back) {fuel : Nat} (hfuel : place.fuel (front ++ back) ≤ fuel) :
    place.Refuses fuel n (skip (front ++ back)) := by
  obtain ⟨fuel, rfl⟩ : ∃ n, fuel = n + 1 := ⟨fuel - 1, by cases place <;> simp only [Place.fuel] at hfuel <;> omega⟩
  induction h generalizing fuel with
  | here hgap =>
    rw [skip_gap hgap, hback.skip_eq]
    exact readValue_refused (readScalar_refused_iff.mpr hback)
  | list hgap _ ih =>
    rw [List.append_assoc, skip_gap hgap, List.cons_append, skip_cons (by decide)]
    simp only [Place.fuel, List.length_append, List.length_cons] at hfuel ih
    obtain ⟨fuel, rfl⟩ : ∃ n, fuel = n + 1 := ⟨fuel - 1, by omega⟩
    exact readValue_list_refused (ih fuel (by omega))
  | record hgap _ ih =>
    rw [List.append_assoc, skip_gap hgap, List.cons_append, skip_cons (by decide)]
    simp only [Place.fuel, List.length_append, List.length_cons] at hfuel ih
    obtain ⟨fuel, rfl⟩ : ∃ n, fuel = n + 1 := ⟨fuel - 1, by omega⟩
    exact readValue_record_refused (ih fuel (by omega))
  | firstItem _ ih =>
    simp only [Place.fuel, List.length_append] at hfuel ih
    obtain ⟨fuel, rfl⟩ : ∃ n, fuel = n + 1 := ⟨fuel - 1, by omega⟩
    have hvalue : readValue (fuel + 1) _ = _ := ih fuel (by omega)
    rw [Place.Refuses, readItems, hvalue]
    rfl
  | @item w front v hw _ ih =>
    rw [List.append_assoc, List.cons_append]
    simp only [Place.fuel, List.length_append, List.length_cons] at hfuel ih
    obtain ⟨fuel, rfl⟩ : ∃ n, fuel = n + 1 := ⟨fuel - 1, by omega⟩
    obtain ⟨behind, hvalue, hbehind⟩ := readValue_in_front hw (c := ',') (by decide) (by decide) (front ++ back)
      (fuel + 1) (by rw [List.length_append]; omega)
    have hitems : readItems (fuel + 1) _ = _ := ih fuel (by omega)
    rw [Place.Refuses, readItems]
    simp [hvalue, hbehind, hitems, bind, Except.bind]
  | @firstField name front k hname _ ih =>
    rw [List.append_assoc, List.cons_append]
    obtain ⟨cs, colon, hname, hk, hcolon⟩ := reads_name hname (front ++ back)
    simp only [Place.fuel, List.length_append, List.length_cons] at hfuel ih
    obtain ⟨fuel, rfl⟩ : ∃ n, fuel = n + 1 := ⟨fuel - 1, by omega⟩
    have hvalue : readValue (fuel + 1) _ = _ := ih fuel (by omega)
    rw [Place.Refuses, hname, readPairs]
    simp [hk, hcolon, hvalue, bind, Except.bind]
  | @field name w front k v hname hw _ ih =>
    rw [List.append_assoc, List.cons_append, List.append_assoc, List.cons_append]
    obtain ⟨cs, colon, hname, hk, hcolon⟩ := reads_name hname (w ++ ',' :: (front ++ back))
    simp only [Place.fuel, List.length_append, List.length_cons] at hfuel ih
    obtain ⟨fuel, rfl⟩ : ∃ n, fuel = n + 1 := ⟨fuel - 1, by omega⟩
    obtain ⟨behind, hvalue, hbehind⟩ := readValue_in_front hw (c := ',') (by decide) (by decide) (front ++ back)
      (fuel + 1) (by rw [List.length_append]; omega)
    have hfields : readPairs (fuel + 1) _ = _ := ih fuel (by omega)
    rw [Place.Refuses, hname, readPairs]
    simp [hk, hcolon, hvalue, hbehind, hfields, bind, Except.bind]

/-- Whether an integer of so many digits, more than are read, stands in a text where a value may stand, with all that
is before it well formed. -/
def Meets (n : Nat) (place : Place) (cs : List Char) : Prop :=
  ∃ front back, cs = front ++ back ∧ Leads place front ∧ StartsLong n back

theorem Meets.of_skip {n : Nat} {place : Place} {cs : List Char} (h : Meets n place (skip cs)) : Meets n place cs := by
  obtain ⟨front, back, hskip, hfront, hback⟩ := h
  obtain ⟨gap, hgap, hcs⟩ := exists_gap cs
  exact ⟨gap ++ front, back, by rw [hcs, hskip, List.append_assoc], hfront.gap hgap, hback⟩

section Sound

variable {fuel n : Nat} {cs : List Char}

theorem meets_of_readItems_succ (hvalue : ∀ cs, readValue fuel cs = .error (.tooLong n) → Meets n .value cs)
    (hitems : ∀ cs, readItems fuel cs = .error (.tooLong n) → Meets n .items cs)
    (h : readItems (fuel + 1) cs = .error (.tooLong n)) : Meets n .items cs := by
  rw [readItems] at h
  obtain h | ⟨⟨v, behind⟩, hv, h⟩ := bind_eq_error_iff.mp h
  · obtain ⟨front, back, rfl, hfront, hback⟩ := hvalue cs h
    exact ⟨front, back, rfl, .firstItem hfront, hback⟩
  · dsimp only at h
    split at h
    · cases h
    · next hmore =>
      obtain h | ⟨_, _, h⟩ := bind_eq_error_iff.mp h
      · obtain ⟨front, back, rfl, hfront, hback⟩ := (hitems _ h).of_skip
        obtain ⟨gap, hgap, hbehind, -⟩ := skip_cons_local hmore
        obtain ⟨w, rfl, hw⟩ := ((reads_of_readValue fuel).1 _ _ _ hv).read_front hbehind hgap
        exact ⟨w ++ ',' :: front, back, by simp, .item hw hfront, hback⟩
      · cases h
    · cases h

theorem meets_of_readPairs_succ (hvalue : ∀ cs, readValue fuel cs = .error (.tooLong n) → Meets n .value cs)
    (hfields : ∀ cs, readPairs fuel cs = .error (.tooLong n) → Meets n .fields cs)
    (h : readPairs (fuel + 1) cs = .error (.tooLong n)) : Meets n .fields cs := by
  unfold readPairs at h
  split at h
  · next cs =>
    obtain h | ⟨⟨k, colon⟩, hk, h⟩ := bind_eq_error_iff.mp h
    · cases readText_error h
    dsimp only at h
    split at h
    · next start hcolon =>
      have hname : Reads ('"' :: cs) (.value (.text k)) colon := .scalar (by rw [readScalar_quote, hk]; rfl)
      obtain ⟨gap, hgap, hcolon, -⟩ := skip_cons_local hcolon
      obtain ⟨name, hcs, hname⟩ := hname.read_front hcolon hgap
      rw [hcs]
      obtain h | ⟨⟨v, behind⟩, hv, h⟩ := bind_eq_error_iff.mp h
      · obtain ⟨front, back, rfl, hfront, hback⟩ := (hvalue _ h).of_skip
        exact ⟨name ++ ':' :: front, back, by simp, .firstField hname hfront, hback⟩
      · dsimp only at h
        split at h
        · cases h
        · next hmore =>
          obtain h | ⟨_, _, h⟩ := bind_eq_error_iff.mp h
          · obtain ⟨front, back, rfl, hfront, hback⟩ := (hfields _ h).of_skip
            obtain ⟨gap', hgap', hbehind, -⟩ := skip_cons_local hmore
            obtain ⟨w, hstart, hw⟩ := ((reads_of_readValue fuel).1 _ _ _ hv).read_front hbehind hgap'
            obtain ⟨gap'', hgap'', hstart'⟩ := exists_gap start
            rw [hstart', hstart]
            exact ⟨name ++ ':' :: (gap'' ++ w ++ ',' :: front), back, by simp,
              .field hname (read_gap hgap'' hw) hfront, hback⟩
          · cases h
        · cases h
    · cases h
  · cases h

theorem meets_of_readValue_succ (hitems : ∀ cs, readItems fuel cs = .error (.tooLong n) → Meets n .items cs)
    (hfields : ∀ cs, readPairs fuel cs = .error (.tooLong n) → Meets n .fields cs)
    (h : readValue (fuel + 1) cs = .error (.tooLong n)) : Meets n .value cs := by
  unfold readValue at h
  split at h
  · split at h
    · cases h
    · obtain h | ⟨_, _, h⟩ := bind_eq_error_iff.mp h
      · obtain ⟨front, back, rfl, hfront, hback⟩ := (hitems _ h).of_skip
        exact ⟨'[' :: front, back, rfl, .list isGap_nil hfront, hback⟩
      · cases h
  · split at h
    · cases h
    · obtain h | ⟨_, _, h⟩ := bind_eq_error_iff.mp h
      · obtain ⟨front, back, rfl, hfront, hback⟩ := (hfields _ h).of_skip
        exact ⟨'\x7b' :: front, back, rfl, .record isGap_nil hfront, hback⟩
      · cases h
  · exact ⟨[], cs, rfl, .here isGap_nil, readScalar_refused_iff.mp h⟩

/-- What is refused for an integer of too many digits has one where a value may stand. -/
theorem meets_of_refused (fuel : Nat) :
    (∀ cs, readValue fuel cs = .error (.tooLong n) → Meets n .value cs) ∧
    (∀ cs, readItems fuel cs = .error (.tooLong n) → Meets n .items cs) ∧
    (∀ cs, readPairs fuel cs = .error (.tooLong n) → Meets n .fields cs) := by
  induction fuel with
  | zero => simp [readValue, readItems, readPairs]
  | succ fuel ih =>
    obtain ⟨hvalue, hitems, hfields⟩ := ih
    exact ⟨fun _ => meets_of_readValue_succ hitems hfields, fun _ => meets_of_readItems_succ hvalue hitems,
      fun _ => meets_of_readPairs_succ hvalue hfields⟩

end Sound

/-- A text is refused for an integer of so many digits iff it has such an integer, and more digits than are read, where
a value may stand, with all that is before it well formed. -/
theorem read_eq_tooLong_iff {s : String} {n : Nat} : read s = .error (.tooLong n) ↔ Meets n .value s.toList := by
  have hread : read s = .error (.tooLong n) ↔
      readValue (2 * s.toList.length + 2) (skip s.toList) = .error (.tooLong n) := by
    rw [read]
    refine bind_eq_error_iff.trans (or_iff_left ?_)
    rintro ⟨⟨v, rest⟩, -, h⟩
    dsimp only at h
    split at h <;> cases h
  rw [hread]
  constructor
  · exact fun h => ((meets_of_refused _).1 _ h).of_skip
  · rintro ⟨front, back, hs, hfront, hback⟩
    rw [hs]
    exact hfront.refuses hback (by simp only [Place.fuel]; omega)

end Deskhand.Json
