import Deskhand.Text.Case
import Deskhand.Proofs.Text.Blank
import Deskhand.Proofs.Text.Pieces

/-!
# Lower case

A character of a text in lower case stays as it is in lower case again (`isLower_of_mem_lower`), so that a text, or
any part of it, changes once (`lower_of_isLower`). Only blanks give blanks, and a mark below the letters comes from
itself only (`ComesFrom`, `exists_of_mem_lowerFrom`); hence a trimmed text stays trimmed (`trim_lower`). A letter
depends on no more than its word (`lowerFrom_append`), so that it makes no difference whether a text is trimmed or cut
before it is put in lower case or afterwards (`lower_trim`, `splitOn_lower`).

The table of letters is looked at run by run: the code points to which one run leads lie outside all runs, by their
ends or by their parity (`isSettled`).
-/

namespace Deskhand.Text

/-! ## The table -/

/-- A run of the table of lower case: its first and last code point, its step and its shift. -/
abbrev CaseRun := Nat × Nat × Nat × Int

/-- The first and the last code point that a run leads to. -/
def reach (r : CaseRun) : Nat × Nat :=
  ((r.1 + r.2.2.2).toNat, (r.2.1 + r.2.2.2).toNat)

/-- Whether code points from one to another, in steps, lie outside a run. -/
def misses (reach : Nat × Nat) (step : Nat) (r : CaseRun) : Bool :=
  reach.2 < r.1 || r.2.1 < reach.1 ||
    (r.2.2.1 == 2 && (step == 2 || reach.1 == reach.2) && (reach.1 + r.1) % 2 == 1)

/-- Whether the code points that a run leads to are characters outside all runs, behind the capitals of ASCII, and no
blanks. -/
def isSettled (r : CaseRun) : Bool :=
  let ends := reach r
  0 ≤ r.1 + r.2.2.2 && 0x5B ≤ ends.1 && (ends.2 < 0xD800 || 0xDFFF < ends.1) && ends.2 < 0x110000 &&
    (ends.2 < 0x130 || 0x130 < ends.1) && (blankRanges.all fun b => ends.2 < b.1 || b.2 < ends.1) &&
    lowerRuns.all (misses ends r.2.2.1)

theorem isSettled_of_mem : ∀ r ∈ lowerRuns, isSettled r = true :=
  List.all_eq_true.mp (by decide +kernel)

/-- The shift of a code point is none, or that of a run which holds it. -/
theorem caseShift_cases (runs : List CaseRun) (n : Nat) :
    caseShift runs n = 0 ∨
      ∃ r ∈ runs, r.1 ≤ n ∧ n ≤ r.2.1 ∧ (n - r.1) % r.2.2.1 = 0 ∧ caseShift runs n = r.2.2.2 := by
  rw [caseShift]
  cases hfind : runs.find? fun r => r.1 ≤ n && n ≤ r.2.1 && (n - r.1) % r.2.2.1 == 0 with
  | none => exact .inl rfl
  | some r =>
    have hr := List.find?_some hfind
    simp only [Bool.and_eq_true, decide_eq_true_eq, beq_iff_eq] at hr
    exact .inr ⟨r, List.mem_of_find?_eq_some hfind, hr.1.1, hr.1.2, hr.2, rfl⟩

theorem caseShift_eq_zero {runs : List CaseRun} {n : Nat}
    (h : ∀ r ∈ runs, r.1 ≤ n → n ≤ r.2.1 → (n - r.1) % r.2.2.1 ≠ 0) : caseShift runs n = 0 := by
  obtain hzero | ⟨r, hr, hlow, hhigh, hstep, -⟩ := caseShift_cases runs n
  · exact hzero
  · exact absurd hstep (h r hr hlow hhigh)

/-- A code point to which a run leads from one that it holds. -/
structure IsSettled (m : Nat) : Prop where
  isChar : m.isValidChar
  stays : caseShift lowerRuns m = 0
  beyondCapitals : 0x5B ≤ m
  notDotted : m ≠ 0x130
  notBlank : ∀ b ∈ blankRanges, m < b.1 ∨ b.2 < m

theorem isSettled_shift {first last step n : Nat} {shift : Int} (hr : isSettled (first, last, step, shift) = true)
    (hlow : first ≤ n) (hhigh : n ≤ last) (hstep : (n - first) % step = 0) : IsSettled (n + shift).toNat := by
  simp only [isSettled, Bool.and_eq_true, Bool.or_eq_true, decide_eq_true_eq, List.all_eq_true] at hr
  simp only [reach] at hr
  obtain ⟨⟨⟨⟨⟨⟨hpos, hsmall⟩, hpair⟩, hbound⟩, hdotted⟩, hblank⟩, hmisses⟩ := hr
  refine ⟨?_, ?_, by omega, by omega, fun b hb => ?_⟩
  · rw [Nat.isValidChar]
    omega
  · refine caseShift_eq_zero fun r hr hlow' hhigh' => ?_
    have hmiss := hmisses r hr
    simp only [misses, Bool.and_eq_true, Bool.or_eq_true, decide_eq_true_eq, beq_iff_eq] at hmiss
    obtain (hbefore | hbehind) | ⟨⟨htwo, hends⟩, hparity⟩ := hmiss
    · omega
    · omega
    · rw [htwo]
      -- the distance from the first code point is even
      have heven : (n - first) % 2 = 0 := by
        obtain rfl | hsame := hends
        · exact hstep
        · omega
      omega
  · have hmiss := hblank b hb
    omega

/-! ## Characters -/

/-- Whether a character stays as it is in lower case, wherever it stands. -/
def isLower (c : Char) : Bool :=
  lowerChar c == [c] && c != 'Σ'

/-- A character that can come from another one in lower case: it stays as it is, only a blank gives a blank, and what
is below the letters comes from itself. -/
structure ComesFrom (d c : Char) : Prop where
  isLower : isLower d = true
  blank : isBlank d = true → isBlank c = true
  mark : d.toNat < 0x41 → c = d

theorem comesFrom_small : ∀ n < 0x80, ComesFrom (Char.ofNat n).toLower (Char.ofNat n) := by
  have h : ∀ n < 0x80, isLower (Char.ofNat n).toLower = true ∧
      (isBlank (Char.ofNat n).toLower = true → isBlank (Char.ofNat n) = true) ∧
      ((Char.ofNat n).toLower.toNat < 0x41 → Char.ofNat n = (Char.ofNat n).toLower) := by
    decide +kernel
  exact fun n hn => ⟨(h n hn).1, (h n hn).2.1, (h n hn).2.2⟩

theorem toNat_ofNat {m : Nat} (h : m.isValidChar) : (Char.ofNat m).toNat = m := by
  rw [Char.ofNat, dif_pos h]
  rfl

theorem isLower_of_isSettled {m : Nat} (h : IsSettled m) : isLower (Char.ofNat m) = true := by
  have hnat := toNat_ofNat h.isChar
  -- a capital sigma would change
  have hsigma : Char.ofNat m ≠ 'Σ' := fun hc => by
    have hm : m = 0x3A3 := by
      rw [← hnat, hc]
      rfl
    have hchanges : caseShift lowerRuns 0x3A3 ≠ 0 := by decide +kernel
    exact hchanges (hm ▸ h.stays)
  rw [isLower, Bool.and_eq_true, bne_iff_ne, beq_iff_eq, lowerChar, hnat]
  refine ⟨?_, hsigma⟩
  by_cases hascii : m < 0x80
  · have hsmall : ∀ n < 0x80, 0x5B ≤ n → (Char.ofNat n).toLower = Char.ofNat n := by decide
    rw [if_pos hascii, hsmall m hascii h.beyondCapitals]
  · rw [if_neg hascii, if_neg (by simpa using h.notDotted), h.stays, Int.add_zero, Int.toNat_natCast]

theorem comesFrom_settled {m : Nat} (h : IsSettled m) (c : Char) : ComesFrom (Char.ofNat m) c := by
  have hnat := toNat_ofNat h.isChar
  refine ⟨isLower_of_isSettled h, fun hblank => ?_, fun hmark => ?_⟩
  · obtain ⟨b, hb, hwithin⟩ := List.any_eq_true.mp hblank
    rw [hnat, Bool.and_eq_true, decide_eq_true_eq, decide_eq_true_eq] at hwithin
    have hmiss := h.notBlank b hb
    omega
  · have hlow := h.beyondCapitals
    rw [hnat] at hmark
    omega

/-- A letter of lower case comes from any character. -/
theorem comesFrom_letter {d : Char} (hlower : isLower d = true) (hblank : isBlank d = false) (hletter : 0x41 ≤ d.toNat)
    (c : Char) : ComesFrom d c :=
  ⟨hlower, by simp [hblank], fun hmark => absurd hletter (by omega)⟩

/-- What a character other than the capital sigma is in lower case. -/
theorem lowerChar_comesFrom {c : Char} (hsigma : c ≠ 'Σ') :
    lowerChar c ≠ [] ∧ ∀ d ∈ lowerChar c, ComesFrom d c := by
  rw [lowerChar]
  split
  · next hsmall =>
    have hfrom := comesFrom_small c.toNat hsmall
    rw [Char.ofNat_toNat] at hfrom
    simpa using hfrom
  · next hlarge =>
    split
    · refine ⟨by simp, List.forall_mem_cons.mpr ⟨?_, List.forall_mem_singleton.mpr ?_⟩⟩
      · exact comesFrom_letter (by decide +kernel) (by decide) (by decide) c
      · exact comesFrom_letter (by decide +kernel) (by decide) (by decide) c
    · next hnot =>
      refine ⟨by simp, fun d hd => ?_⟩
      rw [List.mem_singleton] at hd
      obtain hzero | ⟨⟨first, last, step, shift⟩, hr, hlow, hhigh, hstep, hshift⟩ := caseShift_cases lowerRuns c.toNat
      · rw [hzero, Int.add_zero, Int.toNat_natCast, Char.ofNat_toNat] at hd
        subst hd
        refine ⟨?_, id, fun _ => rfl⟩
        rw [isLower, Bool.and_eq_true, bne_iff_ne, beq_iff_eq, lowerChar, if_neg hlarge, if_neg hnot, hzero,
          Int.add_zero, Int.toNat_natCast, Char.ofNat_toNat]
        exact ⟨rfl, hsigma⟩
      · rw [hd, hshift]
        exact comesFrom_settled (isSettled_shift (isSettled_of_mem _ hr) hlow hhigh hstep) c

/-! ## Texts -/

/-- What a character becomes between the characters before it and those behind it. -/
def lowerPiece (before : List Char) (c : Char) (behind : List Char) : List Char :=
  if c == 'Σ' then [if nextIsCased before && !nextIsCased behind then 'ς' else 'σ'] else lowerChar c

theorem lowerFrom_cons (before : List Char) (c : Char) (cs : List Char) :
    lowerFrom before (c :: cs) = lowerPiece before c cs ++ lowerFrom (c :: before) cs := rfl

theorem lowerPiece_comesFrom (before : List Char) (c : Char) (behind : List Char) :
    lowerPiece before c behind ≠ [] ∧ ∀ d ∈ lowerPiece before c behind, ComesFrom d c := by
  rw [lowerPiece]
  split
  · refine ⟨by simp, List.forall_mem_singleton.mpr ?_⟩
    split
    · exact comesFrom_letter (by decide +kernel) (by decide) (by decide) c
    · exact comesFrom_letter (by decide +kernel) (by decide) (by decide) c
  · next hsigma => exact lowerChar_comesFrom (by simpa using hsigma)

/-- Each character of a text in lower case comes from one of the text. -/
theorem exists_of_mem_lowerFrom {before cs : List Char} {d : Char} (h : d ∈ lowerFrom before cs) :
    ∃ c ∈ cs, ComesFrom d c := by
  induction cs generalizing before with
  | nil => cases h
  | cons c rest ih =>
    rw [lowerFrom_cons, List.mem_append] at h
    obtain hfirst | hrest := h
    · exact ⟨c, List.mem_cons_self, (lowerPiece_comesFrom before c rest).2 d hfirst⟩
    · obtain ⟨c', hc', hfrom⟩ := ih hrest
      exact ⟨c', List.mem_cons_of_mem _ hc', hfrom⟩

/-- A mark below the letters is kept. -/
theorem lowerPiece_of_mark {c : Char} (hmark : c.toNat < 0x41) (before behind : List Char) :
    lowerPiece before c behind = [c] := by
  have hsmall : ∀ n < 0x41, lowerChar (Char.ofNat n) = [Char.ofNat n] ∧ Char.ofNat n ≠ 'Σ' := by decide +kernel
  obtain ⟨hstays, hsigma⟩ := hsmall c.toNat hmark
  rw [Char.ofNat_toNat] at hstays hsigma
  rw [lowerPiece, if_neg (by simpa using hsigma), hstays]

theorem mem_lowerFrom_of_mark {before cs : List Char} {c : Char} (hc : c ∈ cs) (hmark : c.toNat < 0x41) :
    c ∈ lowerFrom before cs := by
  induction cs generalizing before with
  | nil => cases hc
  | cons c' rest ih =>
    rw [lowerFrom_cons, List.mem_append]
    obtain rfl | hrest := List.mem_cons.mp hc
    · exact .inl (lowerPiece_of_mark hmark before rest ▸ List.mem_singleton_self c)
    · exact .inr (ih hrest)

theorem mem_lowerFrom_iff_of_mark {before cs : List Char} {c : Char} (hmark : c.toNat < 0x41) :
    c ∈ lowerFrom before cs ↔ c ∈ cs := by
  refine ⟨fun h => ?_, fun h => mem_lowerFrom_of_mark h hmark⟩
  obtain ⟨c', hc', hfrom⟩ := exists_of_mem_lowerFrom h
  rwa [← hfrom.mark hmark]

/-- The first character in lower case comes from the first one. -/
theorem head_lowerFrom {before cs : List Char} {d : Char} (h : (lowerFrom before cs).head? = some d) :
    ∃ c, cs.head? = some c ∧ ComesFrom d c := by
  cases cs with
  | nil => cases h
  | cons c rest =>
    obtain ⟨hne, hfrom⟩ := lowerPiece_comesFrom before c rest
    rw [lowerFrom_cons, List.head?_append_of_ne_nil _ hne] at h
    exact ⟨c, rfl, hfrom d (List.mem_of_head? h)⟩

theorem lowerFrom_ne_nil {before cs : List Char} (h : cs ≠ []) : lowerFrom before cs ≠ [] := by
  cases cs with
  | nil => exact absurd rfl h
  | cons c rest => exact List.append_ne_nil_of_left_ne_nil (lowerPiece_comesFrom before c rest).1 _

/-- The last character in lower case comes from the last one. -/
theorem getLast_lowerFrom {before cs : List Char} {d : Char} (h : (lowerFrom before cs).getLast? = some d) :
    ∃ c, cs.getLast? = some c ∧ ComesFrom d c := by
  induction cs generalizing before with
  | nil => cases h
  | cons c rest ih =>
    rw [lowerFrom_cons] at h
    cases rest with
    | nil =>
      rw [lowerFrom, List.append_nil] at h
      exact ⟨c, rfl, (lowerPiece_comesFrom before c []).2 d (List.mem_of_getLast? h)⟩
    | cons c' rest =>
      rw [List.getLast?_append_of_ne_nil _ (lowerFrom_ne_nil (List.cons_ne_nil c' rest))] at h
      obtain ⟨last, hlast, hfrom⟩ := ih h
      exact ⟨last, by rw [List.getLast?_cons_cons, hlast], hfrom⟩

/-- Characters that stay as they are do so in a text. -/
theorem lowerFrom_of_isLower {before cs : List Char} (h : ∀ c ∈ cs, isLower c = true) : lowerFrom before cs = cs := by
  induction cs generalizing before with
  | nil => rfl
  | cons c rest ih =>
    obtain ⟨hc, hrest⟩ := List.forall_mem_cons.mp h
    rw [isLower, Bool.and_eq_true, beq_iff_eq, bne_iff_ne] at hc
    rw [lowerFrom_cons, ih hrest, lowerPiece, if_neg (by simpa using hc.2), hc.1, List.singleton_append]

/-- A trimmed list stays trimmed in lower case. -/
theorem trimChars_lowerFrom {before cs : List Char} (h : trimChars isBlank cs = cs) :
    trimChars isBlank (lowerFrom before cs) = lowerFrom before cs := by
  obtain ⟨hhead, hlast⟩ := trimChars_eq_self_iff.mp h
  refine trimChars_eq_self_iff.mpr ⟨fun d hd => ?_, fun d hd => ?_⟩
  · obtain ⟨c, hc, hfrom⟩ := head_lowerFrom hd
    exact fun hblank => hhead c hc (hfrom.blank hblank)
  · obtain ⟨c, hc, hfrom⟩ := getLast_lowerFrom hd
    exact fun hblank => hlast c hc (hfrom.blank hblank)

theorem toList_lower (s : String) : (lower s).toList = lowerFrom [] s.toList := by
  rw [lower, String.toList_ofList]

/-- Every character of a text in lower case stays as it is. -/
theorem isLower_of_mem_lower {s : String} {d : Char} (h : d ∈ (lower s).toList) : isLower d = true := by
  rw [toList_lower] at h
  obtain ⟨c, -, hfrom⟩ := exists_of_mem_lowerFrom h
  exact hfrom.isLower

/-- A text of characters that stay as they are is in lower case. -/
theorem lower_of_isLower {s : String} (h : ∀ c ∈ s.toList, isLower c = true) : lower s = s := by
  rw [lower, lowerFrom_of_isLower h, String.ofList_toList]

/-- A text changes once. -/
theorem lower_lower (s : String) : lower (lower s) = lower s :=
  lower_of_isLower fun _ => isLower_of_mem_lower

/-- A trimmed text stays trimmed in lower case. -/
theorem trim_lower {s : String} (h : trim s = s) : trim (lower s) = lower s := by
  have hchars : trimChars isBlank s.toList = s.toList := by
    rw [← toList_trim, h]
  rw [trim, toList_lower, trimChars_lowerFrom hchars, lower]

/-! ## Where words end -/

/-- Whether a look for a letter with case ends at a character without one. -/
def endsWord (c : Char) : Bool :=
  !inRanges caseIgnorableRanges c && !inRanges casedRanges c

/-- A blank stays as it is, and ends a word. -/
theorem isLower_of_isBlank {c : Char} (h : isBlank c = true) : isLower c = true ∧ endsWord c = true := by
  have hall : ∀ r ∈ blankRanges, ∀ k < r.2 - r.1 + 1,
      isLower (Char.ofNat (r.1 + k)) = true ∧ endsWord (Char.ofNat (r.1 + k)) = true := by decide +kernel
  obtain ⟨r, hr, hwithin⟩ := List.any_eq_true.mp h
  rw [Bool.and_eq_true, decide_eq_true_eq, decide_eq_true_eq] at hwithin
  have hc := hall r hr (c.toNat - r.1) (by omega)
  rwa [show r.1 + (c.toNat - r.1) = c.toNat by omega, Char.ofNat_toNat] at hc

theorem nextIsCased_append {cs behind : List Char} (h : ∀ c ∈ behind.head?, endsWord c = true) :
    nextIsCased (cs ++ behind) = nextIsCased cs := by
  induction cs with
  | nil =>
    cases behind with
    | nil => rfl
    | cons c rest =>
      have hends := h c rfl
      rw [endsWord, Bool.and_eq_true, Bool.not_eq_true', Bool.not_eq_true'] at hends
      simp [nextIsCased, hends.1, hends.2]
  | cons c rest ih => rw [List.cons_append, nextIsCased, nextIsCased, ih]

theorem lowerFrom_append_of_isLower {front : List Char} (h : ∀ c ∈ front, isLower c = true)
    (before cs : List Char) : lowerFrom before (front ++ cs) = front ++ lowerFrom (front.reverse ++ before) cs := by
  induction front generalizing before with
  | nil => rfl
  | cons c rest ih =>
    obtain ⟨hc, hrest⟩ := List.forall_mem_cons.mp h
    rw [isLower, Bool.and_eq_true, beq_iff_eq, bne_iff_ne] at hc
    rw [List.cons_append, lowerFrom_cons, ih hrest, lowerPiece, if_neg (by simpa using hc.2), hc.1,
      List.reverse_cons, List.append_assoc, List.singleton_append, List.singleton_append, List.cons_append]

/-- A word depends on nothing that stands beyond its ends. -/
theorem lowerFrom_append {before cs behind further : List Char} (hbehind : ∀ c ∈ behind.head?, endsWord c = true)
    (hfurther : ∀ c ∈ further.head?, endsWord c = true) :
    lowerFrom (before ++ further) (cs ++ behind) =
      lowerFrom before cs ++ lowerFrom (cs.reverse ++ (before ++ further)) behind := by
  induction cs generalizing before with
  | nil => rfl
  | cons c rest ih =>
    have hpiece : lowerPiece (before ++ further) c (rest ++ behind) = lowerPiece before c rest := by
      rw [lowerPiece, nextIsCased_append hbehind, nextIsCased_append hfurther, lowerPiece]
    rw [List.cons_append, lowerFrom_cons, lowerFrom_cons, hpiece, ← List.cons_append, ih, List.append_assoc,
      List.reverse_cons, List.append_assoc, List.singleton_append, List.cons_append]

/-- It makes no difference whether a text is trimmed before it is put in lower case or afterwards. -/
theorem lower_trim (s : String) : lower (trim s) = trim (lower s) := by
  obtain ⟨front, back, hs, hfront, hback⟩ := exists_padding isBlank s.toList
  have hends : ∀ {cs : List Char}, (∀ c ∈ cs, isBlank c = true) → ∀ c ∈ cs.head?, endsWord c = true := fun h c hc =>
    (isLower_of_isBlank (h c (List.mem_of_mem_head? hc))).2
  have hreverse : ∀ c ∈ front.reverse, isBlank c = true := fun c hc => hfront c (List.mem_reverse.mp hc)
  have hpadded : lowerFrom [] s.toList = front ++ lowerFrom [] (trimChars isBlank s.toList) ++ back :=
    calc lowerFrom [] s.toList
        = lowerFrom [] (front ++ (trimChars isBlank s.toList ++ back)) := by rw [← List.append_assoc, ← hs]
      _ = front ++ lowerFrom ([] ++ front.reverse) (trimChars isBlank s.toList ++ back) := by
        rw [lowerFrom_append_of_isLower fun c hc => (isLower_of_isBlank (hfront c hc)).1, List.append_nil,
          List.nil_append]
      _ = front ++ lowerFrom [] (trimChars isBlank s.toList) ++ back := by
        rw [lowerFrom_append (hends hback) (hends hreverse),
          lowerFrom_of_isLower fun c hc => (isLower_of_isBlank (hback c hc)).1, List.append_assoc]
  rw [← String.toList_inj, toList_lower, toList_trim, toList_trim, toList_lower, hpadded, trimChars_padded hfront hback,
    trimChars_lowerFrom (trimChars_trimChars isBlank _)]

/-- Nothing is left of a text in lower case iff there was nothing. -/
theorem lower_eq_empty_iff {s : String} : lower s = "" ↔ s = "" := by
  rw [← String.toList_inj, ← String.toList_inj, toList_lower, String.toList_empty]
  refine ⟨fun h => ?_, fun h => by rw [h, lowerFrom]⟩
  by_contra hne
  exact lowerFrom_ne_nil hne h

theorem isBlankText_lower (s : String) : isBlankText (lower s) = isBlankText s := by
  rw [Bool.eq_iff_iff, ← trim_eq_empty_iff, ← trim_eq_empty_iff, ← lower_trim, lower_eq_empty_iff]

/-- Marks at which words end cut a text into the same pieces, whether it is put in lower case before or afterwards. -/
theorem splitOn_lower {sep : Char} (hmark : sep.toNat < 0x41) (hends : endsWord sep = true) (s : String) :
    splitOn sep (lower s) = (splitOn sep s).map lower := by
  have hword : ∀ cs : List Char, ∀ c ∈ (sep :: cs).head?, endsWord c = true := fun cs c hc => by
    obtain rfl := Option.some.inj hc
    exact hends
  have hchars : ∀ cs : List Char, splitChars sep (lowerFrom [] cs) = (splitChars sep cs).map (lowerFrom []) := by
    intro cs
    induction hlength : cs.length using Nat.strong_induction_on generalizing cs with
    | _ n ih =>
      by_cases hsep : sep ∈ cs
      · obtain ⟨front, back, rfl⟩ := List.append_of_mem hsep
        rw [List.length_append, List.length_cons] at hlength
        have hfront := @lowerFrom_append [] front (sep :: back) [] (hword back) (by simp)
        have hback := @lowerFrom_append [] back [] (sep :: front.reverse) (by simp) (hword front.reverse)
        rw [List.append_nil, lowerFrom, List.append_nil, List.nil_append] at hback
        rw [List.append_nil, lowerFrom_cons, List.append_nil, lowerPiece_of_mark hmark, List.singleton_append,
          hback] at hfront
        rw [hfront, splitChars_append, splitChars_append, List.map_append, ih front.length (by omega) front rfl,
          ih back.length (by omega) back rfl]
      · rw [splitChars_of_not_mem hsep, splitChars_of_not_mem (mt (mem_lowerFrom_iff_of_mark hmark).mp hsep),
          List.map_singleton]
  rw [splitOn, splitOn, toList_lower, hchars, List.map_map, List.map_map]
  exact List.map_congr_left fun cs _ => by rw [Function.comp_apply, Function.comp_apply, lower, String.toList_ofList]

end Deskhand.Text
