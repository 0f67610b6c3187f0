import Deskhand.Text.Quoted
import Mathlib.Data.List.Chain
import Mathlib.Tactic.IntervalCases

/-!
# Quoted texts are read back

What stands for a character in a quoted text says which character it is (`unquoteChar?_quotedChar`), so that quoted
texts of different texts differ (`quoted_inj`). Between the marks of a quoted text the mark stands only behind a
backslash and never behind a blank (`isChain_body`). So where a text ends with a blank and a quoted text, both parts can
be told apart (`areApart_quoted`, `AreApart.append_inj`), although blanks and marks may stand anywhere else.
-/

namespace Deskhand.Text

/-! ## Hexadecimal digits -/

theorem hexDigit?_hexDigit {n : Nat} (h : n < 16) : hexDigit? (hexDigit n) = some n := by
  interval_cases n <;> rfl

theorem hexDigit_ne_blank (n : Nat) (h : n < 16) : hexDigit n ≠ ' ' := by
  interval_cases n <;> decide

theorem length_hexPadded (width n : Nat) : (hexPadded width n).toList.length = width := by
  simp [hexPadded]

theorem blank_notMem_hexPadded (width n : Nat) : ' ' ∉ (hexPadded width n).toList := by
  rw [hexPadded, String.toList_ofList, List.mem_map]
  rintro ⟨i, -, hi⟩
  exact hexDigit_ne_blank _ (Nat.mod_lt _ (by decide)) hi

theorem hexPadded_succ (width n : Nat) :
    (hexPadded (width + 1) n).toList = (hexPadded width (n / 16)).toList ++ [hexDigit (n % 16)] := by
  simp only [hexPadded, String.toList_ofList, List.range_succ, List.map_append, List.map_cons, List.map_nil,
    Nat.add_sub_cancel, Nat.sub_self]
  refine congrArg₂ (· ++ ·) (List.map_congr_left fun i hi => ?_) (by simp)
  have hpow : Nat.pow 16 (width - i) = 16 * Nat.pow 16 (width - 1 - i) := by
    have hi := List.mem_range.mp hi
    obtain ⟨k, hk⟩ : ∃ k, width - i = k + 1 := ⟨width - i - 1, by omega⟩
    rw [show width - 1 - i = k by omega, hk]
    exact Nat.pow_succ'
  rw [hpow, ← Nat.div_div_eq_div_mul]

/-- The number that hexadecimal digits write. -/
def hexNumber (cs : List Char) : Nat :=
  cs.foldl (fun acc c => 16 * acc + (hexDigit? c).getD 0) 0

theorem hexNumber_hexPadded {width n : Nat} (h : n < 16 ^ width) : hexNumber (hexPadded width n).toList = n := by
  induction width generalizing n with
  | zero =>
    rw [Nat.pow_zero] at h
    rw [Nat.lt_one_iff.mp h]
    rfl
  | succ width ih =>
    have hfront := ih (n := n / 16) (by rw [Nat.pow_succ] at h; omega)
    rw [hexNumber] at hfront ⊢
    rw [hexPadded_succ, List.foldl_append, hfront]
    simp only [List.foldl_cons, List.foldl_nil, hexDigit?_hexDigit (Nat.mod_lt n (by decide : 0 < 16)),
      Option.getD_some]
    omega

/-! ## Characters -/

/-- The character that is written at the start of a quoted text, and what is written behind it. -/
def unquoteChar? : List Char → Option (Char × List Char)
  | '\\' :: 'n' :: rest => some ('\n', rest)
  | '\\' :: 'r' :: rest => some ('\r', rest)
  | '\\' :: 't' :: rest => some ('\t', rest)
  | '\\' :: 'x' :: rest => some (.ofNat (hexNumber (rest.take 2)), rest.drop 2)
  | '\\' :: 'u' :: rest => some (.ofNat (hexNumber (rest.take 4)), rest.drop 4)
  | '\\' :: 'U' :: rest => some (.ofNat (hexNumber (rest.take 8)), rest.drop 8)
  | '\\' :: c :: rest => some (c, rest)
  | c :: rest => some (c, rest)
  | [] => none

/-- A mark of quoted texts. -/
def IsMark (mark : Char) : Prop :=
  mark = '\'' ∨ mark = '"'

theorem unquoteChar?_hexPadded (width : Nat) {c : Char} (h : c.toNat < 16 ^ width) (rest : List Char) :
    Char.ofNat (hexNumber (((hexPadded width c.toNat).toList ++ rest).take width)) = c ∧
      ((hexPadded width c.toNat).toList ++ rest).drop width = rest := by
  have hlength := length_hexPadded width c.toNat
  rw [List.take_left' hlength, List.drop_left' hlength, hexNumber_hexPadded h, Char.ofNat_toNat]
  exact ⟨rfl, rfl⟩

/-- A character is read back. -/
theorem unquoteChar?_quotedChar {mark : Char} (hmark : IsMark mark) (c : Char) (rest : List Char) :
    unquoteChar? (quotedChar mark c ++ rest) = some (c, rest) := by
  rw [quotedChar]
  split_ifs with hescaped hline hreturn htab hshown hshort hmiddle
  · obtain rfl | rfl : c = mark ∨ c = '\\' := by simpa using hescaped
    · rcases hmark with rfl | rfl <;> rfl
    · rfl
  · rw [beq_iff_eq.mp hline]
    rfl
  · rw [beq_iff_eq.mp hreturn]
    rfl
  · rw [beq_iff_eq.mp htab]
    rfl
  · have hslash : c ≠ '\\' := fun h => hescaped (by simp [h])
    simp [unquoteChar?, hslash]
  · obtain ⟨hchar, hrest⟩ := unquoteChar?_hexPadded 2 hshort rest
    simp [unquoteChar?, hchar, hrest]
  · obtain ⟨hchar, hrest⟩ := unquoteChar?_hexPadded 4 hmiddle rest
    simp [unquoteChar?, hchar, hrest]
  · obtain ⟨hchar, hrest⟩ := unquoteChar?_hexPadded 8 c.val.toNat_lt rest
    simp [unquoteChar?, hchar, hrest]

/-- A character stands for itself, or a backslash and something without a blank stand for it. -/
theorem quotedChar_cases {mark : Char} (hmark : IsMark mark) (c : Char) :
    (quotedChar mark c = [c] ∧ c ≠ mark) ∨ ∃ rest, quotedChar mark c = '\\' :: rest ∧ ' ' ∉ rest := by
  rw [quotedChar]
  split_ifs with hescaped
  · refine .inr ⟨[c], rfl, fun hblank => ?_⟩
    obtain rfl : ' ' = c := List.mem_singleton.mp hblank
    rcases hmark with rfl | rfl <;> revert hescaped <;> decide
  · exact .inr ⟨_, rfl, by decide⟩
  · exact .inr ⟨_, rfl, by decide⟩
  · exact .inr ⟨_, rfl, by decide⟩
  · exact .inl ⟨rfl, fun h => hescaped (by simp [h])⟩
  all_goals exact .inr ⟨_, rfl, by simp [blank_notMem_hexPadded]⟩

/-! ## Texts -/

/-- What stands between the marks of a quoted text. -/
def quotedBody (mark : Char) (cs : List Char) : List Char :=
  cs.flatMap (quotedChar mark)

theorem quotedBody_inj {mark : Char} (hmark : IsMark mark) {cs ds : List Char}
    (h : quotedBody mark cs = quotedBody mark ds) : cs = ds := by
  have hread : ∀ c cs, unquoteChar? (quotedBody mark (c :: cs)) = some (c, quotedBody mark cs) := fun c cs =>
    unquoteChar?_quotedChar hmark c _
  induction cs generalizing ds with
  | nil =>
    cases ds with
    | nil => rfl
    | cons d ds => cases (congrArg unquoteChar? h).trans (hread d ds)
  | cons c cs ih =>
    cases ds with
    | nil => cases (hread c cs).symm.trans (congrArg unquoteChar? h)
    | cons d ds =>
      obtain ⟨rfl, hrest⟩ := Prod.mk.inj (Option.some.inj
        ((hread c cs).symm.trans ((congrArg unquoteChar? h).trans (hread d ds))))
      rw [ih hrest]

/-- The mark of a quoted text. -/
def markOf (s : String) : Char :=
  if s.toList.contains '\'' && !s.toList.contains '"' then '"' else '\''

theorem isMark_markOf (s : String) : IsMark (markOf s) := by
  rw [markOf]
  split
  · exact .inr rfl
  · exact .inl rfl

theorem toList_quoted (s : String) :
    (quoted s).toList = markOf s :: quotedBody (markOf s) s.toList ++ [markOf s] :=
  String.toList_ofList

/-- Behind a blank there is no mark. -/
def Parts (mark : Char) (a b : Char) : Prop :=
  a = ' ' → b ≠ mark

theorem isChain_quotedChar {mark : Char} (hmark : IsMark mark) (c : Char) :
    (quotedChar mark c).IsChain (Parts mark) ∧ ∃ head rest, quotedChar mark c = head :: rest ∧ head ≠ mark := by
  obtain ⟨hself, hc⟩ | ⟨rest, hslash, hrest⟩ := quotedChar_cases hmark c
  · exact ⟨hself ▸ .singleton c, c, [], hself, hc⟩
  · have hblank : ' ' ∉ quotedChar mark c := by
      rw [hslash]
      simpa using hrest
    have hpairs : (quotedChar mark c).Pairwise (Parts mark) :=
      List.pairwise_of_forall_mem_list fun a ha _ _ hab => absurd (hab ▸ ha) hblank
    refine ⟨hpairs.isChain, '\\', rest, hslash, ?_⟩
    rcases hmark with rfl | rfl <;> decide

/-- Between the marks there is no mark at the front or behind a blank. -/
theorem isChain_body {mark : Char} (hmark : IsMark mark) (cs : List Char) :
    (quotedBody mark cs).IsChain (Parts mark) ∧ (quotedBody mark cs).head? ≠ some mark := by
  induction cs with
  | nil => exact ⟨.nil, by simp [quotedBody]⟩
  | cons c cs ih =>
    obtain ⟨hchain, head, rest, hc, hhead⟩ := isChain_quotedChar hmark c
    have hbody : quotedBody mark (c :: cs) = quotedChar mark c ++ quotedBody mark cs := rfl
    rw [hbody]
    refine ⟨List.isChain_append.mpr ⟨hchain, ih.1, fun a _ b hb _ heq => ?_⟩, ?_⟩
    · exact ih.2 (heq ▸ hb)
    · rw [hc, List.cons_append, List.head?_cons]
      exact fun h => hhead (Option.some.inj h)

/-! ## What follows a blank -/

/-- Texts none of which ends with a blank and another one of them. -/
def AreApart (texts : List Char → Prop) : Prop :=
  ∀ cs ds, texts cs → texts ds → ∀ front, cs ≠ front ++ ' ' :: ds

/-- A text that ends with a blank and such a text says where it starts. -/
theorem AreApart.append_inj {texts : List Char → Prop} (h : AreApart texts) {front front' cs ds : List Char}
    (hcs : texts cs) (hds : texts ds) (heq : front ++ ' ' :: cs = front' ++ ' ' :: ds) :
    front = front' ∧ cs = ds := by
  have hlonger : ∀ {cs ds between : List Char}, texts cs → texts ds → ' ' :: cs = between ++ ' ' :: ds →
      between = [] := by
    intro cs ds between hcs hds hbetween
    cases between with
    | nil => rfl
    | cons c rest => exact absurd (List.cons.inj hbetween).2 (h _ _ hcs hds rest)
  obtain ⟨between, hfront, hrest⟩ | ⟨between, hfront, hrest⟩ := List.append_eq_append_iff.mp heq
  · obtain rfl := hlonger hcs hds hrest
    exact ⟨by rw [hfront, List.append_nil], (List.cons.inj hrest).2⟩
  · obtain rfl := hlonger hds hcs hrest
    exact ⟨by rw [hfront, List.append_nil], (List.cons.inj hrest).2.symm⟩

theorem AreApart.mono {texts texts' : List Char → Prop} (h : AreApart texts') (hsub : ∀ cs, texts cs → texts' cs) :
    AreApart texts :=
  fun cs ds hcs hds => h cs ds (hsub cs hcs) (hsub ds hds)

theorem areApart_blankless : AreApart fun cs => ' ' ∉ cs := by
  intro cs ds hcs _ front h
  exact hcs (by simp [h])

theorem areApart_quoted : AreApart fun cs => ∃ s, cs = (quoted s).toList := by
  rintro _ _ ⟨s, rfl⟩ ⟨t, rfl⟩ front h
  rw [toList_quoted, toList_quoted] at h
  have hsplit : markOf s :: quotedBody (markOf s) s.toList ++ [markOf s] =
      (front ++ ' ' :: markOf t :: quotedBody (markOf t) t.toList) ++ [markOf t] := by
    rw [h]
    simp
  obtain ⟨hfront, hmark⟩ := List.append_inj' hsplit rfl
  have hblank : markOf s ≠ ' ' := by
    rcases isMark_markOf s with hs | hs <;> rw [hs] <;> decide
  cases front with
  | nil => exact hblank (List.cons.inj hfront).1
  | cons c rest =>
    -- the opening mark of the second text would stand behind a blank inside of the first one
    have hchain := (isChain_body (isMark_markOf s) s.toList).1
    rw [(List.cons.inj hfront).2] at hchain
    exact (List.isChain_cons_cons.mp hchain.right_of_append).1 rfl (List.cons.inj hmark).1.symm

/-- Quoted texts of different texts differ. -/
theorem quoted_inj {s t : String} (h : quoted s = quoted t) : s = t := by
  have hchars := congrArg String.toList h
  rw [toList_quoted, toList_quoted] at hchars
  obtain ⟨hmark, hrest⟩ := List.cons.inj hchars
  rw [hmark] at hrest
  exact String.toList_inj.mp (quotedBody_inj (isMark_markOf t) (List.append_inj_left' hrest rfl))

end Deskhand.Text
