import Deskhand.Proofs.Block.Ids
import Deskhand.Proofs.Run.News
import Deskhand.Proofs.Run.Recorded
import Deskhand.Proofs.Text.Pieces

/-!
# References in templates

A template that does not ask for the last value is read once, from left to right, as characters and references
(`Template.segments`). References cannot overlap, since neither brace stands between the braces of one: a stretch that
looks like a reference is one wherever it stands (`segments_append`). So what a template renders to is known piece by
piece, and texts that come from values are not looked at again. Main statements:

* `referenceAt?_iff`: what a reference is;
* `blockId?_eq`: the block that a reference names;
* `render_eq_segments`: a template renders piece by piece;
* `isReading_segments`: the pieces are the references of the template and the characters between them;
* `render_references`: what a template renders to.
-/

namespace Deskhand

namespace Text

theorem occursIn_iff {needle cs : List Char} : occursIn needle cs = true ↔ needle <:+: cs := by
  induction cs with
  | nil => simp [occursIn]
  | cons c cs ih => rw [occursIn, Bool.or_eq_true, afterChars?_isSome, ih, List.infix_cons_iff]

end Text

namespace Template

/-! ## References -/

/-- The hexadecimal digits in either letter case. -/
def hexDigits : List Char :=
  "0123456789abcdefABCDEF".toList

/-- A stretch of 36 hexadecimal digits and dashes. -/
structure IsReference (inner : List Char) : Prop where
  length_eq : inner.length = 36
  chars : ∀ c ∈ inner, c ∈ '-' :: hexDigits

/-- A stretch in braces. -/
def marker (inner : List Char) : List Char :=
  '{' :: (inner ++ ['}'])

/-- The digits of a stretch in lower case. -/
def digitsOf (inner : List Char) : List Char :=
  (inner.filter (· ≠ '-')).map Char.toLower

/-- The id that 32 digits make up: groups of 8, 4, 4, 4 and 12 with dashes between them. -/
def canonical (digits : List Char) : String :=
  String.ofList (digits.take 8 ++ '-' :: (digits.drop 8).take 4 ++ '-' :: (digits.drop 12).take 4 ++
    '-' :: (digits.drop 16).take 4 ++ '-' :: (digits.drop 20).take 12)

/-- Whether an id has the usual form, in any letter case: groups of 8, 4, 4, 4 and 12 digits with dashes between. -/
def IsUuid (id : String) : Prop :=
  ∃ a b c d e : List Char,
    id.toList = a ++ '-' :: b ++ '-' :: c ++ '-' :: d ++ '-' :: e ∧
      a.length = 8 ∧ b.length = 4 ∧ c.length = 4 ∧ d.length = 4 ∧ e.length = 12 ∧
      ∀ x ∈ a ++ b ++ c ++ d ++ e, x ∈ hexDigits

/-- A property of the characters of a list is tried on each of them, not on every character that there is. -/
theorem forall_mem_of_all {cs : List Char} {p : Char → Prop} [DecidablePred p]
    (h : (cs.all fun c => decide (p c)) = true) : ∀ c ∈ cs, p c :=
  fun c hc => of_decide_eq_true (List.all_eq_true.mp h c hc)

theorem toNat_lt_of_mem : ∀ c ∈ '-' :: hexDigits, c.toNat < 0x80 :=
  forall_mem_of_all (by decide +kernel)

theorem ne_of_mem : ∀ c ∈ '-' :: hexDigits, c ≠ '{' ∧ c ≠ 'L' :=
  forall_mem_of_all (by decide +kernel)

/-- Dashes aside, a character of a reference is read as the digit that it is in lower case. -/
theorem hexDigit_of_mem : ∀ c ∈ '-' :: hexDigits,
    (Text.hexDigit? c).map Text.hexDigit = if c = '-' then none else some c.toLower :=
  forall_mem_of_all (by decide +kernel)

theorem inReference_iff {c : Char} : inReference c = true ↔ c ∈ '-' :: hexDigits := by
  have hsmall : ∀ n < 0x80, inReference (Char.ofNat n) = true ↔ Char.ofNat n ∈ '-' :: hexDigits := by
    decide +kernel
  by_cases hc : c.toNat < 0x80
  · have := hsmall c.toNat hc
    rwa [Char.ofNat_toNat] at this
  · have hle : ∀ d : Char, d.toNat < 0x80 → ¬c ≤ d := fun d hd hle => by
      rw [Char.le_def, UInt32.le_iff_toNat_le] at hle
      exact hc (Nat.lt_of_le_of_lt hle hd)
    have hdash : c ≠ '-' := fun h => by
      rw [h] at hc
      exact hc (by decide)
    refine iff_of_false ?_ fun hmem => hc (toNat_lt_of_mem c hmem)
    simp [inReference, Text.hexDigit?, hle, hdash]

/-- A list starts with a reference iff it starts with the braces around it. -/
theorem referenceAt?_iff {cs inner : List Char} :
    referenceAt? cs = some inner ↔ IsReference inner ∧ marker inner <+: cs := by
  have hchars : ∀ inner : List Char, inner.all inReference = true ↔ ∀ c ∈ inner, c ∈ '-' :: hexDigits := fun inner => by
    simp only [List.all_eq_true, inReference_iff]
  rw [referenceAt?.eq_def]
  split
  · next cs =>
    simp only [Option.ite_none_right_eq_some, Bool.and_eq_true, beq_iff_eq, Option.some.injEq, hchars]
    constructor
    · rintro ⟨⟨⟨hlength, hall⟩, hclose⟩, rfl⟩
      refine ⟨⟨hlength, hall⟩, cs.drop (referenceLength + 1), ?_⟩
      obtain ⟨hlt, hclose⟩ := List.getElem?_eq_some_iff.mp hclose
      rw [marker, List.cons_append, List.append_assoc, List.singleton_append, ← hclose,
        ← List.drop_eq_getElem_cons hlt, List.take_append_drop]
    · rintro ⟨⟨hlength, hall⟩, after, hafter⟩
      replace hlength : inner.length = referenceLength := hlength
      obtain rfl : inner ++ ['}'] ++ after = cs := (List.cons.inj hafter).2
      have htake : (inner ++ ['}'] ++ after).take referenceLength = inner := by
        rw [List.append_assoc, List.take_left' hlength]
      rw [htake]
      refine ⟨⟨⟨hlength, hall⟩, ?_⟩, rfl⟩
      rw [List.append_assoc, List.getElem?_append_right hlength.le, hlength]
      rfl
  · next hopen =>
    constructor
    · intro hat
      cases hat
    · rintro ⟨-, after, hafter⟩
      exact absurd hafter.symm (hopen _)

theorem IsReference.open_not_mem {inner : List Char} (h : IsReference inner) : '{' ∉ inner ++ ['}'] := by
  intro hmem
  rcases List.mem_append.mp hmem with hmem | hmem
  · exact (ne_of_mem _ (h.chars _ hmem)).1 rfl
  · exact absurd (List.mem_singleton.mp hmem) (by decide)

theorem IsReference.length_close {inner : List Char} (h : IsReference inner) :
    (inner ++ ['}']).length = referenceLength + 1 := by
  rw [List.length_append, h.length_eq]
  rfl

/-- The block that a reference names, if it has 32 digits. -/
theorem blockId?_eq {inner : List Char} (h : IsReference inner) :
    blockId? inner = if (digitsOf inner).length = 32 then some (canonical (digitsOf inner)) else none := by
  have hdigits : inner.filterMap (fun c => (Text.hexDigit? c).map Text.hexDigit) = digitsOf inner := by
    rw [digitsOf, ← List.filterMap_eq_map, List.filterMap_filter]
    refine List.filterMap_congr fun c hc => ?_
    rw [hexDigit_of_mem c (h.chars c hc)]
    by_cases hdash : c = '-' <;> simp [hdash]
  simp only [blockId?, hdigits, beq_iff_eq]
  split
  · refine congrArg some (String.toList_inj.mp ?_)
    simp [canonical, String.toList_append]
  · rfl

/-! ## Braces -/

section Braces

variable {tail front back : List Char}

/-- A stretch with an opening brace only in front ends before the next opening brace. -/
theorem prefix_of_prefix_append (h : '{' ∉ tail) (hfront : front ≠ [])
    (hpre : '{' :: tail <+: front ++ '{' :: back) : '{' :: tail <+: front := by
  rcases List.prefix_or_prefix_of_prefix hpre (List.prefix_append front _) with hwithin | ⟨more, hmore⟩
  · exact hwithin
  · obtain ⟨c, front, rfl⟩ := List.exists_cons_of_ne_nil hfront
    have htail : tail = front ++ more := (List.cons.inj hmore).2.symm
    cases more with
    | nil =>
      rw [List.append_nil] at hmore
      exact hmore ▸ List.prefix_rfl
    | cons d more =>
      -- what is left behind the front starts with the next opening brace
      rw [← hmore] at hpre
      obtain ⟨rfl, -⟩ := List.cons_prefix_cons.mp ((List.prefix_append_right_inj _).mp hpre)
      exact absurd (by simp [htail]) h

/-- A stretch with an opening brace only in front lies within what is before an opening brace, or does not begin
before that. -/
theorem infix_append_iff (h : '{' ∉ tail) :
    '{' :: tail <:+: front ++ '{' :: back ↔ '{' :: tail <:+: front ∨ '{' :: tail <:+: '{' :: back := by
  induction front with
  | nil => simp
  | cons c front ih =>
    have hfront : '{' :: tail <+: c :: (front ++ '{' :: back) ↔ '{' :: tail <+: c :: front :=
      ⟨prefix_of_prefix_append h (List.cons_ne_nil c front), fun hpre => hpre.trans (List.prefix_append (c :: front) _)⟩
    rw [List.cons_append, List.infix_cons_iff, hfront, ih, ← or_assoc, ← List.infix_cons_iff]

/-- A stretch that starts with an opening brace does not begin within other characters. -/
theorem infix_append_of_not_mem (h : '{' ∉ front) : '{' :: tail <:+: front ++ back ↔ '{' :: tail <:+: back := by
  induction front with
  | nil => simp
  | cons c front ih =>
    rw [List.mem_cons, not_or] at h
    rw [List.cons_append, List.infix_cons_iff, ih h.2, List.cons_prefix_cons]
    exact or_iff_right fun hpre => h.1 hpre.1

end Braces

theorem lastMarker_eq : lastMarker = '{' :: 'L' :: "astResult\x7d".toList :=
  rfl

/-- A reference is not the marker for the last value. -/
theorem IsReference.not_lastMarker {inner : List Char} (h : IsReference inner) (after : List Char) :
    ¬lastMarker <+: '{' :: (inner ++ ['}'] ++ after) := by
  intro hpre
  cases inner with
  | nil => exact absurd h.length_eq (by decide)
  | cons c inner =>
    rw [lastMarker_eq] at hpre
    obtain ⟨rfl, -⟩ := List.cons_prefix_cons.mp (List.cons_prefix_cons.mp hpre).2
    exact (ne_of_mem _ (h.chars _ List.mem_cons_self)).2 rfl

/-- Whether a template asks for the last value does not depend on its references. -/
theorem lastMarker_infix_iff {inner : List Char} (h : IsReference inner) (before after : List Char) :
    lastMarker <:+: before ++ (marker inner ++ after) ↔ lastMarker <:+: before ∨ lastMarker <:+: after := by
  have hnot := h.not_lastMarker after
  rw [marker, List.cons_append]
  rw [lastMarker_eq] at hnot ⊢
  rw [infix_append_iff (by decide), List.infix_cons_iff, or_iff_right hnot, infix_append_of_not_mem h.open_not_mem]

/-! ## The pieces of a template -/

/-- A piece of a template. -/
inductive Segment where
  /-- A character that stands for itself. -/
  | plain (c : Char)
  /-- A reference, with what stands between its braces. -/
  | reference (inner : List Char)

namespace Segment

/-- The piece as it stands in the template. -/
def source : Segment → List Char
  | plain c => [c]
  | reference inner => marker inner

/-- What the piece renders to: a reference with 32 digits to the value of its block, if there is one, and every other
piece to itself. -/
def rendered (context : Context) (format : ListFormat) : Segment → List Char
  | plain c => [c]
  | reference inner =>
    if (digitsOf inner).length = 32 then
      match context.find? (canonical (digitsOf inner)) with
      | some v => (formatValue format v).toList
      | none => []
    else marker inner

end Segment

/-- The pieces of a list of characters, behind some that are passed over. -/
def segments : Nat → List Char → List Segment
  | _, [] => []
  | n + 1, _ :: cs => segments n cs
  | 0, c :: cs =>
    match referenceAt? (c :: cs) with
    | some inner => .reference inner :: segments (referenceLength + 1) cs
    | none => .plain c :: segments 0 cs

theorem segments_eq_drop (n : Nat) (cs : List Char) : segments n cs = segments 0 (cs.drop n) := by
  induction n generalizing cs with
  | zero => rfl
  | succ n ih =>
    cases cs with
    | nil => simp [segments]
    | cons c cs => exact ih cs

/-- The pieces make up the list. -/
theorem source_segments (n : Nat) (cs : List Char) : (segments n cs).flatMap Segment.source = cs.drop n := by
  induction cs generalizing n with
  | nil => simp [segments]
  | cons c cs ih =>
    cases n with
    | succ n => exact ih n
    | zero =>
      rw [segments]
      split
      · next inner hat =>
        obtain ⟨href, after, hafter⟩ := referenceAt?_iff.mp hat
        obtain rfl : inner ++ ['}'] ++ after = cs := (List.cons.inj hafter).2
        rw [List.flatMap_cons, ih, List.drop_left' href.length_close]
        exact hafter
      · exact congrArg (c :: ·) (ih 0)

/-- The pieces that are references are. -/
theorem isReference_of_mem {n : Nat} {cs inner : List Char} (h : .reference inner ∈ segments n cs) :
    IsReference inner := by
  induction cs generalizing n with
  | nil => simp [segments] at h
  | cons c cs ih =>
    cases n with
    | succ n => exact ih h
    | zero =>
      rw [segments] at h
      split at h
      · next inner' hat =>
        rcases List.mem_cons.mp h with h | h
        · obtain rfl := Segment.reference.inj h
          exact (referenceAt?_iff.mp hat).1
        · exact ih h
      · exact ih ((List.mem_cons.mp h).resolve_left nofun)

/-- Whether a list starts with a reference does not depend on what follows an opening brace in it. -/
theorem referenceAt?_append (c : Char) (front back : List Char) :
    referenceAt? (c :: front ++ '{' :: back) = referenceAt? (c :: front) := by
  refine Option.ext fun inner => ?_
  rw [referenceAt?_iff, referenceAt?_iff]
  refine and_congr_right fun h => ⟨?_, fun hpre => hpre.trans (List.prefix_append _ _)⟩
  exact prefix_of_prefix_append h.open_not_mem (by simp)

/-- A reference is a piece wherever it stands, and what is before it and behind it falls into the same pieces as it
does alone. -/
theorem segments_append {inner : List Char} (h : IsReference inner) (before after : List Char) {n : Nat}
    (hn : n ≤ before.length) :
    segments n (before ++ (marker inner ++ after)) = segments n before ++ .reference inner :: segments 0 after := by
  induction before generalizing n with
  | nil =>
    obtain rfl := Nat.le_zero.mp hn
    have hat : referenceAt? (marker inner ++ after) = some inner := referenceAt?_iff.mpr ⟨h, List.prefix_append _ _⟩
    have hpieces : segments 0 (marker inner ++ after) =
        .reference inner :: segments (referenceLength + 1) (inner ++ ['}'] ++ after) := by
      rw [marker, List.cons_append] at hat ⊢
      rw [segments.eq_3, hat]
    rw [List.nil_append, hpieces, segments_eq_drop, List.drop_left' h.length_close]
    rfl
  | cons c before ih =>
    cases n with
    | succ n => exact ih (Nat.le_of_succ_le_succ hn)
    | zero =>
      have hat := referenceAt?_append c before (inner ++ ['}'] ++ after)
      rw [List.cons_append] at hat
      rw [marker, List.cons_append, List.cons_append, segments, segments, hat]
      rw [marker, List.cons_append] at ih
      cases hfront : referenceAt? (c :: before) with
      | none => exact congrArg (.plain c :: ·) (ih (Nat.zero_le _))
      | some inner' =>
        refine congrArg (.reference inner' :: ·) (ih ?_)
        obtain ⟨href, hpre⟩ := referenceAt?_iff.mp hfront
        have hlong := hpre.length_le
        simp only [marker, List.length_cons, List.length_append, href.length_eq, List.length_nil] at hlong
        simp only [referenceLength]
        omega

/-- A reference is replaced by what the piece renders to. -/
theorem referenceText?_eq (context : Context) (format : ListFormat) (cs : List Char) :
    referenceText? (fun id => formatValue format ((context.find? id).getD .null)) cs =
      (referenceAt? cs).map fun inner => (referenceLength + 2, Segment.rendered context format (.reference inner)) := by
  rw [referenceText?]
  cases hat : referenceAt? cs with
  | none => rfl
  | some inner =>
    have htake : cs.take (referenceLength + 2) = marker inner := (take_of_referenceAt? hat).1
    simp only [Option.map_some, blockId?_eq (referenceAt?_iff.mp hat).1, htake, Segment.rendered]
    by_cases hlength : (digitsOf inner).length = 32
    · simp only [if_pos hlength]
      cases context.find? (canonical (digitsOf inner)) <;> rfl
    · simp only [if_neg hlength]

theorem substitute_eq_segments (context : Context) (format : ListFormat) (n : Nat) (cs : List Char) :
    substitute (referenceText? fun id => formatValue format ((context.find? id).getD .null)) n cs =
      (segments n cs).flatMap (Segment.rendered context format) := by
  induction cs generalizing n with
  | nil => simp [substitute, segments]
  | cons c cs ih =>
    cases n with
    | succ n => exact ih n
    | zero =>
      rw [substitute, segments, referenceText?_eq]
      cases referenceAt? (c :: cs) with
      | none => exact congrArg (c :: ·) (ih 0)
      | some inner => exact congrArg (Segment.rendered context format (.reference inner) ++ ·) (ih (referenceLength + 1))


/-! ## Ids of blocks -/

/-- In lower case a digit is a digit. -/
theorem toLower_of_mem : ∀ c ∈ hexDigits, c ≠ '-' ∧ c.toLower ∈ hexDigits ∧ c.toLower.toLower = c.toLower :=
  forall_mem_of_all (by decide +kernel)

section Groups

variable {a b c d e : List Char}

theorem canonical_append (ha : a.length = 8) (hb : b.length = 4) (hc : c.length = 4) (hd : d.length = 4)
    (he : e.length = 12) :
    (canonical (a ++ b ++ c ++ d ++ e)).toList = a ++ '-' :: b ++ '-' :: c ++ '-' :: d ++ '-' :: e := by
  simp [canonical, List.drop_append, List.take_of_length_le, List.drop_eq_nil_of_le, ha, hb, hc, hd, he]

theorem digitsOf_groups (h : ∀ x ∈ a ++ b ++ c ++ d ++ e, x ∈ hexDigits) :
    digitsOf (a ++ '-' :: b ++ '-' :: c ++ '-' :: d ++ '-' :: e) = (a ++ b ++ c ++ d ++ e).map Char.toLower := by
  have hkeep : (a ++ b ++ c ++ d ++ e).filter (· ≠ '-') = a ++ b ++ c ++ d ++ e :=
    List.filter_eq_self.mpr fun x hx => decide_eq_true (toLower_of_mem x (h x hx)).1
  rw [digitsOf, ← hkeep]
  simp

end Groups

/-- An id of the usual form is a reference to itself in lower case. -/
theorem IsUuid.spec {id : String} (h : IsUuid id) :
    IsReference id.toList ∧ (digitsOf id.toList).length = 32 ∧ canonical (digitsOf id.toList) = Text.lower id := by
  obtain ⟨a, b, c, d, e, hid, ha, hb, hc, hd, he, hdigits⟩ := h
  have hchars : ∀ x ∈ id.toList, x ∈ '-' :: hexDigits := by
    intro x hx
    have hx : x = '-' ∨ x ∈ a ++ b ++ c ++ d ++ e := by
      rw [hid] at hx
      simp only [List.mem_append, List.mem_cons] at hx ⊢
      tauto
    rcases hx with rfl | hx
    · exact List.mem_cons_self
    · exact List.mem_cons_of_mem _ (hdigits x hx)
  have hdigitsOf : digitsOf id.toList = (a ++ b ++ c ++ d ++ e).map Char.toLower := by
    rw [hid, digitsOf_groups hdigits]
  refine ⟨⟨by simp [hid, ha, hb, hc, hd, he], hchars⟩, by simp [hdigitsOf, ha, hb, hc, hd, he], ?_⟩
  refine String.toList_inj.mp ?_
  rw [hdigitsOf, List.map_append, List.map_append, List.map_append, List.map_append,
    canonical_append (by simpa) (by simpa) (by simpa) (by simpa) (by simpa),
    Text.toList_lower_of_small fun x hx => toNat_lt_of_mem x (hchars x hx), hid]
  simp

/-- The id that a reference of 32 digits names has the usual form, is in lower case and has these digits. -/
theorem canonical_spec {inner : List Char} (h : IsReference inner) (hlength : (digitsOf inner).length = 32) :
    IsUuid (canonical (digitsOf inner)) ∧ Text.lower (canonical (digitsOf inner)) = canonical (digitsOf inner) ∧
      digitsOf (canonical (digitsOf inner)).toList = digitsOf inner := by
  have hdigits : ∀ x ∈ digitsOf inner, x ∈ hexDigits ∧ x.toLower = x := by
    intro x hx
    obtain ⟨y, hy, rfl⟩ := List.mem_map.mp hx
    rw [List.mem_filter, decide_eq_true_iff] at hy
    exact (toLower_of_mem y ((List.mem_cons.mp (h.chars y hy.1)).resolve_left hy.2)).2
  generalize digitsOf inner = ds at hlength hdigits
  obtain ⟨a, b, c, d, e, rfl, ha, hb, hc, hd, he⟩ : ∃ a b c d e : List Char, ds = a ++ b ++ c ++ d ++ e ∧
      a.length = 8 ∧ b.length = 4 ∧ c.length = 4 ∧ d.length = 4 ∧ e.length = 12 := by
    refine ⟨ds.take 8, (ds.drop 8).take 4, (ds.drop 12).take 4, (ds.drop 16).take 4, ds.drop 20, ?_, ?_⟩
    · rw [← List.take_add, ← List.take_add, ← List.take_add, List.take_append_drop]
    · simp [hlength]
  have hcanonical := canonical_append ha hb hc hd he
  have huuid : IsUuid (canonical (a ++ b ++ c ++ d ++ e)) :=
    ⟨a, b, c, d, e, hcanonical, ha, hb, hc, hd, he, fun x hx => (hdigits x hx).1⟩
  have hsame : digitsOf (canonical (a ++ b ++ c ++ d ++ e)).toList = a ++ b ++ c ++ d ++ e := by
    rw [hcanonical, digitsOf_groups fun x hx => (hdigits x hx).1]
    exact (List.map_congr_left fun x hx => (hdigits x hx).2).trans (List.map_id' _)
  refine ⟨huuid, ?_, hsame⟩
  rw [← huuid.spec.2.2, hsame]

/-- A reference to an id of the usual form renders to the value that was recorded under the id in any letter case. -/
theorem IsUuid.rendered {id : String} (h : IsUuid id) {context : Context} {v : Value} (hv : context.find? id = some v)
    (format : ListFormat) :
    Segment.rendered context format (.reference id.toList) = (formatValue format v).toList := by
  obtain ⟨hinner, hlength, hcanonical⟩ := h.spec
  have hlower : Text.lower (Text.lower id) = Text.lower id := by
    rw [← hcanonical]
    exact (canonical_spec hinner hlength).2.1
  have hfind : context.find? (canonical (digitsOf id.toList)) = some v := by
    rw [hcanonical, ← hv, Context.find?, Context.find?, hlower]
  simp only [Segment.rendered, if_pos hlength, hfind]

/-! ## What templates render to -/

theorem render_eq_segments {template : String} (h : ¬lastMarker <:+: template.toList) (context : Context)
    (format : ListFormat) :
    render template context format =
      .text (String.ofList ((segments 0 template.toList).flatMap (Segment.rendered context format))) := by
  have hasks : asksForLast template = false := by rw [asksForLast, ← Bool.not_eq_true, Text.occursIn_iff]; exact h
  rw [render, hasks, if_neg Bool.false_ne_true, withReferences, substitute_eq_segments]

/-- The pieces that a template falls into: each reference in it is one, and there are no others but single characters. -/
structure IsReading (cs : List Char) (pieces : List Segment) : Prop where
  source : pieces.flatMap Segment.source = cs
  isReference : ∀ inner, .reference inner ∈ pieces → IsReference inner
  complete : ∀ before inner after, IsReference inner → cs = before ++ (marker inner ++ after) →
    ∃ front back, pieces = front ++ .reference inner :: back ∧ front.flatMap Segment.source = before ∧
      back.flatMap Segment.source = after

theorem isReading_segments (cs : List Char) : IsReading cs (segments 0 cs) where
  source := source_segments 0 cs
  isReference _ := isReference_of_mem
  complete before _ after h hcs := ⟨segments 0 before, segments 0 after,
    hcs ▸ segments_append h before after (Nat.zero_le _), source_segments 0 before, source_segments 0 after⟩

/-- References do not overlap. -/
theorem length_le_of_marker {before inner after before' inner' after' : List Char} (h : IsReference inner)
    (heq : before ++ (marker inner ++ after) = before' ++ (marker inner' ++ after'))
    (hlt : before.length < before'.length) : before.length + 38 ≤ before'.length := by
  by_contra hnear
  obtain ⟨k, hk⟩ : ∃ k, before'.length - before.length = k + 1 := ⟨before'.length - before.length - 1, by omega⟩
  have hclose : (inner ++ ['}']).length = 37 := h.length_close
  have hopen : (before ++ (marker inner ++ after))[before'.length]? = some '{' := by
    rw [heq, List.getElem?_append_right (Nat.le_refl _), Nat.sub_self]
    rfl
  -- the second opening brace stands among what follows the first one
  rw [List.getElem?_append_right hlt.le, hk, marker, List.cons_append, List.getElem?_cons_succ,
    List.getElem?_append_left (by omega)] at hopen
  exact h.open_not_mem (List.mem_of_getElem? hopen)

/-- A template that does not ask for the last value renders to a text, whatever was recorded. It falls into pieces, each
reference in it being one of them: a reference with 32 digits renders to the value of the block with these digits, or
to nothing, and every other piece to itself. References do not overlap. Neither the letter case of a reference with 32
digits nor the places of its dashes matter, and the id of a block in braces renders to the value recorded under it. -/
theorem render_references {template : String} (h : ¬lastMarker <:+: template.toList) :
    (∃ pieces, IsReading template.toList pieces ∧ ∀ context format,
      render template context format = .text (String.ofList (pieces.flatMap (Segment.rendered context format)))) ∧
    (∀ before inner after before' inner' after', IsReference inner → IsReference inner' →
      template.toList = before ++ (marker inner ++ after) → template.toList = before' ++ (marker inner' ++ after') →
      before.length < before'.length → before.length + 38 ≤ before'.length) ∧
    (∀ before inner inner' after, IsReference inner → IsReference inner' → (digitsOf inner).length = 32 →
      digitsOf inner' = digitsOf inner → template.toList = before ++ (marker inner ++ after) → ∀ context format,
        render (String.ofList (before ++ (marker inner' ++ after))) context format = render template context format) ∧
    ∀ before id after context v format, IsUuid id → context.find? id = some v →
      template.toList = before ++ (marker id.toList ++ after) →
        ∃ front back, render (String.ofList before) context format = .text front ∧
          render (String.ofList after) context format = .text back ∧
          render template context format = .text (front ++ formatValue format v ++ back) := by
  refine ⟨⟨segments 0 template.toList, isReading_segments _, render_eq_segments h⟩, ?_, ?_, ?_⟩
  · intro before inner after before' inner' after' hinner hinner' hfirst hsecond hlt
    exact length_le_of_marker hinner (hfirst.symm.trans hsecond) hlt
  · intro before inner inner' after hinner hinner' hlength hdigits htemplate context format
    have hnot : ¬lastMarker <:+: (String.ofList (before ++ (marker inner' ++ after))).toList := by
      rw [htemplate, lastMarker_infix_iff hinner] at h
      rwa [String.toList_ofList, lastMarker_infix_iff hinner']
    have hsame : Segment.rendered context format (.reference inner') =
        Segment.rendered context format (.reference inner) := by
      simp only [Segment.rendered, hdigits, if_pos hlength]
    rw [render_eq_segments hnot, render_eq_segments h, String.toList_ofList, htemplate,
      segments_append hinner _ _ (Nat.zero_le _), segments_append hinner' _ _ (Nat.zero_le _), List.flatMap_append,
      List.flatMap_append, List.flatMap_cons, List.flatMap_cons, hsame]
  · intro before id after context v format hid hv htemplate
    obtain ⟨hinner, -, -⟩ := hid.spec
    have hparts := h
    rw [htemplate, lastMarker_infix_iff hinner, not_or] at hparts
    refine ⟨_, _, render_eq_segments (by rw [String.toList_ofList]; exact hparts.1) context format,
      render_eq_segments (by rw [String.toList_ofList]; exact hparts.2) context format, ?_⟩
    rw [render_eq_segments h, htemplate, segments_append hinner _ _ (Nat.zero_le _), List.flatMap_append,
      List.flatMap_cons, hid.rendered hv, String.ofList_append, String.ofList_append, String.ofList_toList,
      String.append_assoc, String.toList_ofList, String.toList_ofList]

/-- The id of a block. -/
def exampleId : String :=
  "ABCDEF00-1111-2222-3333-444455556666"

theorem isUuid_exampleId : IsUuid exampleId :=
  ⟨"ABCDEF00".toList, "1111".toList, "2222".toList, "3333".toList, "444455556666".toList, by decide +kernel, rfl, rfl,
    rfl, rfl, rfl, forall_mem_of_all (by decide +kernel)⟩

/-- A template with a reference to the block, and a brace that belongs to none. -/
def greeting : String :=
  "Hi \x7bABCDEF00-1111-2222-3333-444455556666\x7d\x7b"

/-- The same template with the reference in lower case and its dashes in other places. -/
def oddGreeting : String :=
  "Hi \x7b--abcdef001111222233334444-5555-6666\x7d\x7b"

/-- A value that looks like a reference stands in the text as it is, however the reference is written. -/
theorem render_references_greeting :
    let context := Context.record {} exampleId (.text greeting)
    ¬lastMarker <:+: greeting.toList ∧ render greeting context .newLine = .text ("Hi " ++ greeting ++ "\x7b") ∧
      render oddGreeting context .newLine = .text ("Hi " ++ greeting ++ "\x7b") := by
  intro context
  have hplain : ¬lastMarker <:+: greeting.toList := by decide +kernel
  obtain ⟨-, -, hsame, hvalue⟩ := render_references hplain
  have htemplate : greeting.toList = "Hi ".toList ++ (marker exampleId.toList ++ "\x7b".toList) := by decide +kernel
  have hgreeting : render greeting context .newLine = .text ("Hi " ++ greeting ++ "\x7b") := by
    have hrecorded : context.find? exampleId = some (.text greeting) := by rw [Context.find?_record, if_pos rfl]
    obtain ⟨front, back, hfront, hback, hrender⟩ :=
      hvalue _ exampleId _ context (.text greeting) .newLine isUuid_exampleId hrecorded htemplate
    have hhi : render (String.ofList "Hi ".toList) context .newLine = .text "Hi " := by decide +kernel
    have hbrace : render (String.ofList "\x7b".toList) context .newLine = .text "\x7b" := by decide +kernel
    rw [hrender, ← Rendering.text.inj (hhi.symm.trans hfront), ← Rendering.text.inj (hbrace.symm.trans hback)]
    rfl
  refine ⟨hplain, hgreeting, ?_⟩
  have hodd : IsReference "--abcdef001111222233334444-5555-6666".toList :=
    ⟨by decide +kernel, forall_mem_of_all (by decide +kernel)⟩
  rw [← hgreeting]
  exact hsame _ _ _ _ isUuid_exampleId.spec.1 hodd isUuid_exampleId.spec.2.1 (by decide +kernel) htemplate context
    .newLine

end Template
end Deskhand
