import Deskhand.Proofs.Run.References

/-!
# The last value in templates

A template that asks for the last value is read twice: once for the last value to be put in, and again for references.
The text that was put in is therefore read as well, and what it brings, alone or with the characters beside it, may be a
reference to any block. A template renders as if it were read once (`once`) iff the text brings no reference. Main
statements:

* `substitute_append`: a text is cut where no marker reaches across;
* `reference_induction`: a list falls into two at each of its references;
* `resolved_inserted_of_named`, `length_readOnce`: how both ways to read a list compare;
* `IsPlain.named_inserted`: a text without braces that is no part of a reference brings none;
* `render_once_iff`: when a template renders as if it were read once.
-/

namespace Deskhand

section Substitute

variable {marked? : List Char → Option (Nat × List Char)}

theorem substitute_eq_drop (n : Nat) (cs : List Char) : substitute marked? n cs = substitute marked? 0 (cs.drop n) := by
  induction n generalizing cs with
  | zero => rfl
  | succ n ih =>
    cases cs with
    | nil => simp [substitute]
    | cons c cs => exact ih cs

/-- A text is cut where no marker reaches across. -/
theorem substitute_append {front back : List Char}
    (hlocal : ∀ c front', marked? (c :: front' ++ back) = marked? (c :: front'))
    (hsize : ∀ c front' size new, marked? (c :: front') = some (size, new) → size ≤ front'.length + 1) {n : Nat}
    (hn : n ≤ front.length) :
    substitute marked? n (front ++ back) = substitute marked? n front ++ substitute marked? 0 back := by
  induction front generalizing n with
  | nil =>
    obtain rfl := Nat.le_zero.mp hn
    simp [substitute]
  | cons c front ih =>
    cases n with
    | succ n => exact ih (Nat.le_of_succ_le_succ hn)
    | zero =>
      have hlocal := hlocal c front
      rw [List.cons_append] at hlocal
      rw [List.cons_append, substitute, substitute, hlocal]
      cases hmarked : marked? (c :: front) with
      | none => exact congrArg (c :: ·) (ih (Nat.zero_le _))
      | some stretch =>
        obtain ⟨size, new⟩ := stretch
        have hle := hsize c front size new hmarked
        dsimp only
        rw [ih (by omega), List.append_assoc]

/-- Where two sorts of markers stand at the same places of a text, they are replaced alike. -/
theorem substitute_congr {marked?' : List Char → Option (Nat × List Char)} {cs : List Char} (n : Nat)
    (h : ∀ back, back <:+ cs → marked? back = marked?' back) : substitute marked? n cs = substitute marked?' n cs := by
  induction cs generalizing n with
  | nil => simp [substitute]
  | cons c cs ih =>
    have hrest := fun n => ih n fun back hback => h back (hback.trans (List.suffix_cons c cs))
    cases n with
    | succ n => exact hrest n
    | zero => rw [substitute, substitute, h _ (List.suffix_refl _), hrest]; cases marked?' (c :: cs) <;> simp [hrest]

end Substitute

namespace Template

/-- A list with a text in the place of every marker for the last value. -/
def inserted (new cs : List Char) : List Char :=
  substitute (lastAt? new) 0 cs

/-- The marker at the start of a list, with the text that it stands for. -/
def marked? (new : List Char) (context : Context) (format : ListFormat) (cs : List Char) : Option (Nat × List Char) :=
  (lastAt? new cs).or (referenceText? (fun id => formatValue format ((context.find? id).getD .null)) cs)

/-- A list that is read once: a text is put in the place of every marker for the last value, and every reference that
stands in the list itself is resolved. -/
def readOnce (new : List Char) (context : Context) (format : ListFormat) (cs : List Char) : List Char :=
  substitute (marked? new context format) 0 cs

/-- A list with its references resolved. -/
def resolved (context : Context) (format : ListFormat) (cs : List Char) : List Char :=
  (segments 0 cs).flatMap (Segment.rendered context format)

/-- What a template renders to if it is read once. -/
def once (template : String) (context : Context) (format : ListFormat) : String :=
  String.ofList (readOnce (formatValue format context.lastOutput).toList context format template.toList)

/-- What stands between the braces of a piece that names a block: a reference with 32 digits. -/
def Segment.named? : Segment → Option (List Char)
  | plain _ => none
  | reference inner => if (digitsOf inner).length = 32 then some inner else none

/-- The references of a list that name blocks, from left to right. -/
def named (cs : List Char) : List (List Char) :=
  (segments 0 cs).filterMap Segment.named?

variable {new cs inner before after : List Char}

/-! ## The marker for the last value -/

theorem lastAt?_eq (new cs : List Char) :
    lastAt? new cs = if lastMarker <+: cs then some (lastMarker.length, new) else none := by
  rw [lastAt?]
  split
  · next h =>
    obtain ⟨rest, hrest⟩ := Option.isSome_iff_exists.mp (Text.afterChars?_isSome.mpr h)
    rw [hrest]
    rfl
  · next h =>
    rw [← Text.afterChars?_isSome, Bool.not_eq_true, Option.isSome_eq_false_iff, Option.isNone_iff_eq_none] at h
    rw [h]
    rfl

theorem lastAt?_append (new : List Char) (c : Char) (front back : List Char) :
    lastAt? new (c :: front ++ '{' :: back) = lastAt? new (c :: front) := by
  have hiff : lastMarker <+: c :: front ++ '{' :: back ↔ lastMarker <+: c :: front :=
    ⟨prefix_of_prefix_append (by decide) (by simp), fun h => h.trans (List.prefix_append _ _)⟩
  simp only [lastAt?_eq, hiff]

theorem length_of_lastAt? {c : Char} {size : Nat} (h : lastAt? new (c :: cs) = some (size, after)) :
    size ≤ cs.length + 1 := by
  rw [lastAt?_eq] at h
  split at h
  · next hpre =>
    cases h
    exact hpre.length_le
  · cases h

/-- Characters before the first opening brace stand for themselves. -/
theorem inserted_of_no_open {front : List Char} (h : '{' ∉ front) (back : List Char) :
    inserted new (front ++ back) = front ++ inserted new back := by
  induction front with
  | nil => rfl
  | cons c front ih =>
    rw [List.mem_cons, not_or] at h
    have hnone : lastAt? new (c :: (front ++ back)) = none := by
      rw [lastAt?_eq, if_neg fun hpre => h.1 (List.cons_prefix_cons.mp (lastMarker_eq ▸ hpre)).1]
    rw [List.cons_append, inserted, substitute, hnone]
    exact congrArg (c :: ·) (ih h.2)

theorem inserted_append (h : IsReference inner) (new before after : List Char) :
    inserted new (before ++ (marker inner ++ after)) = inserted new before ++ (marker inner ++ inserted new after) := by
  have hback : inserted new (marker inner ++ after) = marker inner ++ inserted new after := by
    rw [marker, List.cons_append, inserted, substitute, lastAt?_eq, if_neg (h.not_lastMarker after)]
    exact congrArg ('{' :: ·) (inserted_of_no_open h.open_not_mem after)
  rw [← hback, inserted, marker, List.cons_append]
  exact substitute_append (fun c front => lastAt?_append new c front _) (fun _ _ _ _ => length_of_lastAt?)
    (Nat.zero_le _)

/-! ## References -/

/-- Nothing is recorded for a block that a reference names. -/
def NamesNothing (context : Context) : Prop :=
  ∀ inner, IsReference inner → (digitsOf inner).length = 32 → context.find? (canonical (digitsOf inner)) = none

variable {context : Context} {format : ListFormat}

theorem marked?_eq (new : List Char) (context : Context) (format : ListFormat) (cs : List Char) :
    marked? new context format cs =
      (lastAt? new cs).or ((referenceAt? cs).map fun inner =>
        (referenceLength + 2, Segment.rendered context format (.reference inner))) := by
  rw [marked?, referenceText?_eq]

theorem length_of_marked? {c : Char} {size : Nat} (h : marked? new context format (c :: cs) = some (size, after)) :
    size ≤ cs.length + 1 := by
  rw [marked?_eq] at h
  rcases Option.or_eq_some_iff.mp h with h | ⟨-, h⟩
  · exact length_of_lastAt? h
  · obtain ⟨inner, hat, h⟩ := Option.map_eq_some_iff.mp h
    obtain ⟨href, hpre⟩ := referenceAt?_iff.mp hat
    cases h
    have hlong := hpre.length_le
    simp only [marker, List.length_cons, href.length_close] at hlong
    omega

theorem readOnce_append (h : IsReference inner) (new : List Char) (context : Context) (format : ListFormat)
    (before after : List Char) :
    readOnce new context format (before ++ (marker inner ++ after)) =
      readOnce new context format before ++
        (Segment.rendered context format (.reference inner) ++ readOnce new context format after) := by
  have hback : readOnce new context format (marker inner ++ after) =
      Segment.rendered context format (.reference inner) ++ readOnce new context format after := by
    have hat : referenceAt? (marker inner ++ after) = some inner := referenceAt?_iff.mpr ⟨h, List.prefix_append _ _⟩
    rw [marker, List.cons_append] at hat ⊢
    rw [readOnce, substitute, marked?_eq, lastAt?_eq, if_neg (h.not_lastMarker after), hat]
    dsimp only [Option.map_some, Option.none_or]
    rw [substitute_eq_drop, Nat.add_sub_assoc (by decide), List.drop_left' h.length_close, readOnce]
  rw [← hback, readOnce, marker, List.cons_append]
  refine substitute_append (fun c front => ?_) (fun _ _ _ _ => length_of_marked?) (Nat.zero_le _)
  rw [marked?_eq, marked?_eq, lastAt?_append, referenceAt?_append]

theorem resolved_append (h : IsReference inner) (context : Context) (format : ListFormat) (before after : List Char) :
    resolved context format (before ++ (marker inner ++ after)) =
      resolved context format before ++
        (Segment.rendered context format (.reference inner) ++ resolved context format after) := by
  rw [resolved, segments_append h _ _ (Nat.zero_le _), List.flatMap_append, List.flatMap_cons, resolved, resolved]

theorem named_append (h : IsReference inner) (before after : List Char) :
    named (before ++ (marker inner ++ after)) =
      named before ++ ((Segment.reference inner).named?.toList ++ named after) := by
  rw [named, segments_append h _ _ (Nat.zero_le _), List.filterMap_append, List.filterMap_cons, named, named]
  cases (Segment.reference inner).named? <;> rfl

/-- A list has no reference. -/
def IsBare (cs : List Char) : Prop :=
  ∀ before inner after, IsReference inner → cs ≠ before ++ (marker inner ++ after)

theorem IsBare.named_eq (h : IsBare cs) : named cs = [] := by
  rw [named, List.filterMap_eq_nil_iff]
  intro piece hpiece
  cases piece with
  | plain c => rfl
  | reference inner =>
    obtain ⟨front, back, hpieces⟩ := List.append_of_mem hpiece
    refine absurd ?_ (h (front.flatMap Segment.source) inner (back.flatMap Segment.source) (isReference_of_mem hpiece))
    have hsource := source_segments 0 cs
    rw [hpieces, List.flatMap_append, List.flatMap_cons] at hsource
    exact hsource.symm

theorem IsBare.readOnce_eq (h : IsBare cs) (new : List Char) : readOnce new context format cs = inserted new cs := by
  refine substitute_congr 0 fun back hback => ?_
  have hnone : referenceAt? back = none := by
    rw [Option.eq_none_iff_forall_ne_some]
    intro inner hat
    obtain ⟨href, after, hafter⟩ := referenceAt?_iff.mp hat
    obtain ⟨before, hbefore⟩ := hback
    exact h before inner after href (by rw [hafter, hbefore])
  rw [marked?_eq, hnone, Option.map_none, Option.or_none]

/-- A list whose references name no block is resolved to itself. -/
theorem resolved_of_named (h : named cs = []) : resolved context format cs = cs := by
  have hsame : ∀ piece ∈ segments 0 cs, Segment.rendered context format piece = piece.source := by
    intro piece hpiece
    cases piece with
    | plain c => rfl
    | reference inner =>
      have hnone := List.filterMap_eq_nil_iff.mp h _ hpiece
      rw [Segment.named?, ite_eq_right_iff] at hnone
      exact if_neg fun hlength => Option.some_ne_none _ (hnone hlength)
  rw [resolved, List.flatMap_congr hsame]
  exact source_segments 0 cs

/-- Nothing is left of a reference that names a block if nothing was recorded for any. -/
theorem length_rendered (format : ListFormat) (hnone : NamesNothing context) {p : Segment}
    (h : ∀ inner, p = .reference inner → IsReference inner) :
    (p.rendered context format).length + 38 * p.named?.toList.length = p.source.length := by
  cases p with
  | plain c => rfl
  | reference inner =>
    have hlength := (h inner rfl).length_close
    rw [Segment.rendered, Segment.named?, Segment.source, marker, List.length_cons, hlength]
    split
    · next hdigits =>
      rw [hnone inner (h inner rfl) hdigits]
      rfl
    · rw [List.length_cons, hlength]
      rfl

theorem length_resolved (format : ListFormat) (hnone : NamesNothing context) (cs : List Char) :
    (resolved context format cs).length + 38 * (named cs).length = cs.length := by
  have hall : ∀ pieces : List Segment, (∀ inner, .reference inner ∈ pieces → IsReference inner) →
      (pieces.flatMap (Segment.rendered context format)).length + 38 * (pieces.filterMap Segment.named?).length =
        (pieces.flatMap Segment.source).length := by
    intro pieces hpieces
    induction pieces with
    | nil => rfl
    | cons piece rest ih =>
      have hfirst := length_rendered format hnone fun inner h => hpieces inner (h ▸ List.mem_cons_self)
      have hrest := ih fun inner h => hpieces inner (List.mem_cons_of_mem _ h)
      have hnamed : ((piece :: rest).filterMap Segment.named?).length =
          piece.named?.toList.length + (rest.filterMap Segment.named?).length := by
        rw [List.filterMap_cons]
        cases piece.named? with
        | none => exact (Nat.zero_add _).symm
        | some inner => exact Nat.add_comm _ _
      rw [List.flatMap_cons, List.flatMap_cons, List.length_append, List.length_append, hnamed]
      omega
  rw [resolved, named, hall _ fun _ => isReference_of_mem, source_segments]
  rfl

/-! ## Reading once and twice -/

/-- Every list falls into two at a reference, or has none. -/
theorem reference_induction {P : List Char → Prop} (bare : ∀ cs, IsBare cs → P cs)
    (append : ∀ before inner after, IsReference inner → P before → P after → P (before ++ (marker inner ++ after)))
    (cs : List Char) : P cs := by
  by_cases hcs : IsBare cs
  · exact bare cs hcs
  · simp only [IsBare, not_forall, not_not] at hcs
    obtain ⟨before, inner, after, h, hsplit⟩ := hcs
    have hbefore : before.length < cs.length := by simp [hsplit, marker]
    have hafter : after.length < cs.length := by
      simp only [hsplit, marker, List.length_append, List.length_cons]
      omega
    exact hsplit ▸ append before inner after h (reference_induction bare append before)
      (reference_induction bare append after)
termination_by cs.length

/-- The references of a list stay when the last value is put in. -/
theorem named_sublist_inserted (new cs : List Char) : (named cs).Sublist (named (inserted new cs)) := by
  induction cs using reference_induction with
  | bare cs h => exact h.named_eq ▸ List.nil_sublist _
  | append before inner after h hbefore hafter =>
    rw [inserted_append h, named_append h, named_append h]
    exact hbefore.append ((List.Sublist.refl _).append hafter)

/-- Where the text that is put in brings no reference, both ways to read a list agree. -/
theorem resolved_inserted_of_named {new cs : List Char} (h : named (inserted new cs) = named cs) (context : Context)
    (format : ListFormat) : resolved context format (inserted new cs) = readOnce new context format cs := by
  induction cs using reference_induction with
  | bare cs hbare => rw [hbare.readOnce_eq, resolved_of_named (h.trans hbare.named_eq)]
  | append before inner after hinner ihbefore ihafter =>
    have hfirst := named_sublist_inserted new before
    have hsecond := named_sublist_inserted new after
    rw [inserted_append hinner, named_append hinner, named_append hinner] at h
    have hlength := congrArg List.length h
    simp only [List.length_append] at hlength
    have hbefore : named (inserted new before) = named before :=
      (hfirst.eq_of_length (by have := hfirst.length_le; have := hsecond.length_le; omega)).symm
    have hafter : named (inserted new after) = named after :=
      (hsecond.eq_of_length (by have := hfirst.length_le; have := hsecond.length_le; omega)).symm
    rw [inserted_append hinner, resolved_append hinner, readOnce_append hinner, ihbefore hbefore, ihafter hafter]

/-- Read once, a list loses its own references if nothing was recorded for any block. -/
theorem length_readOnce (format : ListFormat) (hnone : NamesNothing context) (new cs : List Char) :
    (readOnce new context format cs).length + 38 * (named cs).length = (inserted new cs).length := by
  induction cs using reference_induction with
  | bare cs h => rw [h.readOnce_eq, h.named_eq]; rfl
  | append before inner after h hbefore hafter =>
    have hinner := length_rendered format (p := .reference inner) hnone fun _ heq =>
      Segment.reference.inj heq ▸ h
    rw [readOnce_append h, named_append h, inserted_append h]
    simp only [List.length_append, Segment.source] at hinner ⊢
    omega

/-! ## Texts that bring no reference -/

/-- A text without braces, in which something stands that cannot stand in a reference. -/
structure IsPlain (new : List Char) : Prop where
  noOpen : '{' ∉ new
  noClose : '}' ∉ new
  other : ∃ c ∈ new, c ∉ '-' :: hexDigits

theorem inserted_cons (new : List Char) (c : Char) (cs : List Char) :
    inserted new (c :: cs) =
      if lastMarker <+: c :: cs then new ++ inserted new (cs.drop (lastMarker.length - 1))
      else c :: inserted new cs := by
  rw [inserted, substitute, lastAt?_eq]
  by_cases h : lastMarker <+: c :: cs
  · rw [if_pos h, if_pos h]
    exact congrArg (new ++ ·) (substitute_eq_drop _ _)
  · rw [if_neg h, if_neg h, inserted]

/-- A reference does not end within a plain text or behind it. -/
theorem IsPlain.not_prefix (hnew : IsPlain new) {front : List Char} (h : ∀ c ∈ front, c ∈ '-' :: hexDigits)
    (back : List Char) : ¬front ++ ['}'] <+: new ++ back := by
  intro hwithin
  rcases List.prefix_or_prefix_of_prefix hwithin (List.prefix_append new back) with hshort | hlong
  · exact hnew.noClose (hshort.subset (by simp))
  · obtain ⟨c, hc, hother⟩ := hnew.other
    rcases List.mem_append.mp (hlong.subset hc) with hfront | hclose
    · exact hother (h c hfront)
    · exact hnew.noClose (List.mem_singleton.mp hclose ▸ hc)

/-- What a reference ends with is not brought by a plain text. -/
theorem IsPlain.prefix_of_inserted (hnew : IsPlain new) {front : List Char} (h : ∀ c ∈ front, c ∈ '-' :: hexDigits)
    (hpre : front ++ ['}'] <+: inserted new cs) : front ++ ['}'] <+: cs := by
  induction front generalizing cs with
  | nil =>
    cases cs with
    | nil => simp [inserted, substitute] at hpre
    | cons c cs =>
      rw [inserted_cons] at hpre
      split at hpre
      · exact absurd hpre (hnew.not_prefix h _)
      · exact List.cons_prefix_cons.mpr ⟨(List.cons_prefix_cons.mp hpre).1, List.nil_prefix⟩
  | cons x front ih =>
    cases cs with
    | nil => simp [inserted, substitute] at hpre
    | cons c cs =>
      rw [inserted_cons] at hpre
      split at hpre
      · exact absurd hpre (hnew.not_prefix h _)
      · obtain ⟨rfl, hrest⟩ := List.cons_prefix_cons.mp hpre
        exact List.cons_prefix_cons.mpr ⟨rfl, ih (fun d hd => h d (.tail _ hd)) hrest⟩

/-- A plain text does not bring a reference, nor does it make one with what is beside it. -/
theorem IsPlain.infix_of_substitute (hnew : IsPlain new) (h : IsReference inner) {n : Nat}
    (hin : marker inner <:+: substitute (lastAt? new) n cs) : marker inner <:+: cs := by
  induction cs generalizing n with
  | nil => simp [substitute, marker] at hin
  | cons c cs ih =>
    have hbehind : cs <:+: c :: cs := (List.suffix_cons c cs).isInfix
    cases n with
    | succ n => exact (ih hin).trans hbehind
    | zero =>
      rw [substitute, lastAt?_eq] at hin
      by_cases hmarker : lastMarker <+: c :: cs
      · rw [if_pos hmarker] at hin
        exact (ih ((infix_append_of_not_mem hnew.noOpen).mp hin)).trans hbehind
      · rw [if_neg hmarker] at hin
        rcases List.infix_cons_iff.mp hin with hpre | hrest
        · obtain ⟨rfl, hclose⟩ := List.cons_prefix_cons.mp hpre
          exact (List.cons_prefix_cons.mpr ⟨rfl, hnew.prefix_of_inserted h.chars hclose⟩).isInfix
        · exact (ih hrest).trans hbehind

theorem isBare_iff : IsBare cs ↔ ∀ inner, IsReference inner → ¬marker inner <:+: cs := by
  constructor
  · rintro hcs inner h ⟨before, after, hsplit⟩
    exact hcs before inner after h (by rw [← hsplit, List.append_assoc])
  · rintro hcs before inner after h hsplit
    exact hcs inner h ⟨before, after, by rw [hsplit, List.append_assoc]⟩

theorem IsPlain.isBare_inserted (hnew : IsPlain new) (hcs : IsBare cs) : IsBare (inserted new cs) :=
  isBare_iff.mpr fun inner h hin => isBare_iff.mp hcs inner h (hnew.infix_of_substitute h hin)

theorem IsPlain.named_inserted (hnew : IsPlain new) (cs : List Char) : named (inserted new cs) = named cs := by
  induction cs using reference_induction with
  | bare cs h => rw [h.named_eq, (hnew.isBare_inserted h).named_eq]
  | append before inner after h hbefore hafter =>
    rw [inserted_append h, named_append h, named_append h, hbefore, hafter]

/-! ## Templates that ask for the last value -/

theorem render_of_asks {template : String} (h : lastMarker <:+: template.toList) (hlast : context.lastOutput ≠ .null) :
    render template context format = .text (String.ofList
      (resolved context format (inserted (formatValue format context.lastOutput).toList template.toList))) := by
  rw [render, asksForLast, Text.occursIn_iff.mpr h, if_pos rfl]
  split
  · next hnull => exact absurd hnull hlast
  · rw [withReferences, withLast, String.toList_ofList, substitute_eq_segments]
    rfl

/-- A template that asks for the last value renders as if it were read once, whatever was recorded for blocks, iff the
text of the last value brings no reference that names a block, neither in itself nor with the characters beside it: the
references in the template with the text put in are those that stand in the template. A plain text brings none. -/
theorem render_once_iff {template : String} (h : lastMarker <:+: template.toList) {v : Value} (hv : v ≠ .null)
    (format : ListFormat) :
    ((∀ context : Context, context.lastOutput = v →
        render template context format = .text (once template context format)) ↔
      named (withLast (formatValue format v) template).toList = named template.toList) ∧
    (IsPlain (formatValue format v).toList → ∀ context : Context, context.lastOutput = v →
      render template context format = .text (once template context format)) := by
  have hinserted : (withLast (formatValue format v) template).toList =
      inserted (formatValue format v).toList template.toList := String.toList_ofList
  have hsame : named (withLast (formatValue format v) template).toList = named template.toList →
      ∀ context : Context, context.lastOutput = v →
        render template context format = .text (once template context format) := by
    rintro hnamed context rfl
    rw [hinserted] at hnamed
    rw [render_of_asks h hv, resolved_inserted_of_named hnamed, once]
  refine ⟨⟨fun hall => ?_, hsame⟩, fun hplain => hsame (hinserted ▸ hplain.named_inserted _)⟩
  -- where nothing is recorded for the blocks that are named, what is lost tells how many references there were
  obtain ⟨context, rfl, hnone⟩ : ∃ context : Context, context.lastOutput = v ∧ NamesNothing context := by
    refine ⟨Context.record {} "" v, rfl, fun inner hinner hdigits => ?_⟩
    obtain ⟨huuid, hlower, -⟩ := canonical_spec hinner hdigits
    rw [Context.find?_record, if_neg]
    · rfl
    · obtain ⟨a, b, c, d, e, hid, -⟩ := huuid
      rw [hlower, show Text.lower "" = "" from rfl]
      intro hempty
      simp [← hempty] at hid
  have hrender := hall context rfl
  rw [render_of_asks h hv, once, Rendering.text.injEq, String.ofList_inj] at hrender
  have htwice := length_resolved format hnone
    (inserted (formatValue format context.lastOutput).toList template.toList)
  have honce := length_readOnce format hnone (formatValue format context.lastOutput).toList template.toList
  rw [hinserted]
  refine ((named_sublist_inserted _ _).eq_of_length ?_).symm
  rw [hrender] at htwice
  omega

/-- A title with braces that are no reference stands in the text as it is. -/
theorem render_once_title :
    let context := Context.record {} exampleId (.text "A {new} film")
    render "Hi {LastResult}!" context .newLine = .text (once "Hi {LastResult}!" context .newLine) ∧
      once "Hi {LastResult}!" context .newLine = "Hi A {new} film!" := by
  intro context
  have hasks : lastMarker <:+: "Hi {LastResult}!".toList := by decide +kernel
  exact ⟨(render_once_iff hasks (v := .text "A {new} film") (by simp) .newLine).1.mpr (by decide +kernel) context
    rfl, by decide +kernel⟩

/-- A value that is a reference to another block pulls in what that block recorded, and so does one that makes a
reference with the characters of the template beside it. -/
theorem render_reads_value :
    let secret := Context.record {} "00000000-0000-4000-8000-00000000000a" (.text "secret")
    let quoting := secret.record "b" (.text "{00000000-0000-4000-8000-00000000000a}")
    let completing := secret.record "b" (.text "0000-0000-4000-8000-00000000000a")
    render "{LastResult}" quoting .newLine = .text "secret" ∧
      once "{LastResult}" quoting .newLine = "{00000000-0000-4000-8000-00000000000a}" ∧
      render "{0000{LastResult}}" completing .newLine = .text "secret" ∧
      once "{0000{LastResult}}" completing .newLine = "{00000000-0000-4000-8000-00000000000a}" := by
  decide +kernel

end Template

end Deskhand
