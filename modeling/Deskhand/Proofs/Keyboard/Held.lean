import Deskhand.Keyboard.Hook
import Mathlib.Data.List.Induction

/-!
# Modifiers that are held

A keyboard reports keys that go down and up, of which some are injected by a program that types. What is to be
posted is one key-down for each key that goes down by hand and is no modifier, with the families of modifiers of
which a key is held by hand (`isHeld`). The hook keeps one mark for each family: any key of it that goes down by
hand sets the mark, and any key of it that goes up, by hand or not, takes the mark away (`isMarked`). So a family
can lose its mark while another key of it is held, or when a program makes a key of it go up. Main statements:

* `take_spec`: at each report the hook keeps the families that are marked, and posts a key-down with them;
* `isHeld_of_isMarked`: a marked family is held;
* `keyDowns_eq_iff`: when two readings of the modifiers make the same key-downs;
* `posts_held_iff`: what the hook posts, and when that is what is to be posted.
-/

namespace Deskhand

/-! ## Families of modifiers -/

namespace Keyboard

/-- The families of modifiers, in order. -/
def families : List String := ["alt", "ctrl", "shift"]

theorem mem_families {name family : String} (h : modifier? name = some family) : family ∈ families := by
  have hmem : ∀ aliases : List (String × String), aliases.lookup name = some family →
      family ∈ aliases.map Prod.snd := by
    intro aliases
    induction aliases with
    | nil => simp
    | cons entry rest ih =>
      rw [List.lookup_cons]
      split
      · simp_all
      · exact fun hrest => List.mem_cons_of_mem _ (ih hrest)
  have hfamilies : ∀ m ∈ modifierAliases.map Prod.snd, m ∈ families := by decide
  exact hfamilies family (hmem _ h)

/-- Some of the families, one by one. -/
theorem families_filter (p : String → Bool) :
    families.filter p = (if p "alt" then ["alt"] else []) ++ (if p "ctrl" then ["ctrl"] else []) ++
      if p "shift" then ["shift"] else [] := by
  cases ha : p "alt" <;> cases hc : p "ctrl" <;> cases hs : p "shift" <;> simp [families, ha, hc, hs]

/-- Families in order are the normal form of the combination that they write. -/
theorem normalModifiers_join (p : String → Bool) :
    normalModifiers (Text.join "+" (families.filter p)) = Text.join "+" (families.filter p) := by
  have h : ∀ a c s : Bool,
      let chosen := (if a then ["alt"] else []) ++ (if c then ["ctrl"] else []) ++ if s then ["shift"] else []
      normalModifiers (Text.join "+" chosen) = Text.join "+" chosen := by decide +kernel
  rw [families_filter]
  exact h _ _ _

/-- Families in order are told apart by the combination that they write. -/
theorem join_families_inj {p q : String → Bool} :
    Text.join "+" (families.filter p) = Text.join "+" (families.filter q) ↔ ∀ f ∈ families, p f = q f := by
  have h : ∀ a c s a' c' s' : Bool,
      Text.join "+" ((if a then ["alt"] else []) ++ (if c then ["ctrl"] else []) ++ if s then ["shift"] else []) =
        Text.join "+" ((if a' then ["alt"] else []) ++ (if c' then ["ctrl"] else []) ++
          if s' then ["shift"] else []) ↔ a = a' ∧ c = c' ∧ s = s' := by decide +kernel
  rw [families_filter, families_filter, h]
  simp [families]

/-- One more family among those of a list. -/
theorem insert_families {family : String} (h : family ∈ families) (p : String → Bool) :
    Ordered.insert family (families.filter p) = families.filter fun f => f == family || p f := by
  have hall : ∀ a c s : Bool, ∀ m ∈ families,
      Ordered.insert m ((if a then ["alt"] else []) ++ (if c then ["ctrl"] else []) ++
          if s then ["shift"] else []) =
        (if "alt" == m || a then ["alt"] else []) ++ (if "ctrl" == m || c then ["ctrl"] else []) ++
          if "shift" == m || s then ["shift"] else [] := by decide +kernel
  rw [families_filter, families_filter]
  exact hall _ _ _ family h

theorem erase_families (family : String) (p : String → Bool) :
    Ordered.erase family (families.filter p) = families.filter fun f => f != family && p f := by
  rw [Ordered.erase, List.filter_filter]
  refine List.filter_congr fun f _ => ?_
  simp [bne, beq_eq_decide]

end Keyboard

namespace KeyPress

/-- The family of modifiers that a key belongs to. -/
def family? (byCode : Bool) (k : KeyPress) : Option String :=
  Keyboard.modifier? (Text.lower ((k.name? byCode).getD ""))

/-- The name of a key that is no modifier. -/
def plainName? (byCode : Bool) (k : KeyPress) : Option String :=
  (k.name? byCode).filter fun name => name != "" && (Keyboard.modifier? (Text.lower name)).isNone

end KeyPress

/-! ## Reports of a keyboard -/

/-- What a keyboard reports: a key goes down or up, by hand or injected by a program. -/
inductive KeyReport where
  | down (k : KeyPress) (injected : Bool)
  | up (k : KeyPress) (injected : Bool)
  deriving DecidableEq, Repr

namespace KeyReport

/-- Whether a report is made up by a program. -/
def isInjected : KeyReport → Bool
  | down _ injected | up _ injected => injected

/-- The keys that are held by hand after a report. -/
def hold (keys : List KeyPress) : KeyReport → List KeyPress
  | down k false => k :: keys
  | up k false => keys.filter (· ≠ k)
  | _ => keys

/-- The keys that are held by hand after reports, if none was before. -/
def keysHeld (reports : List KeyReport) : List KeyPress :=
  reports.foldl hold []

/-- No key goes up by hand that is not held by hand, if some keys are held before. -/
def IsConsistent : List KeyPress → List KeyReport → Prop
  | _, [] => True
  | keys, r :: rest => (∀ k, r = up k false → k ∈ keys) ∧ IsConsistent (hold keys r) rest

/-- Whether a key of a family is held by hand after reports. -/
def isHeld (byCode : Bool) (reports : List KeyReport) (family : String) : Bool :=
  (keysHeld reports).any fun k => k.family? byCode == some family

/-- What a report makes of the mark of a family: any key of it that goes down by hand sets it, and any that goes
up, by hand or not, takes it away. -/
def mark (byCode : Bool) (family : String) (marked : Bool) : KeyReport → Bool
  | down k injected => if !injected && k.family? byCode == some family then true else marked
  | up k _ => if k.family? byCode == some family then false else marked

/-- Whether a family is marked after reports. -/
def isMarked (byCode : Bool) (reports : List KeyReport) (family : String) : Bool :=
  reports.foldl (mark byCode family) false

/-- The key-down that is posted for a key that goes down by hand and is no modifier, with the families of which
something holds. -/
def keyDown? (byCode : Bool) (holds : String → Bool) : KeyReport → Option KeyCombination
  | down k false => (k.plainName? byCode).map fun name =>
      ⟨Keyboard.normalKey name, Text.join "+" (Keyboard.families.filter holds)⟩
  | _ => none

/-- The key-downs of reports, one for each key that goes down by hand and is no modifier, in order, each with the
families of which something holds after the reports before it. -/
def keyDowns (byCode : Bool) (holds : List KeyReport → String → Bool) :
    List KeyReport → List KeyReport → List KeyCombination
  | _, [] => []
  | before, r :: rest =>
    (r.keyDown? byCode (holds before)).toList ++ keyDowns byCode holds (before ++ [r]) rest

variable {byCode : Bool} {family : String}

theorem isMarked_snoc (reports : List KeyReport) (r : KeyReport) :
    isMarked byCode (reports ++ [r]) family = mark byCode family (isMarked byCode reports family) r := by
  rw [isMarked, List.foldl_append]
  rfl

theorem keysHeld_snoc (reports : List KeyReport) (r : KeyReport) :
    keysHeld (reports ++ [r]) = hold (keysHeld reports) r := by
  rw [keysHeld, List.foldl_append]
  rfl

/-- A family that is marked is held: the key that set the mark has not gone up since. -/
theorem isHeld_of_isMarked (reports : List KeyReport) (h : isMarked byCode reports family = true) :
    isHeld byCode reports family = true := by
  induction reports using List.reverseRecOn with
  | nil => cases h
  | append_singleton reports r ih =>
    rw [isMarked_snoc] at h
    simp only [isHeld, keysHeld_snoc, List.any_eq_true, beq_iff_eq] at ih ⊢
    cases r with
    | down k injected =>
      simp only [mark, Bool.and_eq_true, Bool.not_eq_true', beq_iff_eq] at h
      split at h
      · next hk =>
        obtain ⟨rfl, hfamily⟩ := hk
        exact ⟨k, List.mem_cons_self, hfamily⟩
      · obtain ⟨key, hkey, hfamily⟩ := ih h
        refine ⟨key, ?_, hfamily⟩
        cases injected with
        | false => exact List.mem_cons_of_mem _ hkey
        | true => exact hkey
    | up k injected =>
      simp only [mark, beq_iff_eq] at h
      split at h
      · cases h
      · next hk =>
        obtain ⟨key, hkey, hfamily⟩ := ih h
        refine ⟨key, ?_, hfamily⟩
        cases injected with
        | false =>
          -- the key that goes up is of another family
          refine List.mem_filter.mpr ⟨hkey, ?_⟩
          simp only [ne_eq, decide_eq_true_eq]
          rintro rfl
          exact hk hfamily
        | true => exact hkey

/-- Injected reports only take marks away. -/
theorem isMarked_filter (reports : List KeyReport) (h : isMarked byCode reports family = true) :
    isMarked byCode (reports.filter (!·.isInjected)) family = true := by
  induction reports using List.reverseRecOn with
  | nil => cases h
  | append_singleton reports r ih =>
    rw [isMarked_snoc] at h
    have hsnoc : (reports ++ [r]).filter (!·.isInjected) =
        reports.filter (!·.isInjected) ++ if r.isInjected then [] else [r] := by
      cases hr : r.isInjected <;> simp [hr]
    rw [hsnoc]
    cases r with
    | down k injected =>
      cases injected with
      | false =>
        rw [isInjected, if_neg Bool.false_ne_true, isMarked_snoc]
        simp only [mark] at h ⊢
        split
        · rfl
        · next hk =>
          rw [if_neg hk] at h
          exact ih h
      | true =>
        rw [isInjected, if_pos rfl, List.append_nil]
        exact ih h
    | up k injected =>
      simp only [mark] at h
      split at h
      · cases h
      · next hk =>
        cases injected with
        | false =>
          rw [isInjected, if_neg Bool.false_ne_true, isMarked_snoc, mark, if_neg hk]
          exact ih h
        | true =>
          rw [isInjected, if_pos rfl, List.append_nil]
          exact ih h

/-- Two readings of the modifiers make the same key-downs iff they agree on every family whenever a key goes down by
hand that is no modifier. -/
theorem keyDowns_eq_iff {p q : List KeyReport → String → Bool} (before reports : List KeyReport) :
    keyDowns byCode p before reports = keyDowns byCode q before reports ↔
      ∀ front k back, reports = front ++ down k false :: back → (k.plainName? byCode).isSome →
        ∀ f ∈ Keyboard.families, p (before ++ front) f = q (before ++ front) f := by
  induction reports generalizing before with
  | nil => simp [keyDowns]
  | cons r rest ih =>
    have hlength : (r.keyDown? byCode (p before)).toList.length = (r.keyDown? byCode (q before)).toList.length := by
      cases r with
      | down k injected => cases injected <;> cases h : k.plainName? byCode <;> simp [keyDown?, h]
      | up k injected => rfl
    have hhead : (r.keyDown? byCode (p before)).toList = (r.keyDown? byCode (q before)).toList ↔
        ∀ k, r = down k false → (k.plainName? byCode).isSome → ∀ f ∈ Keyboard.families, p before f = q before f := by
      cases r with
      | down k injected =>
        cases injected with
        | true => simp [keyDown?]
        | false => cases h : k.plainName? byCode <;> simp [keyDown?, h, Keyboard.join_families_inj]
      | up k injected => simp [keyDown?]
    have hparts : keyDowns byCode p before (r :: rest) = keyDowns byCode q before (r :: rest) ↔
        (r.keyDown? byCode (p before)).toList = (r.keyDown? byCode (q before)).toList ∧
          keyDowns byCode p (before ++ [r]) rest = keyDowns byCode q (before ++ [r]) rest :=
      ⟨fun h => List.append_inj h hlength, fun ⟨hhere, hlater⟩ => by rw [keyDowns, keyDowns, hhere, hlater]⟩
    rw [hparts, hhead, ih]
    constructor
    · rintro ⟨hhere, hlater⟩ front k back hsplit
      cases front with
      | nil =>
        obtain ⟨rfl, rfl⟩ := List.cons.inj hsplit
        simpa using hhere k rfl
      | cons r' front =>
        obtain ⟨rfl, rfl⟩ := List.cons.inj hsplit
        simpa using hlater front k back rfl
    · intro h
      refine ⟨fun k hk => ?_, fun front k back hsplit => ?_⟩
      · simpa using h [] k rest (by rw [hk]; rfl)
      · simpa using h (r :: front) k back (by rw [hsplit]; rfl)

end KeyReport

/-! ## The hook -/

namespace KeyboardHook

open KeyReport

/-- What the hook posts at a report, and the hook after it. -/
def take (h : KeyboardHook) : KeyReport → Option KeyCombination × KeyboardHook
  | .down k injected => h.press k injected
  | .up k _ => (none, h.release k)

/-- What the hook posts at reports, in order. -/
def posts : KeyboardHook → List KeyReport → List KeyCombination
  | _, [] => []
  | h, r :: rest => (h.take r).1.toList ++ posts (h.take r).2 rest

/-- A key that goes down by hand sets the mark of its family, or is posted if it is no modifier. -/
theorem press_by_hand (h : KeyboardHook) (k : KeyPress) :
    h.press k false =
      match k.family? h.byCode with
      | some family => (none, { h with held := Ordered.insert family h.held })
      | none => ((k.plainName? h.byCode).bind fun name => h.post name (Text.join "+" h.held), h) := by
  have hblank : Keyboard.modifier? (Text.lower "") = none := by decide +kernel
  rw [press, KeyPress.family?, KeyPress.plainName?]
  cases hname : k.name? h.byCode with
  | none => simp [hblank]
  | some name =>
    by_cases hempty : name = ""
    · simp [Option.filter_some, hempty, hblank]
    · cases hm : Keyboard.modifier? (Text.lower name) <;> simp [Option.filter_some, hempty, hm]

theorem press_injected (h : KeyboardHook) (k : KeyPress) : h.press k true = (none, h) := by
  simp [press]

/-- A report that leaves every mark as it is leaves the hook as it is. -/
theorem eq_of_unmarked {h : KeyboardHook} {before : List KeyReport} {r : KeyReport}
    (hheld : h.held = Keyboard.families.filter (isMarked h.byCode before))
    (hmark : ∀ f marked, mark h.byCode f marked r = marked) :
    h = { h with held := Keyboard.families.filter (isMarked h.byCode (before ++ [r])) } := by
  have hsame : isMarked h.byCode (before ++ [r]) = isMarked h.byCode before := by
    funext f
    rw [isMarked_snoc, hmark]
  rw [hsame, ← hheld]

/-- The hook keeps the families that are marked, and posts key-downs with them. -/
theorem take_spec {h : KeyboardHook} (hpresent : h.listener = .present) {before : List KeyReport}
    (hheld : h.held = Keyboard.families.filter (isMarked h.byCode before)) (r : KeyReport) :
    (h.take r).1 = r.keyDown? h.byCode (isMarked h.byCode before) ∧
      (h.take r).2 = { h with held := Keyboard.families.filter (isMarked h.byCode (before ++ [r])) } := by
  cases r with
  | down k injected =>
    cases injected with
    | true =>
      rw [take, press_injected]
      exact ⟨rfl, eq_of_unmarked hheld fun _ _ => rfl⟩
    | false =>
      rw [take, press_by_hand]
      cases hfamily : k.family? h.byCode with
      | some family =>
        have hplain : k.plainName? h.byCode = none := by
          rw [KeyPress.family?] at hfamily
          rw [KeyPress.plainName?]
          cases hname : k.name? h.byCode <;> simp_all
        refine ⟨by simp [keyDown?, hplain], ?_⟩
        simp only [hheld, Keyboard.insert_families (Keyboard.mem_families hfamily)]
        congr 2
        funext f
        rw [isMarked_snoc, mark, hfamily]
        by_cases hf : f = family
        · simp [hf]
        · simp [hf, Ne.symm hf]
      | none =>
        refine ⟨?_, eq_of_unmarked hheld fun f marked => by simp [mark, hfamily]⟩
        simp only [keyDown?, post, hpresent, hheld, KeyCombination.ofTexts, Keyboard.normalModifiers_join]
        cases k.plainName? h.byCode <;> rfl
  | up k injected =>
    refine ⟨rfl, ?_⟩
    have hrelease : h.release k =
        match k.family? h.byCode with
        | some family => { h with held := Ordered.erase family h.held }
        | none => h := rfl
    rw [take, hrelease]
    cases hfamily : k.family? h.byCode with
    | some family =>
      simp only [hheld, Keyboard.erase_families]
      congr 2
      funext f
      rw [isMarked_snoc, mark, hfamily]
      by_cases hf : f = family
      · simp [hf]
      · simp [hf, Ne.symm hf]
    | none => exact eq_of_unmarked hheld fun f marked => by simp [mark, hfamily]

/-- What the hook posts while it is listened to: the key-downs with the families that are marked. -/
theorem posts_eq_keyDowns {h : KeyboardHook} (hpresent : h.listener = .present) {before : List KeyReport}
    (hheld : h.held = Keyboard.families.filter (isMarked h.byCode before)) (reports : List KeyReport) :
    h.posts reports = keyDowns h.byCode (isMarked h.byCode) before reports := by
  induction reports generalizing h before with
  | nil => rfl
  | cons r rest ih =>
    obtain ⟨hpost, hnext⟩ := take_spec hpresent hheld r
    rw [posts, keyDowns, hpost, hnext]
    exact congrArg _ (ih (h := { h with held := Keyboard.families.filter (isMarked h.byCode (before ++ [r])) })
      hpresent rfl)

/-- Without the injected reports, the key-downs are the same, each with the families that are marked without them. -/
theorem keyDowns_filter (byCode : Bool) (before reports : List KeyReport) :
    keyDowns byCode (isMarked byCode) (before.filter (!·.isInjected)) (reports.filter (!·.isInjected)) =
      keyDowns byCode (fun past => isMarked byCode (past.filter (!·.isInjected))) before reports := by
  induction reports generalizing before with
  | nil => rfl
  | cons r rest ih =>
    have hrest := ih (before ++ [r])
    rw [List.filter_append] at hrest
    rw [keyDowns, ← hrest, List.filter_cons]
    cases r with
    | down k injected => cases injected <;> simp [isInjected, keyDowns, keyDown?]
    | up k injected => cases injected <;> simp [isInjected, keyDowns, keyDown?]

/-- A hook that is listened to and keeps no modifier posts one key-down for each key that goes down by hand and is no
modifier, in order, with the families that are marked, all of which are held. These are the families that are held
iff, whenever such a key goes down, every family that is held is marked: the latest report of a key of it, but for
injected ones of keys that go down, is that of a key that goes down. Without the injected reports it posts the same
iff, whenever such a key goes down, every family that would be marked without them is marked. -/
theorem posts_held_iff {h : KeyboardHook} (hpresent : h.listener = .present) (hnone : h.held = [])
    (reports : List KeyReport) :
    h.posts reports = keyDowns h.byCode (isMarked h.byCode) [] reports ∧
      (∀ before family, isMarked h.byCode before family = true → isHeld h.byCode before family = true) ∧
      (h.posts reports = keyDowns h.byCode (isHeld h.byCode) [] reports ↔
        ∀ before k after, reports = before ++ .down k false :: after → (k.plainName? h.byCode).isSome →
          ∀ f ∈ Keyboard.families, isHeld h.byCode before f = true → isMarked h.byCode before f = true) ∧
      (h.posts (reports.filter (!·.isInjected)) = h.posts reports ↔
        ∀ before k after, reports = before ++ .down k false :: after → (k.plainName? h.byCode).isSome →
          ∀ f ∈ Keyboard.families, isMarked h.byCode (before.filter (!·.isInjected)) f = true →
            isMarked h.byCode before f = true) := by
  have hheld : h.held = Keyboard.families.filter (isMarked h.byCode []) := by
    rw [hnone]
    rfl
  have hposts := posts_eq_keyDowns hpresent hheld
  refine ⟨hposts reports, fun before family => isHeld_of_isMarked before, ?_, ?_⟩
  · rw [hposts, keyDowns_eq_iff]
    refine forall₃_congr fun before k after => forall₂_congr fun _ _ => forall₂_congr fun f _ => ?_
    have hmarked := @isHeld_of_isMarked h.byCode f before
    rw [List.nil_append, Bool.eq_iff_iff]
    exact ⟨fun h => h.mpr, fun h => ⟨hmarked, h⟩⟩
  · have hfilter : h.posts (reports.filter (!·.isInjected)) =
        keyDowns h.byCode (fun past => isMarked h.byCode (past.filter (!·.isInjected))) [] reports :=
      (hposts _).trans (keyDowns_filter h.byCode [] reports)
    rw [hfilter, hposts, keyDowns_eq_iff]
    refine forall₃_congr fun before k after => forall₂_congr fun _ _ => forall₂_congr fun f _ => ?_
    have hmarked := @isMarked_filter h.byCode f before
    rw [List.nil_append, Bool.eq_iff_iff]
    exact ⟨fun h => h.mp, fun h => ⟨h, hmarked⟩⟩

/-- The left and the right control key go down, the right one goes up, and then a key goes down. -/
def oneOfTwoUp : List KeyReport :=
  [.down { name := some "ctrl_l" } false, .down { name := some "ctrl_r" } false,
   .up { name := some "ctrl_r" } false, .down { name := some "f9" } false]

/-- The left control key goes down, a program makes it go up, and then a key goes down. -/
def injectedUp : List KeyReport :=
  [.down { name := some "ctrl_l" } false, .up { name := some "ctrl_l" } true, .down { name := some "f9" } false]

/-- A hook that is listened to. -/
def attached : KeyboardHook :=
  { isRunning := true, listener := .present }

/-- A family is lost when another of its keys goes up, and when a program makes a key of it go up. -/
theorem held_family_lost :
    (IsConsistent [] oneOfTwoUp ∧ attached.posts oneOfTwoUp = [⟨"f9", ""⟩] ∧
      keyDowns false (isHeld false) [] oneOfTwoUp = [⟨"f9", "ctrl"⟩]) ∧
    (IsConsistent [] injectedUp ∧ attached.posts injectedUp = [⟨"f9", ""⟩] ∧
      keyDowns false (isHeld false) [] injectedUp = [⟨"f9", "ctrl"⟩] ∧
      attached.posts (injectedUp.filter (!·.isInjected)) = [⟨"f9", "ctrl"⟩]) := by
  refine ⟨⟨?_, by decide +kernel, by decide +kernel⟩, ⟨?_, by decide +kernel, by decide +kernel, by decide +kernel⟩⟩
  · simp [IsConsistent, oneOfTwoUp, hold]
  · simp [IsConsistent, injectedUp, hold]

/-- Two modifiers go down, a key goes down, one of them goes up, and a key goes down, with injected keys between. -/
def twoFamilies : List KeyReport :=
  [.down { name := some "shift" } false, .down { name := some "ctrl_l" } false,
   .down { name := some "alt_l" } true, .down { name := some "f5" } false, .up { name := some "x" } true,
   .up { name := some "ctrl_l" } false, .down { char := some "!", code := some 49 } false]

theorem posts_held_twoFamilies :
    attached.listener = .present ∧ attached.held = [] ∧
      attached.posts twoFamilies = [⟨"f5", "ctrl+shift"⟩, ⟨"1", "shift"⟩] ∧
      attached.posts twoFamilies = keyDowns false (isHeld false) [] twoFamilies ∧
      attached.posts (twoFamilies.filter (!·.isInjected)) = attached.posts twoFamilies := by
  obtain ⟨hmarked, _, hheld, hinjected⟩ := posts_held_iff (h := attached) rfl rfl twoFamilies
  have hkeyDowns : keyDowns false (isMarked false) [] twoFamilies = [⟨"f5", "ctrl+shift"⟩, ⟨"1", "shift"⟩] := by
    decide +kernel
  -- what is before a report is one of the seven shorter beginnings
  have hbefore : ∀ {before r after}, twoFamilies = before ++ r :: after →
      before.length < 7 ∧ before = twoFamilies.take before.length := by
    intro before r after hsplit
    have hlength : twoFamilies.length = before.length + (after.length + 1) := by simp [hsplit]
    have hseven : twoFamilies.length = 7 := rfl
    exact ⟨by omega, by rw [hsplit, List.take_left]⟩
  refine ⟨rfl, rfl, hmarked.trans hkeyDowns, hheld.mpr ?_, hinjected.mpr ?_⟩ <;>
    intro before k after hsplit _ <;> obtain ⟨hlt, htake⟩ := hbefore hsplit <;> rw [htake]
  · exact (by decide +kernel : ∀ i < 7, ∀ f ∈ Keyboard.families,
      isHeld false (twoFamilies.take i) f = true → isMarked false (twoFamilies.take i) f = true) _ hlt
  · exact (by decide +kernel : ∀ i < 7, ∀ f ∈ Keyboard.families,
      isMarked false ((twoFamilies.take i).filter (!·.isInjected)) f = true →
        isMarked false (twoFamilies.take i) f = true) _ hlt

end KeyboardHook

end Deskhand
