import Deskhand.Proofs.Trigger.Noted
import Mathlib.Data.List.Chain

/-!
# Changes that are recorded

A watch records a change that it is interested in (`IsOfInterest`) unless the change repeats the one recorded last. Only
changes that are recorded count for that: one that is dropped leaves the watch as it was. Main statements:

* `offered?_main_iff`: which reports on the directory a watch is interested in, and in which path;
* `lastEvent_afterAll`: what a watch compares a change with is the last one that was recorded;
* `isChain_recordings`: two recordings in a row are of different paths or apart;
* `records_iff`: which reports are recorded in every history.
-/

namespace Deskhand

namespace Watch

/-- The change that a watch records in a step, with its time: a check after the step fires, even if another one took
the flag away right before it. -/
def recorded? (b : Block) (w : Watch) : Step → Option (Float × String)
  | .hear role r now =>
    let heard := w.check.2.hear b role r now
    if heard.check.1 then heard.detected.map fun path => (now, path) else none
  | _ => none

/-- The changes that a watch records in a history, the earliest first. -/
def recordings (b : Block) : Watch → List Step → List (Float × String)
  | _, [] => []
  | w, step :: rest => (w.recorded? b step).toList ++ recordings b (w.after b step) rest

/-- A change of the same path less than the window after another one. -/
def Repeats (last change : Float × String) : Prop :=
  change.1 - last.1 < debounce ∧ Path.same last.2 change.2 = true

/-- A kind of change that a report on the directory is about and that the watch is interested in: the trigger wants all
kinds or this one, a directory was not merely touched, and a single file that is watched is the one that was changed
or what it was renamed to. -/
structure IsOfInterest (b : Block) (w : Watch) (r : ChangeReport) (kind : ChangeKind) : Prop where
  known : ChangeKind.ofReport? r.type = some kind
  wanted : Text.lower (b.param "Event" "All") ∈ ["all", Text.lower kind.name]
  notTouched : ¬(r.isDirectory = true ∧ kind = .changed)
  named : ∀ name, w.fileName = some name → ∃ path, path ≠ "" ∧ (path = r.source ∨ r.destination = some path) ∧
    Text.lower (Path.baseName path) = Text.lower name

/-- The path that a change is about: where a rename leads, if the report says so, and its source otherwise. -/
def subject (r : ChangeReport) (kind : ChangeKind) : String :=
  match r.destination with
  | some destination => if kind = .renamed ∧ destination ≠ "" then destination else r.source
  | none => r.source

variable {b : Block} {w : Watch} {role : ObserverRole} {r : ChangeReport} {now : Float}

/-! ## Reports on the directory -/

theorem accepts_iff {kind : ChangeKind} :
    accepts b kind = true ↔ Text.lower (b.param "Event" "All") ∈ ["all", Text.lower kind.name] := by
  simp [accepts, acceptsName]

/-- A single file that is watched is left out of a report iff no path of the report, unless it is empty, has its name,
whatever the letter case. -/
theorem isUnnamed_iff {fileName : Option String} :
    (fileName.any fun name =>
        !(((r.source :: (r.destination.filter (· != "")).toList).filter (· != "")).map
          fun path => Text.lower (Path.baseName path)).contains (Text.lower name)) = true ↔
      ¬∀ name, fileName = some name → ∃ path, path ≠ "" ∧ (path = r.source ∨ r.destination = some path) ∧
        Text.lower (Path.baseName path) = Text.lower name := by
  cases fileName with
  | none => simp
  | some name =>
    simp only [Option.any_some, Bool.not_eq_true', ← Bool.not_eq_true, List.contains_iff_mem, List.mem_map,
      List.mem_filter, List.mem_cons, Option.mem_toList, Option.filter_eq_some_iff, bne_iff_ne, Option.some.injEq,
      forall_eq']
    refine not_congr (exists_congr fun path => ?_)
    constructor
    · rintro ⟨⟨hpath, hne⟩, hname⟩
      exact ⟨hne, hpath.imp_right And.left, hname⟩
    · rintro ⟨hne, hpath, hname⟩
      exact ⟨⟨hpath.imp_right fun h => ⟨h, hne⟩, hne⟩, hname⟩

theorem subject_eq (r : ChangeReport) (kind : ChangeKind) :
    (if kind == .renamed then (r.destination.filter (· != "")).getD r.source else r.source) = subject r kind := by
  rw [subject]
  cases r.destination with
  | none => simp
  | some destination =>
    by_cases hkind : kind = .renamed <;> by_cases h : destination = "" <;> simp [hkind, h, Option.filter_some]

/-- A watch is interested in a report on its directory iff it is in the kind of change that the report is about, and
then in the path that the change is about. -/
theorem offered?_main_iff {path : String} :
    w.offered? b .main r = some path ↔ ∃ kind, IsOfInterest b w r kind ∧ subject r kind = path := by
  refine Option.bind_eq_some_iff.trans (exists_congr fun kind => ?_)
  have htouched : (!accepts b kind || (r.isDirectory && kind == .changed)) = true ↔
      ¬(Text.lower (b.param "Event" "All") ∈ ["all", Text.lower kind.name] ∧
        ¬(r.isDirectory = true ∧ kind = .changed)) := by
    rw [← accepts_iff]
    cases accepts b kind <;> simp
  dsimp only
  rw [Option.ite_none_left_eq_some, Option.ite_none_left_eq_some, htouched, isUnnamed_iff, Classical.not_not,
    Classical.not_not, ← apply_ite some, Option.some.injEq, subject_eq]
  constructor
  · rintro ⟨hknown, ⟨hwanted, htouched⟩, hnamed, rfl⟩
    exact ⟨⟨hknown, hwanted, htouched, hnamed⟩, rfl⟩
  · rintro ⟨⟨hknown, hwanted, htouched, hnamed⟩, rfl⟩
    exact ⟨hknown, ⟨hwanted, htouched⟩, hnamed, rfl⟩

/-! ## Recordings -/

/-- A step is recorded under the path that is noted when it is handled. -/
theorem recorded?_hear (b : Block) (w : Watch) (role : ObserverRole) (r : ChangeReport) (now : Float) :
    w.recorded? b (.hear role r now) = (w.noted? b role r now).map fun path => (now, path) := by
  have hraised : (w.check.2.followed role r).isRaised = false :=
    congrArg Prod.fst (noted_followed w.check.2 role r).1
  have hnoted : w.check.2.noted? b role r now = w.noted? b role r now := by cases role <;> rfl
  rw [recorded?, hear_eq, hnoted]
  cases w.noted? b role r now with
  | none =>
    rw [Option.elim_none, check, hraised]
    exact if_neg Bool.false_ne_true
  | some path => rfl

/-- What a watch compares changes with is another one once that is recorded. -/
theorem lastEvent_after (b : Block) (w : Watch) (step : Step) :
    (w.after b step).lastEvent = (w.recorded? b step).or w.lastEvent := by
  cases step with
  | start tree faults => exact (isAbreast_start b tree faults w).lastEvent_eq
  | stop faults => exact (isAbreast_teardown faults w).lastEvent_eq
  | hear role r now =>
    rw [recorded?_hear, after, hear_eq]
    cases w.noted? b role r now with
    | none => exact (noted_followed w role r).2
    | some path => rfl
  | work job tree faults => exact (isAbreast_runJob b tree faults (w.dequeue job) job).lastEvent_eq
  | check => rfl
  | takeDetected => rfl

/-- What a watch compares changes with is the last one that was recorded. -/
theorem lastEvent_afterAll (b : Block) (w : Watch) (steps : List Step) :
    (afterAll b w steps).lastEvent = (recordings b w steps).getLast?.or w.lastEvent := by
  induction steps generalizing w with
  | nil => rfl
  | cons step rest ih =>
    rw [afterAll, List.foldl_cons, ← afterAll, ih, lastEvent_after, recordings]
    cases w.recorded? b step with
    | none => rfl
    | some change =>
      rw [Option.toList_some, List.singleton_append, List.getLast?_cons]
      cases (recordings b (w.after b step) rest).getLast? <;> rfl

theorem isRepeat_iff {path : String} :
    w.isRepeat path now = true ↔ ∃ last, w.lastEvent = some last ∧ Repeats last (now, path) := by
  simp [isRepeat, Option.any_eq_true, Repeats]

/-- What is recorded does not repeat what was recorded last. -/
theorem not_repeats_of_recorded? {step : Step} {last change : Float × String} (hlast : w.lastEvent = some last)
    (h : w.recorded? b step = some change) : ¬Repeats last change := by
  cases step with
  | hear role r now =>
    rw [recorded?_hear] at h
    obtain ⟨path, hpath, rfl⟩ := Option.map_eq_some_iff.mp h
    have hnew : ¬w.isRepeat path now = true := by simpa using (Option.filter_eq_some_iff.mp hpath).2
    exact fun hrepeats => hnew (isRepeat_iff.mpr ⟨last, hlast, hrepeats⟩)
  | _ => cases h

/-- No recording repeats the one before it, the first one not what was recorded last before the history. -/
theorem isChain_recordings (b : Block) (w : Watch) (steps : List Step) :
    (w.lastEvent.toList ++ recordings b w steps).IsChain fun last change => ¬Repeats last change := by
  induction steps generalizing w with
  | nil => cases h : w.lastEvent <;> simp [recordings]
  | cons step rest ih =>
    have hrest := ih (w.after b step)
    rw [lastEvent_after] at hrest
    rw [recordings]
    cases hstep : w.recorded? b step with
    | none => rwa [hstep] at hrest
    | some change =>
      rw [hstep, Option.some_or] at hrest
      cases hlast : w.lastEvent with
      | none => exact hrest
      | some last => exact .cons_cons (not_repeats_of_recorded? hlast hstep) hrest

/-- In every history of a watch, a report on its directory is recorded iff the watch is interested in it and it does not
repeat the change recorded last; a change of another path than that one is therefore recorded whenever the watch is
interested in it. A report that is not recorded leaves the watch as it was. No recording repeats the one before it. -/
theorem records_iff (b : Block) (before : List Step) (r : ChangeReport) (now : Float) :
    let w := afterAll b {} before
    let earlier := recordings b {} before
    (∀ change, w.recorded? b (.hear .main r now) = some change ↔
      ∃ kind, IsOfInterest b w r kind ∧ (now, subject r kind) = change ∧
        ∀ last, earlier.getLast? = some last → ¬Repeats last change) ∧
    (∀ kind, IsOfInterest b w r kind →
      (∀ last, earlier.getLast? = some last → Path.same last.2 (subject r kind) = false) →
        w.recorded? b (.hear .main r now) = some (now, subject r kind)) ∧
    (w.recorded? b (.hear .main r now) = none → w.after b (.hear .main r now) = w) ∧
    earlier.IsChain fun last change => ¬Repeats last change := by
  intro w earlier
  have hlast : w.lastEvent = earlier.getLast? := by
    rw [lastEvent_afterAll]
    exact Option.or_none
  have hiff : ∀ change, w.recorded? b (.hear .main r now) = some change ↔
      ∃ kind, IsOfInterest b w r kind ∧ (now, subject r kind) = change ∧
        ∀ last, earlier.getLast? = some last → ¬Repeats last change := by
    intro change
    have hnew : ∀ path, (!w.isRepeat path now) = true ↔
        ∀ last, earlier.getLast? = some last → ¬Repeats last (now, path) := by
      intro path
      rw [Bool.not_eq_true', ← Bool.not_eq_true, isRepeat_iff, hlast, not_exists]
      simp only [not_and]
    rw [recorded?_hear, noted?, Option.map_eq_some_iff]
    simp only [Option.filter_eq_some_iff, offered?_main_iff, hnew]
    constructor
    · rintro ⟨_, ⟨⟨kind, hkind, rfl⟩, hrepeats⟩, rfl⟩
      exact ⟨kind, hkind, rfl, hrepeats⟩
    · rintro ⟨kind, hkind, rfl, hrepeats⟩
      exact ⟨_, ⟨⟨kind, hkind, rfl⟩, hrepeats⟩, rfl⟩
  refine ⟨hiff, fun kind hkind hother => ?_, fun hdropped => ?_, ?_⟩
  · refine (hiff _).mpr ⟨kind, hkind, rfl, fun last hearlier hrepeats => ?_⟩
    exact Bool.false_ne_true ((hother last hearlier).symm.trans hrepeats.2)
  · rw [recorded?_hear, Option.map_eq_none_iff] at hdropped
    rw [after, hear_eq, hdropped]
    rfl
  · exact isChain_recordings b {} before

/-- A change of the same path in other letters is dropped, and the next one counts from the one before it; a change of
another path is recorded at once. -/
example :
    let b : Block := ⟨.fileChangeTrigger, "w", [("Path", "/w/in")]⟩
    let change : String → String → Float → Step := fun type source now => .hear .main { type, source } now
    recordings b {} [change "created" "/w/in/a" 1.0, change "modified" "/w/in/x/../A" 1.2,
      change "modified" "/w/in/a" 1.3, change "deleted" "/w/in/b" 1.35] =
      [(1.0, "/w/in/a"), (1.3, "/w/in/a"), (1.35, "/w/in/b")] := by
  decide +kernel

end Watch

end Deskhand
