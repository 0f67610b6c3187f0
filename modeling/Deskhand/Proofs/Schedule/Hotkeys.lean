import Deskhand.Proofs.Keyboard.Combination
import Deskhand.Proofs.Schedule.Messages

/-!
# From a hotkey to its runs

The scheduler looks a key and its modifiers up in its roster by their normal names, under which it has entered each
scenario by those of its leading block. While the generation of a load may run, the roster is that of the scenarios
that were loaded; so a hotkey starts one run of each of them that waits for the key with the same set of modifiers, in
their order, however either of the two texts is spelled. Main statements:

* `hotkey?_eq_some_iff_waitsForKey`: which scenarios wait for a combination;
* `EndsLoad.starts_on_hotkey`: what a hotkey starts in every history after a load.
-/

namespace Deskhand

/-! ## Who waits for a hotkey -/

/-- Whether the leading block of a scenario is a trigger with a key that is set and is the same key, and with modifiers
that denote the same set. -/
def Scenario.waitsForKey (s : Scenario) (key modifiers : String) : Bool :=
  s.lead?.any fun b =>
    b.kind == .hotkeyTrigger && (b.param? "Key").any (Keyboard.normalKey · == Keyboard.normalKey key) &&
      Keyboard.denoted (b.param "Modifiers" "") == Keyboard.denoted modifiers

/-- Combinations are the same iff their keys have one name and their modifiers denote one set. -/
theorem KeyCombination.ofTexts_eq_iff {key key' modifiers modifiers' : String} :
    ofTexts key modifiers = ofTexts key' modifiers' ↔
      Keyboard.normalKey key = Keyboard.normalKey key' ∧
        Keyboard.denoted modifiers = Keyboard.denoted modifiers' := by
  rw [ofTexts, ofTexts, KeyCombination.mk.injEq, Keyboard.normalModifiers_eq_iff]

/-- A place is that of a combination iff the leading block is a hotkey trigger with that combination. -/
theorem Place.ofBlocks_eq_hotkey_iff {name : String} {c : KeyCombination} {blocks : List Block} :
    ofBlocks name blocks = .hotkey c ↔
      ∃ b ∈ blocks.head?, b.kind = .hotkeyTrigger ∧ Trigger.combination? b = some c := by
  cases blocks with
  | nil => simp [ofBlocks]
  | cons b rest =>
    rcases b with ⟨kind, id, parameters⟩
    rw [ofBlocks, List.head?_cons]
    cases kind <;> simp only [Trigger.ofBlock?, Trigger.freshState?, Option.map_some, Option.map_none, ofTrigger]
    case hotkeyTrigger =>
      cases hc : Trigger.combination? ⟨.hotkeyTrigger, id, parameters⟩ <;> simp [hc]
    case chatCommandTrigger => split <;> simp
    all_goals simp

/-- A scenario waits for the combination of its leading block. -/
theorem Scenario.hotkey?_eq_some_iff_waitsForKey {s : Scenario} {key modifiers : String} :
    s.hotkey? = some (.ofTexts key modifiers) ↔ s.waitsForKey key modifiers = true := by
  rw [hotkey?_eq_some_iff, place?, waitsForKey, lead?]
  cases ((Chain.read {} s.blocks).map fun r => r.1.map Block.bare).toOption with
  | none => simp
  | some blocks =>
    rw [Option.map_some, Option.some.injEq, Place.ofBlocks_eq_hotkey_iff, Option.bind_some]
    cases blocks.head? with
    | none => simp
    | some b =>
      cases hkey : b.param? "Key" <;>
        simp [Trigger.combination?, hkey, KeyCombination.ofTexts_eq_iff, and_assoc]

namespace Scheduler

variable {s t : Scheduler} {e : Event} {n : Nat} {scenarios : List Scenario}

/-- While the generation of a load may run, the scenarios that wait for a combination are those which it read. -/
theorem roster_onHotkey_of_serves {g : Nat} (h : t.core.Serves g scenarios) (hg : t.generation = some g)
    (key modifiers : String) :
    t.roster.onHotkey (.ofTexts key modifiers) =
      (scenarios.filter (·.waitsForKey key modifiers)).map Scenario.id := by
  have hroster : t.roster = Roster.ofScenarios scenarios := h.roster hg
  rw [hroster, Roster.onHotkey, Roster.ofScenarios, Roster.find?_lists, Roster.idsFor]
  refine congrArg _ (List.filter_congr fun scenario _ => ?_)
  rw [Bool.eq_iff_iff, beq_iff_eq, Scenario.hotkey?_eq_some_iff_waitsForKey]

/-- In every history, once a load has ended without a fault and has read scenarios, and as long as its generation may
run: a hotkey starts one run of each of the scenarios that wait for its key with the same set of modifiers, in their
order, each with a number of its own and nothing in its context, and no other run; it tells how many. Texts of
modifiers have the same normal form exactly if they denote the same set, which spellings of each other do. -/
theorem EndsLoad.starts_on_hotkey (hs : Reachable s) (he : e.Fits) (hload : s.EndsLoad e n)
    (hlist : s.ask .list (s.store.list true) = .ok scenarios) (hst : Leads (s.after e) t)
    (hgeneration : t.generation = (s.after e).generation) :
    (∀ key modifiers, ∃ started, (t.onHotkey key modifiers).2.runs = t.runs ++ started ∧
      (t.onHotkey key modifiers).1 = started.length ∧
      started.map (·.scenario.timeless) =
        (scenarios.filter (·.waitsForKey key modifiers)).map Scenario.timeless ∧
      started.map Run.number = List.range' t.numbered started.length ∧ ∀ run ∈ started, IsFresh t run) ∧
    (∀ modifiers others, Keyboard.normalModifiers modifiers = Keyboard.normalModifiers others ↔
      Keyboard.denoted modifiers = Keyboard.denoted others) ∧
    ∀ modifiers others, Relation.EqvGen Keyboard.Respells modifiers others →
      Keyboard.denoted modifiers = Keyboard.denoted others := by
  refine ⟨fun key modifiers => ?_, fun _ _ => Keyboard.normalModifiers_eq_iff, fun _ _ hspelled => ?_⟩
  · obtain ⟨hnext, hserves⟩ := hload.serves hs hlist
    have hnodup := Store.nodup_list hs.sound.keyed (eq_of_ask hlist)
    have hserved : t.core.Serves (s.generations + 1) scenarios := hserves.leads (hs.after he).sound hst
    have hg : t.generation = some (s.generations + 1) := hgeneration.trans hnext
    obtain ⟨started, hruns, hscenarios, hrest⟩ :=
      startAll_of_serves hserved hg hnodup (·.waitsForKey key modifiers)
    have hids := roster_onHotkey_of_serves hserved hg key modifiers
    refine ⟨started, ?_, ?_, hscenarios, hrest⟩
    · rw [Scheduler.onHotkey, hids]
      exact hruns
    · have hlength := congrArg List.length hscenarios
      rw [List.length_map, List.length_map] at hlength
      rw [Scheduler.onHotkey, hids, List.length_map, hlength]
  · induction hspelled with
    | rel _ _ h => exact h.denoted_eq
    | refl => rfl
    | symm _ _ _ ih => exact ih.symm
    | trans _ _ _ _ _ ih ih' => exact ih.trans ih'

/-- A row with an active scenario that waits for a hotkey. -/
def pressedRow : Row :=
  { id := "a", name := "Pressed", active := .int 1
    blocks := "[\x7b\"Type\":\"HotkeyTrigger\",\"Id\":\"h\"," ++
      "\"Parameters\":\x7b\"Key\":\"Page_Up\",\"Modifiers\":\"Shift + ctrl_l\"\x7d\x7d]" }

/-- A scheduler that is about to load that scenario. -/
def pressable : Scheduler :=
  (ofRows [pressedRow] none).after .reload

/-- The hotkey starts the scenario however it is spelled. -/
theorem starts_on_hotkey_pressable :
    ∃ run, ((pressable.after (.alarm (.call 0))).onHotkey " pgup" "CTRL+shift+Ctrl_R").2.runs = [run] ∧
      run.scenario.id = "a" := by
  let scenario : Scenario := { id := "a", name := "Pressed", isActive := true, blocks := pressedRow.blocks }
  have hs : Reachable pressable := (isNew_ofRows (by decide) none).reachable.after (e := .reload) trivial
  -- what the load comes to is worked out once
  have hafter : (fun t : Scheduler =>
      (∀ call ∈ t.calls, call.number ≠ 0) ∧ 0 ∉ t.failed.map Prod.fst ∧ t.runs.length = 0)
      (pressable.after (.alarm (.call 0))) := by decide +kernel
  obtain ⟨hover, hfault, hruns⟩ := hafter
  have hload : pressable.EndsLoad (.alarm (.call 0)) 0 :=
    { isUnderWay := show ∃ call ∈ pressable.calls, call.number = 0 ∧ call.kind = .load by decide +kernel
      isOver := hover
      noFault := hfault }
  have hread : (pressable.ask .list (pressable.store.list true)).toOption = some [scenario] := by decide +kernel
  have hwaits : scenario.waitsForKey " pgup" "CTRL+shift+Ctrl_R" = true := by decide +kernel
  obtain ⟨hstarts, -⟩ :=
    hload.starts_on_hotkey hs (e := .alarm (.call 0)) trivial (eq_ok_of_toOption hread) (.refl _) rfl
  obtain ⟨started, hstarted, -, hscenarios, -⟩ := hstarts " pgup" "CTRL+shift+Ctrl_R"
  have hone : [scenario].filter (·.waitsForKey " pgup" "CTRL+shift+Ctrl_R") = [scenario] :=
    List.filter_eq_self.mpr fun s hs => List.mem_singleton.mp hs ▸ hwaits
  rw [hone, List.map_singleton] at hscenarios
  obtain ⟨run, rfl, hrun⟩ := List.map_eq_singleton_iff.mp hscenarios
  exact ⟨run, hstarted.trans (congrArg (· ++ [run]) (List.length_eq_zero_iff.mp hruns)), congrArg Scenario.id hrun⟩

end Scheduler

end Deskhand
