import Deskhand.Proofs.Schedule.TakingIn
import Mathlib.Data.List.Induction
import Mathlib.Data.List.Nodup

/-!
# The roster of a list of scenarios

Entering scenarios one after the other puts the same into a roster as a look at all of them at once
(`Roster.ofScenarios`): under each key the ids of the scenarios that wait for it, in their order, and in the menu
each command once, as its first scenario describes it. Main statements:

* `enterAll_eq`: the roster after entering scenarios with distinct ids;
* `find?_lists`: who waits for a hotkey or for a command;
* `firstFor_of_mem_menuOf`: who describes a command;
* `ofScenarios_timeless`, `ofScenarios_taken`: what the roster does not depend on.
-/

namespace Deskhand

/-- A trigger that waits for a command has one, and says what it does. -/
theorem Place.ofTrigger_eq_command {name wanted description : String} {t : Trigger}
    (h : Place.ofTrigger name t = .command wanted description) :
    Trigger.command t.block = wanted ∧ wanted ≠ "" ∧
      description = Chat.menuDescription (t.block.param "Description" name) := by
  rw [ofTrigger] at h
  split at h
  · split at h <;> cases h
  · dsimp only at h
    split at h
    · cases h
    · next hname =>
      obtain ⟨rfl, rfl⟩ := Place.command.inj h
      exact ⟨rfl, by simpa using hname, rfl⟩
  · cases h

namespace Scenario

/-- The block that leads a scenario, without its id. -/
def lead? (s : Scenario) : Option Block :=
  (((Chain.read {} s.blocks).map (·.1.map Block.bare)).toOption).bind List.head?

/-- The hotkey that a scenario waits for. -/
def hotkey? (s : Scenario) : Option KeyCombination :=
  match s.place? with
  | some (.hotkey c) => some c
  | _ => none

/-- The command that a scenario waits for, as it describes it. -/
def menuLine? (s : Scenario) : Option (String × String) :=
  match s.place? with
  | some (.command name description) => some (name, description)
  | _ => none

/-- The command that a scenario waits for. -/
def command? (s : Scenario) : Option String :=
  s.menuLine?.map Prod.fst

/-- Whether the chain of a scenario is taken, so that the scenario has a place. -/
def isTaken (s : Scenario) : Bool :=
  s.place?.isSome

@[simp] theorem timeless_id (s : Scenario) : s.timeless.id = s.id := rfl

@[simp] theorem hotkey?_timeless (s : Scenario) : s.timeless.hotkey? = s.hotkey? := rfl

@[simp] theorem menuLine?_timeless (s : Scenario) : s.timeless.menuLine? = s.menuLine? := rfl

@[simp] theorem command?_timeless (s : Scenario) : s.timeless.command? = s.command? := rfl

@[simp] theorem isPolled_timeless (s : Scenario) : s.timeless.isPolled = s.isPolled := rfl

@[simp] theorem isTaken_timeless (s : Scenario) : s.timeless.isTaken = s.isTaken := rfl

theorem hotkey?_eq_some_iff {s : Scenario} {c : KeyCombination} :
    s.hotkey? = some c ↔ s.place? = some (.hotkey c) := by
  rw [hotkey?]
  split <;> simp_all

theorem menuLine?_eq_some_iff {s : Scenario} {name description : String} :
    s.menuLine? = some (name, description) ↔ s.place? = some (.command name description) := by
  rw [menuLine?]
  split <;> simp_all

theorem isPolled_iff {s : Scenario} : s.isPolled = true ↔ ∃ t, s.place? = some (.loop t) := by
  rw [isPolled]
  split <;> simp_all

/-- A scenario that waits for anything has a place. -/
theorem isTaken_of_waits {s : Scenario} (h : s.hotkey?.isSome ∨ s.menuLine?.isSome ∨ s.isPolled = true) :
    s.isTaken = true := by
  cases hp : s.place? <;> simp_all [isTaken, hotkey?, menuLine?, isPolled]

theorem command?_eq_some_iff {s : Scenario} {name : String} :
    s.command? = some name ↔ ∃ description, s.menuLine? = some (name, description) := by
  simp [command?]

/-- A command is described by the leading block, or else by the name of the scenario. -/
theorem menuLine?_spec {s : Scenario} {name description : String}
    (h : s.menuLine? = some (name, description)) :
    ∃ b, s.lead? = some b ∧ Trigger.command b = name ∧ name ≠ "" ∧
      description = Chat.menuDescription (b.param "Description" s.name) := by
  have hp := menuLine?_eq_some_iff.mp h
  simp only [place?, Option.map_eq_some_iff] at hp
  obtain ⟨blocks, hread, hplace⟩ := hp
  cases blocks with
  | nil => cases hplace
  | cons b rest =>
    simp only [Place.ofBlocks] at hplace
    cases ht : Trigger.ofBlock? b with
    | none => simp [ht] at hplace
    | some t =>
      have hb : t.block = b := by
        obtain ⟨state, -, rfl⟩ := Option.map_eq_some_iff.mp ht
        rfl
      rw [ht] at hplace
      exact ⟨b, by simp [lead?, hread], hb ▸ Place.ofTrigger_eq_command hplace⟩

end Scenario

namespace Chat

theorem length_take_le (n : Nat) (s : String) : (Text.take n s).length ≤ n := by
  rw [Text.take, String.length_ofList]
  exact List.length_take_le n s.toList

/-- A description is never longer than a menu takes. -/
theorem length_menuDescription (description : String) :
    (menuDescription description).length ≤ descriptionLimit := by
  rw [menuDescription]
  split
  · have htake := length_take_le (descriptionLimit - 3) description
    have hdots : "...".length = 3 := rfl
    rw [String.length_append, hdots]
    simp only [descriptionLimit] at htake ⊢
    omega
  · omega

/-- A description that was cut is not cut again. -/
@[simp] theorem menuDescription_menuDescription (description : String) :
    menuDescription (menuDescription description) = menuDescription description := by
  have hlen := length_menuDescription description
  rw [menuDescription.eq_1 (menuDescription description), if_neg (by omega)]

end Chat

/-! ## Keys in their order -/

namespace Entries

variable {κ ν : Type} [DecidableEq κ]

theorem find?_map_pair (f : κ → ν) (keys : List κ) (key : κ) :
    find? (keys.map fun k => (k, f k)) key = if key ∈ keys then some (f key) else none := by
  induction keys with
  | nil => rfl
  | cons k rest ih =>
    simp only [List.map_cons, find?, ih, List.mem_cons]
    by_cases hk : k = key
    · simp [hk]
    · simp [hk, Ne.symm hk]

/-- Putting a value under one of distinct keys. -/
theorem put_map_pair (f : κ → ν) {keys : List κ} (hkeys : keys.Nodup) (key : κ) (value : ν) :
    put (keys.map fun k => (k, f k)) key value =
      if key ∈ keys then keys.map fun k => (k, if k = key then value else f k)
      else (keys.map fun k => (k, f k)) ++ [(key, value)] := by
  induction keys with
  | nil => rfl
  | cons k rest ih =>
    obtain ⟨hk, hrest⟩ := List.nodup_cons.mp hkeys
    by_cases hkey : k = key
    · -- the key is not among the others, whose values stay
      subst hkey
      have hsame : rest.map (fun k' => (k', f k')) =
          rest.map fun k' => (k', if k' = k then value else f k') :=
        List.map_congr_left fun k' hk' => by
          rw [if_neg fun heq : k' = k => hk (heq ▸ hk')]
      simp [put, hsame]
    · simp only [List.map_cons, put, if_neg hkey, ih hrest, List.mem_cons, Ne.symm hkey, false_or]
      split <;> rfl

end Entries

theorem eraseDups_snoc {α : Type} [DecidableEq α] (as : List α) (a : α) :
    (as ++ [a]).eraseDups = if a ∈ as then as.eraseDups else as.eraseDups ++ [a] := by
  rw [List.eraseDups_append]
  by_cases ha : a ∈ as
  · simp [ha, List.removeAll]
  · simp [ha, List.removeAll, List.eraseDups_cons]

theorem nodup_eraseDups {α : Type} [DecidableEq α] (as : List α) : as.eraseDups.Nodup := by
  induction as using List.reverseRecOn with
  | nil => exact List.nodup_nil
  | append_singleton as a ih =>
    rw [eraseDups_snoc]
    split
    · exact ih
    · next ha =>
      refine List.nodup_append'.mpr ⟨ih, List.nodup_singleton a, ?_⟩
      rw [List.disjoint_singleton, List.mem_eraseDups]
      exact ha

namespace Roster

section Lists

variable {κ : Type} [DecidableEq κ] (key? : Scenario → Option κ)

/-- The keys that scenarios wait for, each once, in the order in which they come. -/
def keysOf (scenarios : List Scenario) : List κ :=
  (scenarios.filterMap key?).eraseDups

/-- The ids of the scenarios that wait for a key, in their order. -/
def idsFor (scenarios : List Scenario) (key : κ) : List String :=
  (scenarios.filter fun s => key? s == some key).map Scenario.id

/-- The ids of scenarios under the keys that they wait for. -/
def lists (scenarios : List Scenario) : Entries κ (List String) :=
  (keysOf key? scenarios).map fun key => (key, idsFor key? scenarios key)

variable {key?}

theorem mem_keysOf {scenarios : List Scenario} {key : κ} :
    key ∈ keysOf key? scenarios ↔ ∃ s ∈ scenarios, key? s = some key := by
  rw [keysOf, List.mem_eraseDups, List.mem_filterMap]

theorem nodup_keysOf (scenarios : List Scenario) : (keysOf key? scenarios).Nodup :=
  nodup_eraseDups _

theorem mem_idsFor {scenarios : List Scenario} {key : κ} {id : String} :
    id ∈ idsFor key? scenarios key ↔ ∃ s ∈ scenarios, key? s = some key ∧ s.id = id := by
  simp [idsFor, and_assoc]

theorem idsFor_eq_nil {scenarios : List Scenario} {key : κ} (h : key ∉ keysOf key? scenarios) :
    idsFor key? scenarios key = [] := by
  refine List.eq_nil_iff_forall_not_mem.mpr fun id hid => ?_
  obtain ⟨s, hs, hkey, -⟩ := mem_idsFor.mp hid
  exact h (mem_keysOf.mpr ⟨s, hs, hkey⟩)

theorem keys_lists (scenarios : List Scenario) : (lists key? scenarios).keys = keysOf key? scenarios := by
  simp [lists, Entries.keys, Function.comp_def]

/-- What is found under a key is the list of those who wait for it. -/
theorem find?_lists (scenarios : List Scenario) (key : κ) :
    ((lists key? scenarios).find? key).getD [] = idsFor key? scenarios key := by
  rw [lists, Entries.find?_map_pair]
  split
  · rfl
  · next hkey => rw [idsFor_eq_nil hkey, Option.getD_none]

theorem keysOf_snoc (scenarios : List Scenario) (s : Scenario) :
    keysOf key? (scenarios ++ [s]) =
      match key? s with
      | some key => if key ∈ keysOf key? scenarios then keysOf key? scenarios
          else keysOf key? scenarios ++ [key]
      | none => keysOf key? scenarios := by
  rw [keysOf, List.filterMap_append]
  cases hkey : key? s with
  | none => simp [hkey, keysOf]
  | some key => simp [hkey, eraseDups_snoc, keysOf]

theorem idsFor_snoc (scenarios : List Scenario) (s : Scenario) (key : κ) :
    idsFor key? (scenarios ++ [s]) key =
      if key? s = some key then idsFor key? scenarios key ++ [s.id] else idsFor key? scenarios key := by
  rw [idsFor, List.filter_append, List.map_append]
  split
  · next hkey => simp [hkey, idsFor]
  · next hkey => simp [hkey, idsFor]

/-- One more scenario that waits for a key is entered under it. -/
theorem enter_lists {scenarios : List Scenario} {s : Scenario} {key : κ} (hkey : key? s = some key)
    (hnew : s.id ∉ scenarios.map Scenario.id) :
    enter (lists key? scenarios) key s.id = lists key? (scenarios ++ [s]) := by
  have honce : addOnce s.id (idsFor key? scenarios key) = idsFor key? scenarios key ++ [s.id] := by
    have hout : s.id ∉ idsFor key? scenarios key :=
      fun hmem => hnew ((List.filter_sublist.map _).subset hmem)
    simp [addOnce, hout]
  have hother : ∀ k, idsFor key? (scenarios ++ [s]) k =
      if k = key then idsFor key? scenarios key ++ [s.id] else idsFor key? scenarios k := by
    intro k
    rw [idsFor_snoc, hkey]
    by_cases hk : k = key
    · simp [hk]
    · simp [hk, Ne.symm hk]
  rw [enter, find?_lists, honce, lists, Entries.put_map_pair _ (nodup_keysOf scenarios), lists, keysOf_snoc, hkey]
  simp only [hother]
  split
  · rfl
  · next hout =>
    rw [List.map_append, List.map_cons, List.map_nil, if_pos rfl, idsFor_eq_nil hout]
    congr 1
    refine List.map_congr_left fun k hk => ?_
    rw [if_neg fun heq : k = key => hout (heq ▸ hk)]

theorem lists_snoc_of_none {scenarios : List Scenario} {s : Scenario} (hkey : key? s = none) :
    lists key? (scenarios ++ [s]) = lists key? scenarios := by
  simp [lists, keysOf_snoc, idsFor_snoc, hkey]

end Lists

/-! ## The menu -/

/-- The first scenario that waits for a command. -/
def firstFor (scenarios : List Scenario) (name : String) : Option Scenario :=
  scenarios.find? fun s => s.command? == some name

/-- What the first scenario that waits for a command says about it. -/
def describe (scenarios : List Scenario) (name : String) : String :=
  (((firstFor scenarios name).bind Scenario.menuLine?).map Prod.snd).getD ""

/-- The menu of scenarios. -/
def menuOf (scenarios : List Scenario) : ChatMenu :=
  (keysOf Scenario.command? scenarios).map fun name => (name, describe scenarios name)

theorem isSome_firstFor {scenarios : List Scenario} {name : String}
    (h : name ∈ keysOf Scenario.command? scenarios) : (firstFor scenarios name).isSome := by
  obtain ⟨s, hs, hname⟩ := mem_keysOf.mp h
  rw [firstFor, List.find?_isSome]
  exact ⟨s, hs, beq_iff_eq.mpr hname⟩

theorem keys_menuOf (scenarios : List Scenario) :
    (menuOf scenarios).map Prod.fst = keysOf Scenario.command? scenarios := by
  simp [menuOf, Function.comp_def]

/-- A line of the menu is that of the first scenario that waits for its command. -/
theorem firstFor_of_mem_menuOf {scenarios : List Scenario} {line : String × String}
    (h : line ∈ menuOf scenarios) : ∃ s, firstFor scenarios line.1 = some s ∧ s.menuLine? = some line := by
  obtain ⟨name, hname, rfl⟩ := List.mem_map.mp h
  obtain ⟨s, hs⟩ := Option.isSome_iff_exists.mp (isSome_firstFor hname)
  obtain ⟨description, hline⟩ := Scenario.command?_eq_some_iff.mp (by simpa using List.find?_some hs)
  refine ⟨s, hs, ?_⟩
  rw [describe, hs, Option.bind_some, hline, Option.map_some, Option.getD_some]

theorem describe_snoc (scenarios : List Scenario) (s : Scenario) {name : String}
    (h : name ∈ keysOf Scenario.command? scenarios) :
    describe (scenarios ++ [s]) name = describe scenarios name := by
  have hfirst : firstFor (scenarios ++ [s]) name = firstFor scenarios name := by
    rw [firstFor, List.find?_append]
    exact Option.or_of_isSome (isSome_firstFor h)
  rw [describe, hfirst, describe]

/-- A command that is new is described by the scenario that brings it. -/
theorem describe_snoc_of_new {scenarios : List Scenario} {s : Scenario} {name description : String}
    (h : name ∉ keysOf Scenario.command? scenarios) (hline : s.menuLine? = some (name, description)) :
    describe (scenarios ++ [s]) name = description := by
  have hnone : firstFor scenarios name = none := by
    rw [firstFor, List.find?_eq_none]
    intro s' hs' hname
    exact h (mem_keysOf.mpr ⟨s', hs', beq_iff_eq.mp hname⟩)
  have hfirst : firstFor (scenarios ++ [s]) name = some s := by
    have hthis : [s].find? (fun s => s.command? == some name) = some s := by
      simp [Scenario.command?, hline]
    rw [firstFor, List.find?_append, ← firstFor, hnone, Option.none_or, hthis]
  rw [describe, hfirst, Option.bind_some, hline, Option.map_some, Option.getD_some]

theorem menuOf_snoc_of_none {scenarios : List Scenario} {s : Scenario} (h : s.command? = none) :
    menuOf (scenarios ++ [s]) = menuOf scenarios := by
  simp only [menuOf, keysOf_snoc, h]
  exact List.map_congr_left fun name hname => by rw [describe_snoc scenarios s hname]

/-- One more scenario that waits for a command adds a line if the command is new. -/
theorem menuOf_snoc {scenarios : List Scenario} {s : Scenario} {name description : String}
    (hline : s.menuLine? = some (name, description)) :
    menuOf (scenarios ++ [s]) =
      if (menuOf scenarios).any (·.1 == name) then menuOf scenarios
      else menuOf scenarios ++ [(name, description)] := by
  have hkey : s.command? = some name := Scenario.command?_eq_some_iff.mpr ⟨description, hline⟩
  have hany : (menuOf scenarios).any (·.1 == name) = true ↔ name ∈ keysOf Scenario.command? scenarios := by
    rw [← keys_menuOf]
    simp
  have hold : (keysOf Scenario.command? scenarios).map (fun k => (k, describe (scenarios ++ [s]) k)) =
      menuOf scenarios :=
    List.map_congr_left fun k hk => by rw [describe_snoc scenarios s hk]
  rw [menuOf, keysOf_snoc, hkey]
  by_cases hname : name ∈ keysOf Scenario.command? scenarios
  · simp only [if_pos hname, if_pos (hany.mpr hname), hold]
  · rw [if_neg (mt hany.mp hname)]
    simp only [if_neg hname, List.map_append, hold, List.map_cons, List.map_nil,
      describe_snoc_of_new hname hline]

/-! ## The roster -/

/-- The roster of scenarios. -/
def ofScenarios (scenarios : List Scenario) : Roster :=
  { hotkeys := lists Scenario.hotkey? scenarios, commands := lists Scenario.command? scenarios
    menu := menuOf scenarios }

/-- One more scenario is entered at its place. -/
theorem enterScenario_ofScenarios {scenarios : List Scenario} {s : Scenario}
    (hnew : s.id ∉ scenarios.map Scenario.id) :
    (ofScenarios scenarios).enterScenario s = ofScenarios (scenarios ++ [s]) := by
  have hnone : s.hotkey? = none → s.menuLine? = none →
      ofScenarios (scenarios ++ [s]) = ofScenarios scenarios := by
    intro hkey hline
    have hcommand : s.command? = none := by rw [Scenario.command?, hline, Option.map_none]
    simp only [ofScenarios, lists_snoc_of_none hkey, lists_snoc_of_none hcommand, menuOf_snoc_of_none hcommand]
  rw [enterScenario]
  cases hp : s.place? with
  | none => exact (hnone (by simp [Scenario.hotkey?, hp]) (by simp [Scenario.menuLine?, hp])).symm
  | some p =>
    cases p with
    | hotkey c =>
      have hkey : s.hotkey? = some c := by simp [Scenario.hotkey?, hp]
      have hcommand : s.command? = none := by simp [Scenario.command?, Scenario.menuLine?, hp]
      simp only [add, ofScenarios, enter_lists hkey hnew, lists_snoc_of_none hcommand,
        menuOf_snoc_of_none hcommand]
    | command name description =>
      have hkey : s.hotkey? = none := by simp [Scenario.hotkey?, hp]
      have hline : s.menuLine? = some (name, description) := by simp [Scenario.menuLine?, hp]
      have hcommand : s.command? = some name := Scenario.command?_eq_some_iff.mpr ⟨_, hline⟩
      simp only [add, ofScenarios, lists_snoc_of_none hkey, enter_lists hcommand hnew, menuOf_snoc hline]
      rfl
    | loop t => exact (hnone (by simp [Scenario.hotkey?, hp]) (by simp [Scenario.menuLine?, hp])).symm
    | idle why => exact (hnone (by simp [Scenario.hotkey?, hp]) (by simp [Scenario.menuLine?, hp])).symm

/-- The roster after entering scenarios with distinct ids. -/
theorem enterAll_eq {scenarios : List Scenario} (h : (scenarios.map Scenario.id).Nodup) :
    enterAll {} scenarios = ofScenarios scenarios := by
  induction scenarios using List.reverseRecOn with
  | nil => rfl
  | append_singleton scenarios s ih =>
    rw [List.map_append, List.map_cons, List.map_nil] at h
    obtain ⟨hbefore, -, hdisjoint⟩ := List.nodup_append'.mp h
    have hsnoc : enterAll {} (scenarios ++ [s]) = (enterAll {} scenarios).enterScenario s :=
      List.foldl_append
    rw [hsnoc, ih hbefore]
    exact enterScenario_ofScenarios (List.disjoint_singleton.mp hdisjoint)

/-! ## What the roster does not depend on -/

section Lists

variable {κ : Type} [DecidableEq κ] {key? : Scenario → Option κ}

theorem lists_map {f : Scenario → Scenario} (hid : ∀ s, (f s).id = s.id) (hkey : ∀ s, key? (f s) = key? s)
    (scenarios : List Scenario) : lists key? (scenarios.map f) = lists key? scenarios := by
  have hids : ∀ key, idsFor key? (scenarios.map f) key = idsFor key? scenarios key := by
    intro key
    simp [idsFor, List.filter_map, Function.comp_def, hid, hkey]
  have hkeys : keysOf key? (scenarios.map f) = keysOf key? scenarios := by
    simp [keysOf, List.filterMap_map, hkey]
  simp only [lists, hids, hkeys]

theorem lists_filter {p : Scenario → Bool} (hkey : ∀ s, (key? s).isSome → p s = true)
    (scenarios : List Scenario) : lists key? (scenarios.filter p) = lists key? scenarios := by
  have hids : ∀ key, idsFor key? (scenarios.filter p) key = idsFor key? scenarios key := by
    intro key
    rw [idsFor, List.filter_filter, idsFor]
    congr 1
    refine List.filter_congr fun s _ => ?_
    by_cases hs : key? s = some key
    · simp [hs, hkey s (by simp [hs])]
    · simp [hs]
  have hkeys : keysOf key? (scenarios.filter p) = keysOf key? scenarios := by
    rw [keysOf, List.filterMap_filter, keysOf]
    congr 1
    refine List.filterMap_congr fun s _ => ?_
    split
    · rfl
    · next hs => exact (Option.not_isSome_iff_eq_none.mp (mt (hkey s) hs)).symm
  simp only [lists, hids, hkeys]

end Lists

theorem menuOf_map {f : Scenario → Scenario} (hline : ∀ s, (f s).menuLine? = s.menuLine?)
    (scenarios : List Scenario) : menuOf (scenarios.map f) = menuOf scenarios := by
  have hcommand : ∀ s, (f s).command? = s.command? := fun s => by
    rw [Scenario.command?, hline, Scenario.command?]
  have hkeys : keysOf Scenario.command? (scenarios.map f) = keysOf Scenario.command? scenarios := by
    simp [keysOf, List.filterMap_map, hcommand]
  have hdescribe : ∀ name, describe (scenarios.map f) name = describe scenarios name := by
    intro name
    simp only [describe, firstFor, List.find?_map, Function.comp_def, hcommand]
    cases scenarios.find? fun s => s.command? == some name with
    | none => rfl
    | some s => simp [hline]
  simp only [menuOf, hkeys, hdescribe]

theorem menuOf_filter {p : Scenario → Bool} (hline : ∀ s, s.menuLine?.isSome → p s = true)
    (scenarios : List Scenario) : menuOf (scenarios.filter p) = menuOf scenarios := by
  have hcommand : ∀ s, s.command?.isSome → p s = true := fun s hs =>
    hline s (by simpa [Scenario.command?] using hs)
  have hlists : lists Scenario.command? (scenarios.filter p) = lists Scenario.command? scenarios :=
    lists_filter hcommand scenarios
  have hkeys := congrArg Entries.keys hlists
  rw [keys_lists, keys_lists] at hkeys
  have hdescribe : ∀ name, describe (scenarios.filter p) name = describe scenarios name := by
    intro name
    have hwaits : (fun s => decide (p s = true ∧ (s.command? == some name) = true)) =
        fun s : Scenario => s.command? == some name := by
      funext s
      by_cases hs : s.command? = some name
      · simp [hs, hcommand s (by simp [hs])]
      · simp [hs]
    rw [describe, firstFor, List.find?_filter, hwaits, describe, firstFor]
  simp only [menuOf, hkeys, hdescribe]

/-- The roster does not depend on when scenarios ran last. -/
theorem ofScenarios_timeless (scenarios : List Scenario) :
    ofScenarios (scenarios.map Scenario.timeless) = ofScenarios scenarios := by
  have hid := Scenario.timeless_id
  simp only [ofScenarios, lists_map hid Scenario.hotkey?_timeless, lists_map hid Scenario.command?_timeless,
    menuOf_map Scenario.menuLine?_timeless]

/-- Scenarios without a place leave the roster as if they were not there. -/
theorem ofScenarios_taken (scenarios : List Scenario) :
    ofScenarios (scenarios.filter Scenario.isTaken) = ofScenarios scenarios := by
  have hkey : ∀ s : Scenario, s.hotkey?.isSome → s.isTaken = true := fun _ hs =>
    Scenario.isTaken_of_waits (.inl hs)
  have hline : ∀ s : Scenario, s.menuLine?.isSome → s.isTaken = true := fun _ hs =>
    Scenario.isTaken_of_waits (.inr (.inl hs))
  have hcommand : ∀ s : Scenario, s.command?.isSome → s.isTaken = true := fun s hs =>
    hline s (by simpa [Scenario.command?] using hs)
  simp only [ofScenarios, lists_filter hkey, lists_filter hcommand, menuOf_filter hline]

end Roster

/-- Which scenarios are polled does not depend on when they ran last, nor on scenarios without a place. -/
theorem Scenario.polled_taken (scenarios : List Scenario) :
    (((scenarios.filter isTaken).map timeless).filter isPolled).map id =
      (scenarios.filter isPolled).map id := by
  have htaken : ∀ s : Scenario, (s.isPolled && s.isTaken) = s.isPolled := by
    intro s
    by_cases hs : s.isPolled = true
    · simp [hs, isTaken_of_waits (.inr (.inr hs))]
    · simp [hs]
  simp only [List.filter_map, List.map_map, List.filter_filter, Function.comp_def, isPolled_timeless, htaken,
    timeless_id]

end Deskhand
