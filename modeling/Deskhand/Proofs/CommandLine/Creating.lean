import Deskhand.CommandLine.Perform
import Deskhand.Proofs.Block.Ids
import Deskhand.Proofs.CommandLine.Errands
import Deskhand.Proofs.Store.Refinement

/-!
# Scenarios that are made

A scenario is made from a file whose text reads as a chain of the right shape. What is kept is that chain, which is
read back as it is, with the ids that its elements gave and drawn ones for the others. Nothing looks at the ids: the
blocks of a chain that was kept are told apart iff the ids of the file are apart. Main statements:

* `createScenario_cases`: what making a scenario does;
* `createScenario_toldApart_iff`: when the blocks of a scenario that was made are told apart.
-/

namespace Deskhand.Errand

open Store (newRow)

variable (name file : String) (isActive : Bool) (c : Console)

theorem readBlocks_apply (text : String) :
    readBlocks text c =
      match Chain.read c.engine.around.ids text with
      | .ok (blocks, ids) =>
        .ok blocks { c with engine := { c.engine with around := { c.engine.around with ids := ids } } }
      | .error refusal => .error (.notInteger refusal) c := by
  rw [readBlocks, get_bind]
  cases hread : Chain.read c.engine.around.ids text with
  | error refusal => rfl
  | ok found => rfl

/-- A store refuses a scenario, or adds a row for it. -/
theorem create_cases (s : Store) (now : Instant) (ids : IdSupply) (blocks : String) :
    (∃ refusal ids', s.create now ids { name := .text name, active := .bool isActive, blocks := .text blocks } =
        (.ok (.error refusal), s, ids')) ∨
      s.create now ids { name := .text name, active := .bool isActive, blocks := .text blocks } =
        let r := newRow now name (ids.orDraw none).1 isActive blocks (some Scenario.defaultColor)
        (r.scenario.map .ok, { s with rows := s.rows ++ [r] }, (ids.orDraw none).2) := by
  have hcreate := Store.create_texts s now ids name none isActive blocks (some Scenario.defaultColor)
  split at hcreate
  · exact .inl ⟨_, _, hcreate⟩
  · split at hcreate
    · exact .inl ⟨_, _, hcreate⟩
    · exact .inr hcreate

/-- A scenario is not made, or its file reads as a chain of the right shape, and that chain is kept. -/
theorem createScenario_cases (h : exit? (createScenario name file isActive c) = some 0) :
    ∃ text blocks ids id, c.machine.readFile (c.machine.inRoot file) = .ok text ∧
      Chain.read c.engine.around.ids text = .ok (blocks, ids) ∧ Chain.shapeFault? blocks = none ∧
      (left (createScenario name file isActive c)).engine.store.rows = c.engine.store.rows ++
        [newRow c.engine.now name id isActive (Chain.write blocks) (some Scenario.defaultColor)] := by
  rw [createScenario, get_bind] at h ⊢
  cases hfile : c.machine.readFile (c.machine.inRoot file) with
  | error refusal =>
    simp only [hfile] at h
    cases h
  | ok text =>
    simp only [hfile] at h ⊢
    have hblocks := readBlocks_apply c text
    cases hread : Chain.read c.engine.around.ids text with
    | error refusal =>
      rw [hread] at hblocks
      rw [bind_of_error hblocks] at h
      cases h
    | ok found =>
      obtain ⟨blocks, ids⟩ := found
      rw [hread] at hblocks
      rw [bind_of_ok hblocks] at h ⊢
      cases hshape : Chain.shapeFault? blocks with
      | some fault =>
        simp only [hshape] at h
        cases h
      | none =>
        simp only [hshape] at h ⊢
        refine ⟨text, blocks, ids, (ids.orDraw none).1, rfl, hread, hshape, ?_⟩
        rw [get_bind] at h ⊢
        dsimp only at h ⊢
        generalize hmade : Store.create _ _ _ _ = made at h ⊢
        rcases create_cases name isActive c.engine.store c.engine.now ids (Chain.write blocks) with
          ⟨refusal, ids', hrefused⟩ | hadded
        · rw [hmade.symm.trans hrefused] at h
          cases h
        · rw [hmade.symm.trans hadded]
          rfl

/-- What is done once it is clear where the store lies, unless that cannot be told. -/
theorem openStore_apply {m : Errand Exit} {status : Exit} (h : exit? ((openStore *> m) c) = some status) :
    (openStore *> m) c = m c := by
  have hlooks := looks_openStore c
  rw [seqRight_eq_bind] at h ⊢
  cases hopen : openStore c with
  | error fault c' =>
    rw [bind_of_error hopen] at h
    cases h
  | ok config c' =>
    rw [hopen] at hlooks
    obtain rfl : c' = c := hlooks
    exact bind_of_ok hopen

/-- A text of blocks, of which there are some, is a list. -/
theorem items_of_read {supply ids : IdSupply} {text : String} {blocks : List Block}
    (h : Chain.read supply text = .ok (blocks, ids)) (hblocks : blocks ≠ []) :
    ∃ items, Json.read text = .ok (.list items) ∧ blocks = (Chain.readElements supply items).1 := by
  rw [Chain.read] at h
  split at h
  · next v hv =>
    cases v with
    | list items => exact ⟨items, hv, (congrArg Prod.fst (Except.ok.inj h)).symm⟩
    | _ => exact absurd (congrArg Prod.fst (Except.ok.inj h)).symm hblocks
  · exact absurd (congrArg Prod.fst (Except.ok.inj h)).symm hblocks
  · cases h

/-- A scenario that is made keeps the chain of its file, which is read back as it is, whatever the supply of ids. The
blocks of that chain are told apart iff the ids that the file gives are apart. -/
theorem createScenario_toldApart_iff
    (h : exit? ((Command.createScenario name file isActive).perform c) = some 0) :
    ∃ text items id, c.machine.readFile (c.machine.inRoot file) = .ok text ∧ Json.read text = .ok (.list items) ∧
      let blocks := (Chain.readElements c.engine.around.ids items).1
      (left ((Command.createScenario name file isActive).perform c)).engine.store.rows = c.engine.store.rows ++
        [newRow c.engine.now name id isActive (Chain.write blocks) (some Scenario.defaultColor)] ∧
      (∀ supply, Chain.read supply (Chain.write blocks) = .ok (blocks, supply)) ∧
      (Chain.AreToldApart blocks ↔
        Chain.AreGivenApart c.engine.around.ids.drawn (items.filterMap Chain.givenId?)) := by
  have hmade : (Command.createScenario name file isActive).perform c = createScenario name file isActive c :=
    openStore_apply c h
  rw [hmade] at h ⊢
  obtain ⟨text, blocks, ids, id, hfile, hread, hshape, hrows⟩ := createScenario_cases name file isActive c h
  have hsome : blocks ≠ [] := by
    rintro rfl
    cases hshape
  obtain ⟨items, hitems, rfl⟩ := items_of_read hread hsome
  exact ⟨text, items, id, hfile, hitems, hrows, Chain.read_write (Chain.isStorable_of_read hread),
    Chain.areToldApart_iff _ _⟩

/-- A console with a file of two blocks that have these ids. -/
def twoBlocks (first second : String) : Console :=
  { machine :=
      { root := Path.ofText "/r", home := "/h"
        files := [("/r/two.json", "[\x7b\"Type\":\"CyclicTrigger\",\"Id\":\"" ++ first ++ "\"\x7d,"
          ++ "\x7b\"Type\":\"Delay\",\"Id\":\"" ++ second ++ "\"\x7d]")] }
    engine := { times := {}, around := { clock := ⟨Clock.start, 0.0⟩ }, store := {} } }

/-- The ids that the elements of a list give. -/
def givenIds? : Value → Option (List (Option String))
  | .list items => some (items.filterMap Chain.givenId?)
  | _ => none

/-- Two blocks with ids of their own are kept and told apart. -/
theorem createScenario_toldApart_twoBlocks :
    let r := (Command.createScenario "Two" "two.json" false).perform (twoBlocks "t" "d")
    exit? r = some 0 ∧ ∃ blocks, (left r).engine.store.rows.map Row.blocks = [Chain.write blocks] ∧
      Chain.AreToldApart blocks := by
  have hexit : exit? ((Command.createScenario "Two" "two.json" false).perform (twoBlocks "t" "d")) = some 0 := by
    decide +kernel
  obtain ⟨text, items, id, hfile, hitems, hrows, -, hapart⟩ := createScenario_toldApart_iff _ _ _ _ hexit
  have hgiven : ((twoBlocks "t" "d").machine.readFile ((twoBlocks "t" "d").machine.inRoot "two.json")).toOption.bind
      (fun text => (Json.read text).toOption.bind givenIds?) = some [some "t", some "d"] := by decide +kernel
  rw [hfile] at hgiven
  simp only [Except.toOption, Option.bind_some, hitems, givenIds?, Option.some.injEq] at hgiven
  rw [hgiven] at hapart
  refine ⟨hexit, _, ?_, hapart.mpr ⟨by decide +kernel, by decide, by decide +kernel⟩⟩
  rw [hrows]
  rfl

/-- Two blocks with ids that differ in letter case only are kept as well. -/
theorem twins_kept :
    let r := (Command.createScenario "Two" "two.json" false).perform (twoBlocks "a" "A")
    exit? r = some 0 ∧ ((left r).engine.store.rows.map fun row =>
        (Chain.read {} row.blocks).toOption.map fun found => found.1.map fun b => Text.lower b.id) =
      [some ["a", "a"]] := by
  decide +kernel

end Deskhand.Errand
