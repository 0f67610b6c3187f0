import Deskhand.Block.Chain

/-!
# Blocks without their ids

A block that is stored without an id draws one whenever its chain is read; everything else about it is in the
text. Main statement:

* `Chain.bare_read`: but for their ids, the blocks of a text do not depend on the supply of ids.
-/

namespace Deskhand

/-- A block without its id. -/
def Block.bare (b : Block) : Block :=
  { b with id := "" }

@[simp] theorem Block.bare_bare (b : Block) : b.bare.bare = b.bare := rfl

@[simp] theorem Block.param?_bare (b : Block) (name : String) : b.bare.param? name = b.param? name := rfl

@[simp] theorem Block.param_bare (b : Block) (name default : String) :
    b.bare.param name default = b.param name default := rfl

namespace Chain

theorem bare_readElement (supply supply' : IdSupply) (v : Value) :
    (readElement supply v).map (·.1.bare) = (readElement supply' v).map (·.1.bare) := by
  cases v with
  | record item =>
    simp only [readElement]
    cases kindOf? (field "Type" "type" item) with
    | none => simp only [Option.map_none]
    | some kind => simp only [Option.map_some, Block.bare]
  | _ => rfl

theorem bare_readElements (supply supply' : IdSupply) (vs : List Value) :
    (readElements supply vs).1.map Block.bare = (readElements supply' vs).1.map Block.bare := by
  induction vs generalizing supply supply' with
  | nil => rfl
  | cons v rest ih =>
    have hv := bare_readElement supply supply' v
    simp only [readElements]
    cases h : readElement supply v with
    | none =>
      have h' : readElement supply' v = none := by simpa [h] using hv.symm
      rw [h']
      exact ih supply supply'
    | some r =>
      obtain ⟨r', h'⟩ : ∃ r', readElement supply' v = some r' := by
        cases h' : readElement supply' v with
        | none => simp [h, h'] at hv
        | some r' => exact ⟨r', rfl⟩
      have hb : r.1.bare = r'.1.bare := by simpa [h, h'] using hv
      simp only [h', List.map_cons, hb, ih r.2 r'.2]

/-- But for their ids, the blocks of a text do not depend on the supply of ids. -/
theorem bare_read (supply supply' : IdSupply) (text : String) :
    (read supply text).map (·.1.map Block.bare) = (read supply' text).map (·.1.map Block.bare) := by
  simp only [read]
  cases Json.read text with
  | ok v =>
    cases v with
    | list items =>
      simp only [ofValue, Except.map]
      rw [bare_readElements supply supply']
    | _ => rfl
  | error refusal => cases refusal <;> rfl

end Chain

end Deskhand
