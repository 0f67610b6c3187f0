import Deskhand.Run.Execution

/-!
# The course of a run

A run performs the actions of a chain in order, each once, up to the first one that fails or meets a fault.
While an action waits the surroundings may change; `meanwhile` says how. `Acts` is one action performed to its
end, `Passes` a list of actions all of which are performed, and `Course` everything that becomes of the
actions of a chain. Main statements:

* `finishes_perform_iff`: the ends that a run can come to are the courses of its actions, whatever happens
  while it waits;
* `finishes_finish`: a run that is let through its waits comes to an end;
* `runToEnd_course`: a run of a scenario performs nothing unless its blocks can run and it may start, and
  otherwise takes the course of its actions; it succeeds iff all of them are performed.
-/

namespace Deskhand

/-- How an action came out, once any wait is over. -/
inductive ActionEnd where
  | done
  | failed (reason : Option String)
  | raised (fault : Fault)

theorem eq_ok_of_toOption {ε α : Type} {result : Except ε α} {a : α} (h : result.toOption = some a) :
    result = .ok a := by
  cases result with
  | error e => simp [Except.toOption] at h
  | ok b => exact congrArg Except.ok (Option.some.inj h)

namespace Chain

/-- A list of blocks that can run: a trigger first, and only actions behind it. -/
def IsRunnable (blocks : List Block) : Prop :=
  ∃ leading actions, blocks = leading :: actions ∧ leading.isTrigger = true ∧
    ∀ b ∈ actions, b.isTrigger = false

theorem innerTrigger?_eq_none_iff {n : Nat} {actions : List Block} :
    innerTrigger? n actions = none ↔ ∀ b ∈ actions, b.isTrigger = false := by
  induction actions generalizing n with
  | nil => simp [innerTrigger?]
  | cons b rest ih => cases h : b.isTrigger <;> simp [innerTrigger?, h, ih]

/-- Nothing keeps a list of blocks from running iff it can run. -/
theorem shapeFault?_eq_none_iff {blocks : List Block} :
    shapeFault? blocks = none ↔ IsRunnable blocks := by
  cases blocks with
  | nil => simp [shapeFault?, IsRunnable]
  | cons b rest =>
    cases h : b.isTrigger with
    | false =>
      simp only [shapeFault?, h, Bool.false_eq_true, ↓reduceIte, reduceCtorEq, false_iff]
      rintro ⟨leading, actions, he, ht, -⟩
      obtain ⟨rfl, -⟩ := List.cons.inj he
      simp [h] at ht
    | true =>
      simp only [shapeFault?, h, ↓reduceIte, innerTrigger?_eq_none_iff]
      constructor
      · exact fun ha => ⟨b, rest, rfl, h, ha⟩
      · rintro ⟨leading, actions, he, -, ha⟩
        obtain ⟨rfl, rfl⟩ := List.cons.inj he
        exact ha

end Chain

namespace Surroundings

/-- One state of the surroundings is another one with more in the log. -/
def OnlyLogged (w w' : Surroundings) : Prop :=
  ∃ records, w' = { w with log := w.log ++ records }

theorem OnlyLogged.refl (w : Surroundings) : OnlyLogged w w :=
  ⟨[], by simp⟩

theorem onlyLogged_report (w : Surroundings) (level : LogLevel) (source message : String) :
    OnlyLogged w (w.report level source message) :=
  ⟨_, rfl⟩

end Surroundings

namespace Execution

/-- What may have become of the surroundings after some seconds. -/
abbrev Meanwhile := Float → Surroundings → Surroundings → Prop

/-- Nothing happens while a run waits but that the clock goes on. -/
def pausing : Meanwhile :=
  fun seconds w w' => w' = { w with clock := w.clock.wait seconds }

variable {meanwhile : Meanwhile} {name : String}

/-- An action is performed to its end, with the context and the surroundings afterwards. -/
inductive Acts (meanwhile : Meanwhile) (b : Block) (c : Context) (w : Surroundings) :
    ActionEnd → Context → Surroundings → Prop
  | done {v : Value} : (Action.perform b c w).progress = .finished (.ok v) →
      Acts meanwhile b c w .done (Action.perform b c w).context (Action.perform b c w).surroundings
  | waited {seconds : Float} {w' : Surroundings} :
      (Action.perform b c w).progress = .waiting seconds →
      meanwhile seconds (Action.perform b c w).surroundings w' →
      Acts meanwhile b c w .done (Action.perform b c w).context w'
  | failed {reason : Option String} : (Action.perform b c w).progress = .finished (.failed reason) →
      Acts meanwhile b c w (.failed reason) (Action.perform b c w).context
        (Action.perform b c w).surroundings
  | raised {fault : Fault} : (Action.perform b c w).progress = .raised fault →
      Acts meanwhile b c w (.raised fault) (Action.perform b c w).context
        (Action.perform b c w).surroundings

/-- All actions of a list are performed, one after the other, each with the context and the surroundings that
the one before it left. -/
inductive Passes (meanwhile : Meanwhile) :
    List Block → Context → Surroundings → Context → Surroundings → Prop
  | nil {c : Context} {w : Surroundings} : Passes meanwhile [] c w c w
  | cons {b : Block} {rest : List Block} {c c₁ c₂ : Context} {w w₁ w₂ : Surroundings} :
      Acts meanwhile b c w .done c₁ w₁ → Passes meanwhile rest c₁ w₁ c₂ w₂ →
      Passes meanwhile (b :: rest) c w c₂ w₂

/-- What becomes of the actions of a chain: all of them are performed, or those before the first one that
fails or meets a fault, and that one. The actions `later` behind it leave no trace. -/
inductive Course (meanwhile : Meanwhile) (name : String) (actions : List Block) (c : Context)
    (w : Surroundings) : Bool → Surroundings → Prop
  | whole {c₁ : Context} {w₁ : Surroundings} : Passes meanwhile actions c w c₁ w₁ →
      Course meanwhile name actions c w true (w₁.report .info source (about name " executed"))
  | failed {done later : List Block} {b : Block} {reason : Option String} {c₁ c₂ : Context}
      {w₁ w₂ : Surroundings} : actions = done ++ b :: later → Passes meanwhile done c w c₁ w₁ →
      Acts meanwhile b c₁ w₁ (.failed reason) c₂ w₂ →
      Course meanwhile name actions c w false (reportFailure name b reason w₂)
  | raised {done later : List Block} {b : Block} {fault : Fault} {c₁ c₂ : Context}
      {w₁ w₂ : Surroundings} : actions = done ++ b :: later → Passes meanwhile done c w c₁ w₁ →
      Acts meanwhile b c₁ w₁ (.raised fault) c₂ w₂ →
      Course meanwhile name actions c w false (reportFault name b fault w₂)

/-- A run goes on from where it stands to its end. -/
inductive Finishes (meanwhile : Meanwhile) : RunState → Surroundings → Bool → Surroundings → Prop
  | ended {success : Bool} {w : Surroundings} : Finishes meanwhile (.ended success) w success w
  | waited {seconds : Float} {run : Execution} {success : Bool} {w w₁ w₂ : Surroundings} :
      meanwhile seconds w w₁ → Finishes meanwhile (run.resume w₁).1 (run.resume w₁).2 success w₂ →
      Finishes meanwhile (.waiting seconds run) w success w₂

/-! ## Courses -/

/-- What an action answers decides how it comes out. -/
theorem acts_iff_progress {b : Block} {c c' : Context} {w w' : Surroundings} {ending : ActionEnd} :
    Acts meanwhile b c w ending c' w' ↔
      c' = (Action.perform b c w).context ∧
        match (Action.perform b c w).progress with
        | .finished (.ok _) => ending = .done ∧ w' = (Action.perform b c w).surroundings
        | .waiting seconds => ending = .done ∧ meanwhile seconds (Action.perform b c w).surroundings w'
        | .finished (.failed reason) => ending = .failed reason ∧ w' = (Action.perform b c w).surroundings
        | .raised fault => ending = .raised fault ∧ w' = (Action.perform b c w).surroundings := by
  constructor
  · rintro (h | ⟨h, hmeanwhile⟩ | h | h) <;> simp only [h, true_and]
    exact hmeanwhile
  · rintro ⟨rfl, h⟩
    split at h
    · next hp =>
      obtain ⟨rfl, rfl⟩ := h
      exact .done hp
    · next hp =>
      obtain ⟨rfl, hmeanwhile⟩ := h
      exact .waited hp hmeanwhile
    · next hp =>
      obtain ⟨rfl, rfl⟩ := h
      exact .failed hp
    · next hp =>
      obtain ⟨rfl, rfl⟩ := h
      exact .raised hp

theorem Course.cons {b : Block} {rest : List Block} {c c₁ : Context} {w w₁ w₂ : Surroundings}
    {success : Bool} (h : Course meanwhile name rest c₁ w₁ success w₂)
    (hb : Acts meanwhile b c w .done c₁ w₁) :
    Course meanwhile name (b :: rest) c w success w₂ := by
  cases h with
  | whole hp => exact .whole (.cons hb hp)
  | failed he hp ha => exact .failed (by rw [he]; rfl) (.cons hb hp) ha
  | raised he hp ha => exact .raised (by rw [he]; rfl) (.cons hb hp) ha

/-- The course of a chain by what becomes of its first action. -/
theorem course_cons_iff {b : Block} {rest : List Block} {c : Context} {w w' : Surroundings} {success : Bool} :
    Course meanwhile name (b :: rest) c w success w' ↔
      (∃ c₁ w₁, Acts meanwhile b c w .done c₁ w₁ ∧ Course meanwhile name rest c₁ w₁ success w') ∨
      (∃ reason c₁ w₁, Acts meanwhile b c w (.failed reason) c₁ w₁ ∧ success = false ∧
        w' = reportFailure name b reason w₁) ∨
      (∃ fault c₁ w₁, Acts meanwhile b c w (.raised fault) c₁ w₁ ∧ success = false ∧
        w' = reportFault name b fault w₁) := by
  constructor
  · intro h
    cases h with
    | whole hp =>
      cases hp with
      | cons hb hp => exact .inl ⟨_, _, hb, .whole hp⟩
    | failed he hp ha =>
      cases hp with
      | nil =>
        obtain ⟨rfl, rfl⟩ := List.cons.inj he
        exact .inr (.inl ⟨_, _, _, ha, rfl, rfl⟩)
      | cons hb hp =>
        obtain ⟨rfl, he'⟩ := List.cons.inj he
        exact .inl ⟨_, _, hb, .failed he' hp ha⟩
    | raised he hp ha =>
      cases hp with
      | nil =>
        obtain ⟨rfl, rfl⟩ := List.cons.inj he
        exact .inr (.inr ⟨_, _, _, ha, rfl, rfl⟩)
      | cons hb hp =>
        obtain ⟨rfl, he'⟩ := List.cons.inj he
        exact .inl ⟨_, _, hb, .raised he' hp ha⟩
  · rintro (⟨_, _, hb, h⟩ | ⟨_, _, _, hb, rfl, rfl⟩ | ⟨_, _, _, hb, rfl, rfl⟩)
    · exact h.cons hb
    · exact .failed (List.nil_append _).symm .nil hb
    · exact .raised (List.nil_append _).symm .nil hb

theorem course_true_iff {actions : List Block} {c : Context} {w w' : Surroundings} :
    Course meanwhile name actions c w true w' ↔
      ∃ c₁ w₁, Passes meanwhile actions c w c₁ w₁ ∧
        w' = w₁.report .info source (about name " executed") := by
  constructor
  · intro h
    cases h with
    | whole hp => exact ⟨_, _, hp, rfl⟩
  · rintro ⟨c₁, w₁, hp, rfl⟩
    exact .whole hp

/-! ## Performing actions -/

theorem perform_cons_done {b : Block} {rest : List Block} {c : Context} {w : Surroundings} {v : Value}
    (h : (Action.perform b c w).progress = .finished (.ok v)) :
    perform name (b :: rest) c w =
      perform name rest (Action.perform b c w).context (Action.perform b c w).surroundings := by
  simp only [perform, h]

theorem perform_cons_waiting {b : Block} {rest : List Block} {c : Context} {w : Surroundings}
    {seconds : Float} (h : (Action.perform b c w).progress = .waiting seconds) :
    perform name (b :: rest) c w =
      (.waiting seconds ⟨name, rest, (Action.perform b c w).context⟩,
        (Action.perform b c w).surroundings) := by
  simp only [perform, h]

theorem perform_cons_failed {b : Block} {rest : List Block} {c : Context} {w : Surroundings}
    {reason : Option String} (h : (Action.perform b c w).progress = .finished (.failed reason)) :
    perform name (b :: rest) c w =
      (.ended false, reportFailure name b reason (Action.perform b c w).surroundings) := by
  simp only [perform, h]

theorem perform_cons_raised {b : Block} {rest : List Block} {c : Context} {w : Surroundings} {fault : Fault}
    (h : (Action.perform b c w).progress = .raised fault) :
    perform name (b :: rest) c w =
      (.ended false, reportFault name b fault (Action.perform b c w).surroundings) := by
  simp only [perform, h]

theorem finishes_ended_iff {success success' : Bool} {w w' : Surroundings} :
    Finishes meanwhile (.ended success) w success' w' ↔ success' = success ∧ w' = w := by
  constructor
  · intro h
    cases h with
    | ended => exact ⟨rfl, rfl⟩
  · rintro ⟨rfl, rfl⟩
    exact .ended

theorem finishes_waiting_iff {seconds : Float} {run : Execution} {success : Bool} {w w' : Surroundings} :
    Finishes meanwhile (.waiting seconds run) w success w' ↔
      ∃ w₁, meanwhile seconds w w₁ ∧ Finishes meanwhile (run.resume w₁).1 (run.resume w₁).2 success w' := by
  constructor
  · intro h
    cases h with
    | waited hm hf => exact ⟨_, hm, hf⟩
  · rintro ⟨w₁, hm, hf⟩
    exact .waited hm hf

/-- The ends that performing actions can come to are the courses of the actions. -/
theorem finishes_perform_iff {actions : List Block} {c : Context} {w w' : Surroundings} {success : Bool} :
    Finishes meanwhile (perform name actions c w).1 (perform name actions c w).2 success w' ↔
      Course meanwhile name actions c w success w' := by
  induction actions generalizing c w with
  | nil =>
    rw [perform, finishes_ended_iff]
    constructor
    · rintro ⟨rfl, rfl⟩
      exact .whole .nil
    · intro h
      cases h with
      | whole hp => cases hp; exact ⟨rfl, rfl⟩
      | failed he _ _ => simp at he
      | raised he _ _ => simp at he
  | cons b rest ih =>
    -- the first action decides how the run goes on
    rw [course_cons_iff]
    cases hp : (Action.perform b c w).progress with
    | finished result =>
      cases result with
      | ok v => rw [perform_cons_done hp, ih]; simp [acts_iff_progress, hp, and_assoc]
      | failed reason => rw [perform_cons_failed hp, finishes_ended_iff]; simp [acts_iff_progress, hp, and_assoc]
    | waiting seconds =>
      rw [perform_cons_waiting hp, finishes_waiting_iff]
      simp [acts_iff_progress, hp, resume, ih, and_assoc]
    | raised fault => rw [perform_cons_raised hp, finishes_ended_iff]; simp [acts_iff_progress, hp, and_assoc]

/-! ## Runs that are let through their waits -/

/-- A run that waits has fewer actions left than it set out with. -/
theorem length_remaining_lt {actions : List Block} {c : Context} {w : Surroundings} {seconds : Float}
    {run : Execution} (h : (perform name actions c w).1 = .waiting seconds run) :
    run.remaining.length < actions.length := by
  induction actions generalizing c w with
  | nil => simp [perform] at h
  | cons b rest ih =>
    cases hp : (Action.perform b c w).progress with
    | finished result =>
      cases result with
      | ok v =>
        rw [perform_cons_done hp] at h
        exact Nat.lt_succ_of_lt (ih h)
      | failed reason => simp [perform_cons_failed hp] at h
    | waiting s =>
      rw [perform_cons_waiting hp] at h
      simp only [RunState.waiting.injEq] at h
      rw [← h.2]
      exact Nat.lt_succ_self _
    | raised fault => simp [perform_cons_raised hp] at h

/-- Whether a number of waits lets a run through. -/
def IsEnough (fuel : Nat) : RunState → Prop
  | .ended _ => True
  | .waiting _ run => run.remaining.length < fuel

/-- A run that is let through its waits comes to an end. -/
theorem finishes_finish {fuel : Nat} {state : RunState} {w : Surroundings} (h : IsEnough fuel state) :
    Finishes pausing state w (finish fuel state w).1 (finish fuel state w).2 := by
  induction fuel generalizing state w with
  | zero =>
    cases state with
    | ended success => exact .ended
    | waiting seconds run => exact absurd h (Nat.not_lt_zero _)
  | succ fuel ih =>
    cases state with
    | ended success => exact .ended
    | waiting seconds run =>
      refine .waited rfl (ih ?_)
      cases hs : (run.resume { w with clock := w.clock.wait seconds }).1 with
      | ended success => trivial
      | waiting seconds' run' =>
        exact Nat.lt_of_lt_of_le (length_remaining_lt hs) (Nat.le_of_lt_succ h)

/-- While nothing but time decides what happens in between, a run has one end. -/
theorem Finishes.unique {state : RunState} {w w₁ w₂ : Surroundings} {success₁ success₂ : Bool}
    (h₁ : Finishes pausing state w success₁ w₁) (h₂ : Finishes pausing state w success₂ w₂) :
    success₁ = success₂ ∧ w₁ = w₂ := by
  induction h₁ with
  | ended =>
    obtain ⟨rfl, rfl⟩ := finishes_ended_iff.mp h₂
    exact ⟨rfl, rfl⟩
  | waited hm _ ih =>
    obtain ⟨w', hm', hf⟩ := finishes_waiting_iff.mp h₂
    rw [hm] at ih
    rw [hm'] at hf
    exact ih hf

/-! ## Runs of a scenario -/

/-- The surroundings once the chain of a scenario was read: a text that holds no list is reported, and blocks
without an id have drawn one. -/
def afterReading (s : Scenario) (ids : IdSupply) (w : Surroundings) : Surroundings :=
  { reportText s.blocks w with ids := ids }

/-- What the leading trigger of a chain answers, when it is asked about a scenario. -/
def answer? (s : Scenario) (blocks : List Block) (w : Surroundings) : Option (Except Fault Bool) :=
  (blocks.head?.bind Trigger.ofBlock?).map fun t =>
    (t.check w.bot? (s.lastExecuted.map Stamp.wall) w.now).1

/-- A run may start: it is forced, or the leading trigger fires. -/
def MayRun (forced : Bool) (s : Scenario) (blocks : List Block) (w : Surroundings) : Prop :=
  forced = true ∨ answer? s blocks w = some (.ok true)

/-- The leading trigger has to be asked and meets a fault. -/
def IsUnanswered (forced : Bool) (s : Scenario) (blocks : List Block) (w : Surroundings) : Prop :=
  forced = false ∧ ∃ fault, answer? s blocks w = some (.error fault)

theorem ofBlock?_isSome (b : Block) : (Trigger.ofBlock? b).isSome = b.isTrigger := by
  rw [Trigger.ofBlock?, Option.isSome_map, Block.isTrigger]
  cases b.kind <;> rfl

theorem blocksOf_of_read {s : Scenario} {w : Surroundings} {blocks : List Block} {ids : IdSupply}
    (h : Chain.read w.ids s.blocks = .ok (blocks, ids)) :
    blocksOf s w = (.ok blocks, afterReading s ids w) := by
  have hids : (reportText s.blocks w).ids = w.ids := by
    rw [reportText]
    split <;> rfl
  rw [blocksOf]
  simp only [hids, h, afterReading]

/-- What `mayStart` answers for a chain that can run, by what its leading trigger answers. -/
theorem mayStart_eq (forced : Bool) (s : Scenario) {leading : Block} (actions : List Block)
    (w : Surroundings) (h : leading.isTrigger = true) :
    ∃ answer, answer? s (leading :: actions) w = some answer ∧
      mayStart forced s leading w = if forced then .ok true else answer := by
  obtain ⟨t, ht⟩ := Option.isSome_iff_exists.mp ((ofBlock?_isSome leading).trans h)
  refine ⟨(t.check w.bot? (s.lastExecuted.map Stamp.wall) w.now).1, ?_, ?_⟩
  · simp [answer?, ht]
  · simp only [mayStart, ht]

/-- A run whose blocks cannot run ends before any action. -/
theorem start_of_not_runnable {s : Scenario} (forced : Bool) (bindings : List (String × Value))
    {w : Surroundings} {blocks : List Block} {ids : IdSupply}
    (hread : Chain.read w.ids s.blocks = .ok (blocks, ids)) (h : ¬ Chain.IsRunnable blocks) :
    (start s forced bindings w).1 = .ok (.ended false) ∧
      (afterReading s ids w).OnlyLogged (start s forced bindings w).2 := by
  rw [start, blocksOf_of_read hread]
  cases blocks with
  | nil => exact ⟨rfl, Surroundings.onlyLogged_report _ _ _ _⟩
  | cons leading actions =>
    rw [← Chain.shapeFault?_eq_none_iff] at h
    obtain ⟨fault, hf⟩ := Option.ne_none_iff_exists'.mp h
    simp only [hf]
    exact ⟨trivial, Surroundings.onlyLogged_report _ _ _ _⟩

/-- A run whose blocks can run starts as its trigger answers, unless it is forced. -/
theorem start_of_runnable {s : Scenario} (forced : Bool) (bindings : List (String × Value))
    {w : Surroundings} {leading : Block} {actions : List Block} {ids : IdSupply}
    (hread : Chain.read w.ids s.blocks = .ok (leading :: actions, ids))
    (h : Chain.IsRunnable (leading :: actions)) :
    start s forced bindings w =
      match mayStart forced s leading (afterReading s ids w) with
      | .error fault => (.error fault, afterReading s ids w)
      | .ok false => (.ok (.ended false), afterReading s ids w)
      | .ok true =>
        (.ok (perform s.name actions (.ofBindings bindings) (afterReading s ids w)).1,
          (perform s.name actions (.ofBindings bindings) (afterReading s ids w)).2) := by
  have hnone := Chain.shapeFault?_eq_none_iff.mpr h
  rw [start, blocksOf_of_read hread]
  dsimp only
  split
  · next fault hsome => cases hnone.symm.trans hsome
  · rfl

/-- How a run starts whose chain can be read: blocks that cannot run end it, and so does a leading trigger that has to be
asked and declines, or meets a fault; otherwise its actions are performed. -/
theorem start_cases {s : Scenario} {w : Surroundings} {blocks : List Block} {ids : IdSupply}
    (hread : Chain.read w.ids s.blocks = .ok (blocks, ids)) (forced : Bool) (bindings : List (String × Value)) :
    let w₀ := afterReading s ids w
    (¬Chain.IsRunnable blocks ∧
        ∃ w', start s forced bindings w = (.ok (.ended false), w') ∧ w₀.OnlyLogged w') ∨
      Chain.IsRunnable blocks ∧
        ((¬MayRun forced s blocks w₀ ∧ IsUnanswered forced s blocks w₀ ∧
            ∃ fault, start s forced bindings w = (.error fault, w₀)) ∨
          (¬MayRun forced s blocks w₀ ∧ start s forced bindings w = (.ok (.ended false), w₀)) ∨
          (MayRun forced s blocks w₀ ∧ start s forced bindings w =
            (.ok (perform s.name blocks.tail (.ofBindings bindings) w₀).1,
              (perform s.name blocks.tail (.ofBindings bindings) w₀).2))) := by
  intro w₀
  by_cases hrun : Chain.IsRunnable blocks
  · obtain ⟨leading, actions, rfl, ht, -⟩ := id hrun
    obtain ⟨answer, ha, hm⟩ := mayStart_eq forced s actions w₀ ht
    have hstart := start_of_runnable forced bindings hread hrun
    rw [hm] at hstart
    refine .inr ⟨hrun, ?_⟩
    rw [MayRun, IsUnanswered, ha, Option.some.injEq]
    cases forced with
    | true => exact .inr (.inr ⟨.inl rfl, hstart⟩)
    | false =>
      rcases answer with fault | (_ | _)
      · exact .inl ⟨by simp, ⟨rfl, fault, rfl⟩, fault, hstart⟩
      · exact .inr (.inl ⟨by simp, hstart⟩)
      · exact .inr (.inr ⟨.inr rfl, hstart⟩)
  · obtain ⟨hs, hlogged⟩ := start_of_not_runnable forced bindings hread hrun
    exact .inl ⟨hrun, _, Prod.ext hs rfl, hlogged⟩

theorem runToEnd_of_ended {s : Scenario} {forced success : Bool} {bindings : List (String × Value)}
    {w : Surroundings} (h : (start s forced bindings w).1 = .ok (.ended success)) :
    runToEnd s forced bindings w = (.ok success, (start s forced bindings w).2) := by
  rcases hs : start s forced bindings w with ⟨outcome, w'⟩
  rw [hs] at h
  obtain rfl : outcome = .ok (.ended success) := h
  simp only [runToEnd, hs, finish]

theorem runToEnd_of_error {s : Scenario} {forced : Bool} {bindings : List (String × Value)}
    {w : Surroundings} {fault : Fault} (h : (start s forced bindings w).1 = .error fault) :
    runToEnd s forced bindings w = (.error fault, (start s forced bindings w).2) := by
  rcases hs : start s forced bindings w with ⟨outcome, w'⟩
  rw [hs] at h
  obtain rfl : outcome = .error fault := h
  simp only [runToEnd, hs]

/-- A run that has started comes to an end. -/
theorem runToEnd_of_ok {s : Scenario} {forced : Bool} {bindings : List (String × Value)}
    {w : Surroundings} {state : RunState} (h : (start s forced bindings w).1 = .ok state) :
    ∃ success, (runToEnd s forced bindings w).1 = .ok success ∧
      Finishes pausing state (start s forced bindings w).2 success (runToEnd s forced bindings w).2 := by
  rcases hs : start s forced bindings w with ⟨outcome, w'⟩
  rw [hs] at h
  obtain rfl : outcome = .ok state := h
  simp only [runToEnd, hs]
  refine ⟨_, rfl, finishes_finish ?_⟩
  cases state with
  | ended success => trivial
  | waiting seconds run => exact Nat.lt_succ_self _

/-- A run of a scenario whose chain can be read. It performs no action unless the blocks can run and it is
forced or the leading trigger fires. Then its effects are those of its actions in their order, up to and
including the first one that fails or meets a fault (`Course`), also when anything happens while it waits. It
succeeds iff the blocks can run, it may run, and every action is performed, unless the trigger meets a fault. -/
theorem runToEnd_course {s : Scenario} {w : Surroundings} {blocks : List Block} {ids : IdSupply}
    (hread : Chain.read w.ids s.blocks = .ok (blocks, ids)) (forced : Bool)
    (bindings : List (String × Value)) :
    let w₀ := afterReading s ids w
    let r := runToEnd s forced bindings w
    (¬ (Chain.IsRunnable blocks ∧ MayRun forced s blocks w₀) → w₀.OnlyLogged r.2) ∧
    (Chain.IsRunnable blocks ∧ MayRun forced s blocks w₀ →
      (∃ success, r.1 = .ok success ∧
        Course pausing s.name blocks.tail (.ofBindings bindings) w₀ success r.2) ∧
      ∃ state w₁, start s forced bindings w = (.ok state, w₁) ∧
        ∀ (meanwhile : Meanwhile) (success : Bool) (w' : Surroundings),
          Finishes meanwhile state w₁ success w' ↔
            Course meanwhile s.name blocks.tail (.ofBindings bindings) w₀ success w') ∧
    (¬ (Chain.IsRunnable blocks ∧ IsUnanswered forced s blocks w₀) →
      (∃ success, r.1 = .ok success) ∧
      (r.1 = .ok true ↔ Chain.IsRunnable blocks ∧ MayRun forced s blocks w₀ ∧
        ∃ c₁ w₁, Passes pausing blocks.tail (.ofBindings bindings) w₀ c₁ w₁)) := by
  intro w₀ r
  rcases start_cases hread forced bindings with
    ⟨hrun, w', hstart, hlogged⟩ | ⟨hrun, ⟨hmay, hun, fault, hstart⟩ | ⟨hmay, hstart⟩ | ⟨hmay, hstart⟩⟩
  · have hr : r = (.ok false, (start s forced bindings w).2) := runToEnd_of_ended (by rw [hstart])
    rw [hr, hstart]
    exact ⟨fun _ => hlogged, fun h => absurd h.1 hrun, fun _ => ⟨⟨false, rfl⟩, iff_of_false (by simp) fun h => hrun h.1⟩⟩
  · have hr : r = (.error fault, (start s forced bindings w).2) := runToEnd_of_error (by rw [hstart])
    rw [hr, hstart]
    exact ⟨fun _ => .refl w₀, fun h => absurd h.2 hmay, fun h => absurd ⟨hrun, hun⟩ h⟩
  · have hr : r = (.ok false, (start s forced bindings w).2) := runToEnd_of_ended (by rw [hstart])
    rw [hr, hstart]
    exact ⟨fun _ => .refl w₀, fun h => absurd h.2 hmay, fun _ => ⟨⟨false, rfl⟩, iff_of_false (by simp) fun h => hmay h.2.1⟩⟩
  · obtain ⟨success, hr, hfinishes⟩ := runToEnd_of_ok (by rw [hstart])
    rw [hstart] at hfinishes
    have hcourse := finishes_perform_iff.mp hfinishes
    refine ⟨fun h => absurd ⟨hrun, hmay⟩ h,
      fun _ => ⟨⟨success, hr, hcourse⟩, _, _, hstart, fun _ _ _ => finishes_perform_iff⟩,
      fun _ => ⟨⟨success, hr⟩, fun h => ?_, fun ⟨_, _, c₁, w₁, hp⟩ => ?_⟩⟩
    · obtain rfl : success = true := Except.ok.inj (hr.symm.trans h)
      obtain ⟨c₁, w₁, hp, -⟩ := course_true_iff.mp hcourse
      exact ⟨hrun, hmay, c₁, w₁, hp⟩
    · rw [show r.1 = .ok success from hr, (hfinishes.unique (finishes_perform_iff.mpr (.whole hp))).1]

/-- A chain whose first action has no number of milliseconds to wait for. -/
def blockedChain : List Block :=
  [⟨.hotkeyTrigger, "t", []⟩, ⟨.delay, "a", []⟩, ⟨.mouseClick, "c", []⟩]

/-- The scenario of that chain. -/
def blocked : Scenario :=
  { id := "s"
    name := "Blocked"
    blocks :=
      "[\x7b\"Type\":\"HotkeyTrigger\",\"Id\":\"t\"\x7d,\x7b\"Type\":\"Delay\",\"Id\":\"a\"\x7d," ++
        "\x7b\"Type\":\"MouseClick\",\"Id\":\"c\"\x7d]" }

theorem read_blocked : Chain.read {} blocked.blocks = .ok (blockedChain, {}) := by
  have h : (Chain.read {} blocked.blocks).toOption = some (blockedChain, {}) := by decide +kernel
  exact eq_ok_of_toOption h

theorem runToEnd_course_blocked :
    let w : Surroundings := { clock := ⟨Clock.start, 0.0⟩ }
    Chain.read w.ids blocked.blocks = .ok (blockedChain, {}) ∧
      ∃ success, (runToEnd blocked true [] w).1 = .ok success ∧
        Course pausing blocked.name blockedChain.tail (.ofBindings []) (afterReading blocked {} w) success
          (runToEnd blocked true [] w).2 := by
  intro w
  have hshape : Chain.IsRunnable blockedChain := Chain.shapeFault?_eq_none_iff.mp (by decide)
  have hread : Chain.read w.ids blocked.blocks = .ok (blockedChain, {}) := read_blocked
  exact ⟨hread, ((runToEnd_course hread true []).2.1 ⟨hshape, .inl rfl⟩).1⟩

end Execution

end Deskhand
