import Deskhand.Proofs.Run.Course
import Mathlib.Data.List.Induction

/-!
# What a run has recorded when an action starts

An action that is performed with a value records the value under its id, and an action that has none, fails, waits
or meets a fault leaves the context as it is (`Action.notes_perform`). So the context in which an action starts is that
of the values that the run began with and those of the actions before it, recorded in this order. It does not depend on
anything else: not on what the services answered otherwise, and not on what other runs did in the meantime. Main
statements:

* `find?_ofBindings`, `lastOutput_ofBindings`: what a context holds under an id, and last;
* `Action.chat_perform`, `Action.notes_perform`: what an action does to the chat and to the context;
* `passes_iff`: a list of actions is performed iff each of them gives a value or none;
* `Yields.context`: what the actions that were performed have recorded;
* `context_when_started`: the context in which each action of a run starts, and what it does to it.
-/

namespace Deskhand

namespace Context

/-- A context after an action with a value, which is recorded unless it is nothing. -/
def noting (c : Context) (id : String) : Value → Context
  | .null => c
  | v => c.record id v

/-- Values recorded in order on top of others. -/
theorem ofBindings_append (front back : List (String × Value)) :
    ofBindings (front ++ back) = back.foldl (fun c b => c.record b.1 b.2) (ofBindings front) := by
  rw [ofBindings, ofBindings, List.foldl_append]

theorem find?_record (c : Context) (id : String) (v : Value) (key : String) :
    (c.record id v).find? key = if Text.lower id = Text.lower key then some v else c.find? key :=
  Entries.find?_put c.values (Text.lower id) v (Text.lower key)

/-- Under an id there is what was recorded last under it, in whatever letter case. -/
theorem find?_ofBindings (bindings : List (String × Value)) (key : String) :
    (ofBindings bindings).find? key =
      (bindings.reverse.find? fun b => Text.lower b.1 = Text.lower key).map Prod.snd := by
  induction bindings using List.reverseRecOn with
  | nil => rfl
  | append_singleton front b ih =>
    rw [ofBindings_append, List.foldl_cons, List.foldl_nil, find?_record, ih, List.reverse_append,
      List.reverse_singleton, List.singleton_append, List.find?_cons]
    by_cases hkey : Text.lower b.1 = Text.lower key <;> simp [hkey]

/-- The last output is the value that was recorded last. -/
theorem lastOutput_ofBindings (bindings : List (String × Value)) :
    (ofBindings bindings).lastOutput = (bindings.getLast?.map Prod.snd).getD .null := by
  induction bindings using List.reverseRecOn with
  | nil => rfl
  | append_singleton front b _ => rw [ofBindings_append, List.getLast?_append]; rfl

end Context

namespace Surroundings

/-- The catalogue of films is the program's own, not one with a prepared answer. -/
def HasOwnFilms (w : Surroundings) : Prop :=
  ∀ p, w.films ≠ some (.prepared p)

theorem HasOwnFilms.congr {w w' : Surroundings} (hw : w.HasOwnFilms) (h : w'.films = w.films) : w'.HasOwnFilms :=
  fun p => h ▸ hw p

/-- The chat and the catalogue of films are as they were. -/
structure KeepsServices (w w' : Surroundings) : Prop where
  chat : w'.chat = w.chat
  films : w'.films = w.films

end Surroundings

namespace Action

open Surroundings (HasOwnFilms)

/-- What an action may do to the context. -/
structure Notes (b : Block) (c : Context) (p : Performance) : Prop where
  /-- A value of an action that is performed is recorded. -/
  done : ∀ v, p.progress = .finished (.ok v) → p.context = c.noting b.id v
  /-- Nothing else is. -/
  other : (∀ v, p.progress ≠ .finished (.ok v)) → p.context = c
  own : p.surroundings.HasOwnFilms

/-- A progress without a value. -/
def IsSilent (p : Progress) : Prop :=
  ∀ v, p = .finished (.ok v) → v = .null

theorem isSilent_ofReply (what : String) (reply : Except Fault Reply) : IsSilent (ofReply what reply) := by
  intro v h
  rw [ofReply.eq_def] at h
  split at h
  · exact (ActionResult.ok.inj (Progress.finished.inj h)).symm
  · cases Progress.finished.inj h
  · split at h
    · cases h
    · cases Progress.finished.inj h

theorem isSilent_fail (reason : String) : IsSilent (.finished (fail reason)) := by
  intro v h
  cases Progress.finished.inj h

theorem isSilent_null : IsSilent (.finished (.ok .null)) := by
  intro v h
  exact (ActionResult.ok.inj (Progress.finished.inj h)).symm

/-- An action that records nothing and has no value. -/
theorem Notes.of_silent {b : Block} {c : Context} {w' : Surroundings} {p : Progress} (h : IsSilent p)
    (hw : w'.HasOwnFilms) : Notes b c ⟨p, c, w'⟩ where
  done := by
    intro v hv
    rw [h v hv]
    rfl
  other := fun _ => rfl
  own := hw

/-! ## The actions one by one -/

variable (b : Block) (c : Context) (w : Surroundings)

theorem isSilent_delay : IsSilent (delay b) := by
  rw [delay]
  split
  · exact isSilent_fail _
  · split
    · exact isSilent_fail _
    · split
      · exact fun v h => by cases h
      · exact fun v h => by cases h

theorem click_spec : IsSilent (click b w).1 ∧ w.KeepsServices (click b w).2 := by
  rw [click]
  split
  · exact ⟨isSilent_fail _, rfl, rfl⟩
  · exact ⟨isSilent_fail _, rfl, rfl⟩
  · exact ⟨isSilent_ofReply _ _, rfl, rfl⟩

theorem typeText_spec : IsSilent (typeText b c w).1 ∧ w.KeepsServices (typeText b c w).2 := by
  rw [typeText]
  split
  · exact ⟨isSilent_fail _, rfl, rfl⟩
  · split
    · exact ⟨isSilent_null, rfl, rfl⟩
    · split
      · exact ⟨isSilent_null, rfl, rfl⟩
      · exact ⟨isSilent_ofReply _ _, rfl, rfl⟩

theorem process_spec : IsSilent (process b w).1 ∧ w.KeepsServices (process b w).2 := by
  have hclosing : ∀ outcome, IsSilent (ofClosing outcome) := by
    intro outcome
    cases outcome with
    | ok n => exact isSilent_null
    | error reason => exact isSilent_fail reason
  rw [process]
  split
  · exact ⟨isSilent_fail _, rfl, rfl⟩
  · dsimp only
    split
    · exact ⟨isSilent_fail _, rfl, rfl⟩
    · split
      · split
        · exact ⟨isSilent_fail _, rfl, rfl⟩
        · exact ⟨isSilent_ofReply _ _, rfl, rfl⟩
      · exact ⟨hclosing _, rfl, rfl⟩
      · exact ⟨isSilent_fail _, rfl, rfl⟩

theorem sendChat_spec : IsSilent (sendChat b c w).1 ∧ w.KeepsServices (sendChat b c w).2 := by
  have hsent : ∀ bot text, w.KeepsServices (w.sendChat bot text none).2 := by
    intro bot text
    simp only [Surroundings.sendChat]
    split <;> exact ⟨rfl, rfl⟩
  rw [sendChat]
  split
  · exact ⟨isSilent_fail _, rfl, rfl⟩
  · split
    · exact ⟨isSilent_null, rfl, rfl⟩
    · split
      · exact ⟨isSilent_null, rfl, rfl⟩
      · split
        · exact ⟨isSilent_fail _, rfl, rfl⟩
        · exact ⟨isSilent_fail _, rfl, rfl⟩
        · split
          · exact ⟨isSilent_fail _, rfl, rfl⟩
          · dsimp only
            split
            · exact ⟨isSilent_null, hsent _ _⟩
            · exact ⟨isSilent_fail _, hsent _ _⟩

theorem keepsServices_checkVideo : w.KeepsServices (checkVideo b c w).surroundings := by
  have hasked : ∀ service channel key, w.KeepsServices (w.checkVideos service channel key).2 := by
    intro service channel key
    cases service <;> exact ⟨rfl, rfl⟩
  rw [checkVideo]
  split
  · exact ⟨rfl, rfl⟩
  · exact ⟨rfl, rfl⟩
  · exact ⟨rfl, rfl⟩
  · next channel key service _ _ _ =>
    have h := hasked service channel key
    split
    all_goals
      next hcheck =>
        rw [hcheck] at h
        exact h

theorem chat_checkFilms : (checkFilms b c w).surroundings.chat = w.chat := by
  have hasked : ∀ service genre period region key,
      (w.checkFilms service genre period region key).2.chat = w.chat := by
    intro service genre period region key
    cases service <;> rfl
  rw [checkFilms]
  split
  · rfl
  · rfl
  · rfl
  · next genre key service _ _ _ =>
    have h := hasked service genre (b.param "Period" "Week") (b.param "Region" "UA") key
    split
    · next hcheck =>
      rw [hcheck] at h
      exact h
    · next hcheck =>
      rw [hcheck] at h
      split
      · exact h
      · split <;> exact h

/-- An action leaves the chat as it is. -/
theorem chat_perform : (perform b c w).surroundings.chat = w.chat := by
  rw [perform]
  split
  · rfl
  · exact (click_spec b w).2.chat
  · exact (typeText_spec b c w).2.chat
  · exact (process_spec b w).2.chat
  · exact (keepsServices_checkVideo b c w).chat
  · exact chat_checkFilms b c w
  · exact (sendChat_spec b c w).2.chat
  · rfl

variable {w}

theorem notes_checkVideo (hw : w.HasOwnFilms) : Notes b c (checkVideo b c w) := by
  have hown : (checkVideo b c w).surroundings.HasOwnFilms := hw.congr (keepsServices_checkVideo b c w).films
  rw [checkVideo] at hown ⊢
  split at hown
  · exact .of_silent (isSilent_fail _) hown
  · exact .of_silent (isSilent_fail _) hown
  · exact .of_silent (isSilent_fail _) hown
  · split at hown
    · exact .of_silent (isSilent_fail _) hown
    · exact .of_silent isSilent_null hown
    · next url w' hsome _ =>
      refine ⟨fun v hv => ?_, fun hnone => absurd rfl (hnone url), hown⟩
      obtain rfl : url = v := ActionResult.ok.inj (Progress.finished.inj hv)
      cases url with
      | null => exact absurd rfl hsome
      | _ => rfl

/-- The program's own catalogue of films answers with a list, or with nothing. -/
theorem checkFilms_own (hw : w.HasOwnFilms) {service : FilmService} (hservice : w.films = some service)
    (genre period region key : String) :
    (w.checkFilms service genre period region key).2.HasOwnFilms ∧
      ∀ v, (w.checkFilms service genre period region key).1 = .ok v → v = .null ∨ ∃ items, v = .list items := by
  cases service with
  | prepared p => exact absurd hservice (hw p)
  | live language web memory =>
    simp only [Surroundings.checkFilms]
    rcases Films.check language web memory w.now genre period region key with ⟨outcome, web, memory⟩
    refine ⟨fun prepared h => by simp at h, fun v hv => ?_⟩
    cases outcome with
    | error fault => cases hv
    | ok found =>
      obtain rfl := Except.ok.inj hv
      cases found with
      | none => exact .inl rfl
      | some lines => exact .inr ⟨_, rfl⟩

theorem notes_checkFilms (hw : w.HasOwnFilms) : Notes b c (checkFilms b c w) := by
  rw [checkFilms]
  split
  · exact .of_silent (isSilent_fail _) hw
  · exact .of_silent (isSilent_fail _) hw
  · exact .of_silent (isSilent_fail _) hw
  · next genre key service _ _ hservice =>
    obtain ⟨hown, hvalue⟩ := checkFilms_own hw hservice genre (b.param "Period" "Week") (b.param "Region" "UA") key
    rcases hcheck : w.checkFilms service genre (b.param "Period" "Week") (b.param "Region" "UA") key
      with ⟨outcome, w'⟩
    rw [hcheck] at hown hvalue
    cases outcome with
    | error fault => exact .of_silent (isSilent_fail _) hown
    | ok films =>
      rcases hvalue films rfl with rfl | ⟨items, rfl⟩
      · exact .of_silent isSilent_null hown
      · dsimp only
        split
        · exact .of_silent isSilent_null hown
        · refine ⟨fun v hv => ?_, fun hnone => absurd rfl (hnone (.list items)), hown⟩
          obtain rfl : Value.list items = v := ActionResult.ok.inj (Progress.finished.inj hv)
          rfl

/-- An action records its value, if it is performed and has one, and nothing else. -/
theorem notes_perform (hw : w.HasOwnFilms) : Notes b c (perform b c w) := by
  rw [perform]
  split
  · exact .of_silent (isSilent_delay b) hw
  · exact .of_silent (click_spec b w).1 (hw.congr (click_spec b w).2.films)
  · exact .of_silent (typeText_spec b c w).1 (hw.congr (typeText_spec b c w).2.films)
  · exact .of_silent (process_spec b w).1 (hw.congr (process_spec b w).2.films)
  · exact notes_checkVideo b c hw
  · exact notes_checkFilms b c hw
  · exact .of_silent (sendChat_spec b c w).1 (hw.congr (sendChat_spec b c w).2.films)
  · exact .of_silent isSilent_null hw

end Action

/-! ## Runs -/

/-- What actions with these values have recorded: each value that is something, under the id of its action. -/
def recorded (results : List (Block × Value)) : List (String × Value) :=
  results.filterMap fun r =>
    match r.2 with
    | .null => none
    | v => some (r.1.id, v)

theorem recorded_cons (r : Block × Value) (rest : List (Block × Value)) :
    recorded (r :: rest) = recorded [r] ++ recorded rest := by
  rw [recorded, recorded, recorded, ← List.filterMap_append, List.singleton_append]

theorem noting_ofBindings (bindings : List (String × Value)) (b : Block) (v : Value) :
    (Context.ofBindings bindings).noting b.id v = .ofBindings (bindings ++ recorded [(b, v)]) := by
  rw [Context.ofBindings_append]
  cases v <;> rfl

namespace Execution

variable {meanwhile : Meanwhile}

/-- An action is performed to its end, with a value that may be nothing. -/
inductive Gives (meanwhile : Meanwhile) (b : Block) (c : Context) (w : Surroundings) :
    Value → Context → Surroundings → Prop
  | done {v : Value} : (Action.perform b c w).progress = .finished (.ok v) →
      Gives meanwhile b c w v (Action.perform b c w).context (Action.perform b c w).surroundings
  /-- A wait has no value. -/
  | waited {seconds : Float} {w' : Surroundings} : (Action.perform b c w).progress = .waiting seconds →
      meanwhile seconds (Action.perform b c w).surroundings w' →
      Gives meanwhile b c w .null (Action.perform b c w).context w'

/-- Actions are performed one after the other, with these values. -/
inductive Yields (meanwhile : Meanwhile) :
    List (Block × Value) → Context → Surroundings → Context → Surroundings → Prop
  | nil {c : Context} {w : Surroundings} : Yields meanwhile [] c w c w
  | cons {b : Block} {v : Value} {rest : List (Block × Value)} {c c₁ c₂ : Context} {w w₁ w₂ : Surroundings} :
      Gives meanwhile b c w v c₁ w₁ → Yields meanwhile rest c₁ w₁ c₂ w₂ →
      Yields meanwhile ((b, v) :: rest) c w c₂ w₂

theorem acts_iff {b : Block} {c c' : Context} {w w' : Surroundings} :
    Acts meanwhile b c w .done c' w' ↔ ∃ v, Gives meanwhile b c w v c' w' := by
  constructor
  · intro h
    cases h with
    | done hdone => exact ⟨_, .done hdone⟩
    | waited hwait hmeanwhile => exact ⟨_, .waited hwait hmeanwhile⟩
  · rintro ⟨v, h⟩
    cases h with
    | done hdone => exact .done hdone
    | waited hwait hmeanwhile => exact .waited hwait hmeanwhile

/-- All actions of a list are performed iff each of them is, with some value. -/
theorem passes_iff {actions : List Block} {c c' : Context} {w w' : Surroundings} :
    Passes meanwhile actions c w c' w' ↔
      ∃ results : List (Block × Value), results.map Prod.fst = actions ∧ Yields meanwhile results c w c' w' := by
  constructor
  · intro h
    induction h with
    | nil => exact ⟨[], rfl, .nil⟩
    | cons hacts _ ih =>
      obtain ⟨v, hgives⟩ := acts_iff.mp hacts
      obtain ⟨results, rfl, hyields⟩ := ih
      exact ⟨(_, v) :: results, rfl, .cons hgives hyields⟩
  · rintro ⟨results, rfl, h⟩
    induction h with
    | nil => exact .nil
    | cons hgives _ ih => exact .cons (acts_iff.mpr ⟨_, hgives⟩) ih

/-- Nothing that happens while a run waits puts a prepared answer in the place of the catalogue of films. -/
def KeepsFilms (meanwhile : Meanwhile) : Prop :=
  ∀ seconds w w', meanwhile seconds w w' → w.HasOwnFilms → w'.HasOwnFilms

theorem Gives.context (hkeeps : KeepsFilms meanwhile) {b : Block} {v : Value} {c c' : Context}
    {w w' : Surroundings} (hw : w.HasOwnFilms) (h : Gives meanwhile b c w v c' w') :
    c' = c.noting b.id v ∧ w'.HasOwnFilms := by
  have hnotes := Action.notes_perform b c hw
  cases h with
  | done hdone => exact ⟨hnotes.done _ hdone, hnotes.own⟩
  | waited hwait hmeanwhile =>
    exact ⟨hnotes.other fun v hv => by simp [hwait] at hv, hkeeps _ _ _ hmeanwhile hnotes.own⟩

theorem films_afterReading (s : Scenario) (ids : IdSupply) (w : Surroundings) :
    (afterReading s ids w).films = w.films := by
  rw [afterReading, reportText]
  split <;> rfl

/-- What the actions that were performed have recorded, on top of what there was. -/
theorem Yields.context (hkeeps : KeepsFilms meanwhile) {results : List (Block × Value)}
    {bindings : List (String × Value)} {c c' : Context} {w w' : Surroundings} (hw : w.HasOwnFilms)
    (h : Yields meanwhile results c w c' w') (hc : c = .ofBindings bindings) :
    c' = .ofBindings (bindings ++ recorded results) ∧ w'.HasOwnFilms := by
  induction h generalizing bindings with
  | nil => exact ⟨by rw [hc, show recorded [] = [] from rfl, List.append_nil], hw⟩
  | @cons b v rest c c₁ c₂ w w₁ w₂ hgives _ ih =>
    obtain ⟨hc₁, hw₁⟩ := hgives.context hkeeps hw
    rw [hc, noting_ofBindings] at hc₁
    obtain ⟨hc₂, hw₂⟩ := ih hw₁ hc₁
    exact ⟨by rw [hc₂, recorded_cons (b, v) rest, List.append_assoc], hw₂⟩

/-- An action of a chain starts: the ones before it were performed, with these values. -/
structure Starts (meanwhile : Meanwhile) (actions : List Block) (bindings : List (String × Value))
    (w : Surroundings) (results : List (Block × Value)) (b : Block) (c : Context) (w' : Surroundings) : Prop where
  /-- It stands behind those that were performed. -/
  place : ∃ later, actions = results.map Prod.fst ++ b :: later
  before : Yields meanwhile results (.ofBindings bindings) w c w'

/-- The ends of a list of actions: all of them give a value or none, or one of them starts that fails or meets
a fault. -/
theorem course_iff {name : String} {actions : List Block} {bindings : List (String × Value)}
    {w w' : Surroundings} {success : Bool} (h : Course meanwhile name actions (.ofBindings bindings) w success w') :
    (success = true ∧ ∃ results c w₁, results.map Prod.fst = actions ∧
        Yields meanwhile results (.ofBindings bindings) w c w₁) ∨
      (success = false ∧ ∃ results b c w₁, Starts meanwhile actions bindings w results b c w₁ ∧
        ∀ v, (Action.perform b c w₁).progress ≠ .finished (.ok v)) := by
  cases h with
  | whole hpasses =>
    obtain ⟨results, hplace, hyields⟩ := passes_iff.mp hpasses
    exact .inl ⟨rfl, results, _, _, hplace, hyields⟩
  | failed hplace hpasses hacts =>
    obtain ⟨results, rfl, hyields⟩ := passes_iff.mp hpasses
    refine .inr ⟨rfl, results, _, _, _, ⟨⟨_, hplace⟩, hyields⟩, fun v hv => ?_⟩
    cases hacts with
    | failed hfailed => cases hv.symm.trans hfailed
  | raised hplace hpasses hacts =>
    obtain ⟨results, rfl, hyields⟩ := passes_iff.mp hpasses
    refine .inr ⟨rfl, results, _, _, _, ⟨⟨_, hplace⟩, hyields⟩, fun v hv => ?_⟩
    cases hacts with
    | raised hraised => cases hv.symm.trans hraised

/-- In a run of a chain that can run and may, every action that starts finds exactly this: under each id, in
whatever letter case, the last value recorded under it among those that the run began with and, in the order of the
chain, those of the actions before it that gave a value; and as the last output the last value of all of these.
The action then records the value that it gives, if it gives one, and otherwise leaves the context as it found it.
The ends of the run are those of such actions. So nothing that other runs record in the meantime is ever seen. -/
theorem context_when_started {s : Scenario} {w : Surroundings} {blocks : List Block} {ids : IdSupply}
    (hread : Chain.read w.ids s.blocks = .ok (blocks, ids)) (hrun : Chain.IsRunnable blocks) {forced : Bool}
    (hmay : MayRun forced s blocks (afterReading s ids w)) (hw : w.HasOwnFilms) (hkeeps : KeepsFilms meanwhile)
    (bindings : List (String × Value)) :
    let w₀ := afterReading s ids w
    (∃ state w₁, start s forced bindings w = (.ok state, w₁) ∧
      ∀ success w', Finishes meanwhile state w₁ success w' →
        (success = true ∧ ∃ results c w₂, results.map Prod.fst = blocks.tail ∧
            Yields meanwhile results (.ofBindings bindings) w₀ c w₂) ∨
          (success = false ∧ ∃ results b c w₂, Starts meanwhile blocks.tail bindings w₀ results b c w₂ ∧
            ∀ v, (Action.perform b c w₂).progress ≠ .finished (.ok v))) ∧
    ∀ results b c w₁, Starts meanwhile blocks.tail bindings w₀ results b c w₁ →
      (∀ key, c.find? key = ((bindings ++ recorded results).reverse.find? fun e =>
        Text.lower e.1 = Text.lower key).map Prod.snd) ∧
      c.lastOutput = ((bindings ++ recorded results).getLast?.map Prod.snd).getD .null ∧
      Action.Notes b c (Action.perform b c w₁) := by
  intro w₀
  have hw₀ : w₀.HasOwnFilms := hw.congr (films_afterReading s ids w)
  refine ⟨?_, fun results b c w₁ hstarts => ?_⟩
  · obtain ⟨-, state, w₁, hstart, hends⟩ := (runToEnd_course hread forced bindings).2.1 ⟨hrun, hmay⟩
    exact ⟨state, w₁, hstart, fun success w' hfinishes =>
      course_iff ((hends meanwhile success w').mp hfinishes)⟩
  · obtain ⟨hc, hw₁⟩ := hstarts.before.context hkeeps hw₀ rfl
    exact ⟨fun key => hc ▸ Context.find?_ofBindings _ key, hc ▸ Context.lastOutput_ofBindings _,
      Action.notes_perform b c hw₁⟩

/-- A check of a channel. -/
def channelCheck : Block :=
  ⟨.videoCheck, "A", [("ChannelId", "c"), ("ApiKey", "k")]⟩

/-- A key that starts the check, and a text that is typed after it. -/
def announcedChain : List Block :=
  [⟨.hotkeyTrigger, "t", []⟩, channelCheck, ⟨.keyboardInput, "b", []⟩]

/-- The scenario of that chain. -/
def announced : Scenario :=
  { id := "s"
    name := "Announced"
    blocks :=
      "[\x7b\"Type\":\"HotkeyTrigger\",\"Id\":\"t\"\x7d,\x7b\"Type\":\"YouTubeCheck\",\"Id\":\"A\"," ++
        "\"Parameters\":\x7b\"ChannelId\":\"c\",\"ApiKey\":\"k\"\x7d\x7d," ++
        "\x7b\"Type\":\"KeyboardInput\",\"Id\":\"b\"\x7d]" }

theorem read_announced : Chain.read {} announced.blocks = .ok (announcedChain, {}) := by
  have h : (Chain.read {} announced.blocks).toOption = some (announcedChain, {}) := by decide +kernel
  exact eq_ok_of_toOption h

theorem perform_channelCheck {w : Surroundings} (c : Context)
    (h : w.videos = some (.prepared (.answers (.text "v")))) :
    (Action.perform channelCheck c w).progress = .finished (.ok (.text "v")) ∧
      (Action.perform channelCheck c w).context = c.record "A" (.text "v") := by
  have hchannel : channelCheck.param? "ChannelId" = some "c" := by decide +kernel
  have hkey : Action.catalogueKey? channelCheck w Settings.videoKey = some "k" := by
    rw [Action.catalogueKey?, show channelCheck.param? "ApiKey" = some "k" by decide +kernel]
    rfl
  have hperform : Action.perform channelCheck c w = Action.checkVideo channelCheck c w := rfl
  rw [hperform, Action.checkVideo, hchannel, hkey, h]
  exact ⟨rfl, rfl⟩

theorem context_when_started_announced :
    let w : Surroundings := { clock := ⟨Clock.start, 0.0⟩, videos := some (.prepared (.answers (.text "v"))) }
    let bindings : List (String × Value) := [("a", .text "0"), ("x", .text "1")]
    ∃ c w₁, Starts pausing announcedChain.tail bindings (afterReading announced {} w) [(channelCheck, .text "v")]
        ⟨.keyboardInput, "b", []⟩ c w₁ ∧
      c.find? "a" = some (.text "v") ∧ c.find? "X" = some (.text "1") ∧ c.lastOutput = .text "v" := by
  intro w bindings
  have hshape : Chain.IsRunnable announcedChain := Chain.shapeFault?_eq_none_iff.mp (by decide)
  have hkeeps : KeepsFilms pausing := fun _ _ _ h hw => hw.congr (by rw [h])
  have hvideos : (afterReading announced {} w).videos = w.videos := by
    rw [afterReading, reportText]
    split <;> rfl
  have hcheck := perform_channelCheck (.ofBindings bindings) hvideos
  have hstarts : Starts pausing announcedChain.tail bindings (afterReading announced {} w) [(channelCheck, .text "v")]
      ⟨.keyboardInput, "b", []⟩ _ _ :=
    ⟨⟨[], rfl⟩, .cons (.done hcheck.1) .nil⟩
  have hcontext := (context_when_started (w := w) read_announced hshape (.inl rfl) (fun _ h => by cases h)
    hkeeps bindings).2 _ _ _ _ hstarts
  refine ⟨_, _, hstarts, ?_, ?_, hcontext.2.1⟩
  · rw [hcontext.1]
    rfl
  · rw [hcontext.1]
    rfl

end Execution

end Deskhand
