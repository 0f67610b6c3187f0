import Deskhand.Proofs.Chat.Command
import Deskhand.Proofs.Chat.Pairing
import Deskhand.Proofs.Schedule.Attended
import Deskhand.Proofs.Schedule.Standing

/-!
# From a message to its runs

A message of the chat passes through the bot, which hands commands on to who listens to it, and the scheduler looks
the command up in its roster and starts a run of each scenario that it finds. While the scheduler runs it listens to
the bot once, and while the generation of a load may run the roster is that of the scenarios that were loaded. So a
message starts one run of each of them that waits for it, in their order, and no other. Main statements:

* `command?_eq_some_iff_waitsFor`: which scenarios wait for a command;
* `runs_startAll`, `foldl_take_command`: what a list of ids and a command start;
* `Standing.IsHeard.step`: when the scheduler listens to the bot;
* `Core.Serves.move`: what is loaded while a generation may run;
* `IsNew.answers`: what a message starts in every history.
-/

namespace Deskhand

/-! ## Who waits for a command -/

/-- Whether the leading block of a scenario is a trigger that waits for a command. -/
def Scenario.waitsFor (s : Scenario) (name : String) : Bool :=
  s.lead?.any fun b => b.kind == .chatCommandTrigger && Trigger.command b == name && name != ""

namespace Place

/-- A place is that of a command iff the leading block is a trigger that waits for one. -/
theorem ofBlocks_eq_command_iff {name wanted : String} {blocks : List Block} :
    (∃ description, ofBlocks name blocks = .command wanted description) ↔
      blocks.head?.any (fun b => b.kind == .chatCommandTrigger && Trigger.command b == wanted && wanted != "")
        = true := by
  cases blocks with
  | nil => simp [ofBlocks]
  | cons b rest =>
    rcases b with ⟨kind, id, parameters⟩
    rw [ofBlocks, List.head?_cons, Option.any_some]
    cases kind <;> simp only [Trigger.ofBlock?, Trigger.freshState?, Option.map_some, Option.map_none, ofTrigger]
    case hotkeyTrigger => split <;> simp
    case chatCommandTrigger =>
      by_cases hempty : Trigger.command ⟨.chatCommandTrigger, id, parameters⟩ = ""
      · simp [hempty]
      · simp [hempty]
        rintro rfl
        exact hempty
    all_goals simp

end Place

/-- A scenario waits for the command of its leading block. -/
theorem Scenario.command?_eq_some_iff_waitsFor {s : Scenario} {name : String} :
    s.command? = some name ↔ s.waitsFor name = true := by
  simp only [command?_eq_some_iff, menuLine?_eq_some_iff, place?, waitsFor, lead?]
  cases ((Chain.read {} s.blocks).map fun r => r.1.map Block.bare).toOption with
  | none => simp
  | some blocks =>
    rw [Option.map_some, Option.bind_some]
    simp only [Option.some.injEq]
    exact Place.ofBlocks_eq_command_iff

/-- What is delivered of a message of the bound chat that binds no chat. -/
theorem ChatBot.Scene.deliveries_of_bound {s : Scene} {text : String} {chat : Int} (h : ¬s.IsPairing text)
    (hchat : s.bot.chatId = some chat) (now : Option Instant) :
    (s.handle text chat now).deliveries =
      if Text.lower (Text.trim text) = listCommand then []
      else s.bot.subscribers.map fun name => .command name (Text.trim text) chat := by
  rw [handle, receive, if_neg (mt isPairing_iff.mp h), if_neg (not_not.mpr hchat)]
  by_cases hlist : Text.lower (Text.trim text) = listCommand
  · rw [if_pos hlist, if_pos (beq_iff_eq.mpr hlist)]
  · rw [if_neg hlist, if_neg (by simpa using hlist)]

namespace Entries

variable {κ ν : Type} [DecidableEq κ]

theorem find?_map_value {μ : Type} (f : ν → μ) (entries : Entries κ ν) (key : κ) :
    find? (entries.map fun entry => (entry.1, f entry.2)) key = (find? entries key).map f := by
  induction entries with
  | nil => rfl
  | cons entry rest ih =>
    rw [List.map_cons, find?, find?, ih]
    split <;> rfl

/-- What is listed under distinct keys is found under them. -/
theorem find?_map_of_nodup {α : Type} {key : α → κ} {items : List α} (h : (items.map key).Nodup) (value : α → ν)
    {a : α} (ha : a ∈ items) : find? (items.map fun a => (key a, value a)) (key a) = some (value a) := by
  induction items with
  | nil => cases ha
  | cons b rest ih =>
    obtain ⟨hb, hrest⟩ := List.nodup_cons.mp h
    rw [List.map_cons, find?]
    by_cases hkey : key b = key a
    · rcases List.mem_cons.mp ha with rfl | hmem
      · rw [if_pos rfl]
      · exact absurd (hkey ▸ List.mem_map_of_mem hmem) hb
    · rw [if_neg hkey]
      refine ih hrest ((List.mem_cons.mp ha).resolve_left ?_)
      rintro rfl
      exact hkey rfl

end Entries

namespace Scheduler

/-! ## What is started -/

variable {s t : Scheduler} {e : Event}

/-- A run of a loaded scenario that was just registered. -/
structure IsFresh (s : Scheduler) (run : Run) : Prop where
  load : run.load = some s.loads
  bindings : run.bindings = []
  rest : run.rest = none

/-- A list of ids starts a run of each loaded scenario among them, in order. -/
theorem runs_startAll (s : Scheduler) (ids : List String) :
    ∃ started, (s.startAll ids).runs = s.runs ++ started ∧
      started.map Run.scenario = ids.filterMap s.loaded.find? ∧
      started.map Run.number = List.range' s.numbered started.length ∧ ∀ run ∈ started, IsFresh s run := by
  induction ids generalizing s with
  | nil => exact ⟨[], by simp [startAll]⟩
  | cons id rest ih =>
    obtain ⟨started, hruns, hscenarios, hnumbers, hfresh⟩ := ih (s.spawnLoaded id [])
    have hstart : s.startAll (id :: rest) = (s.spawnLoaded id []).startAll rest := rfl
    rw [hstart, hruns]
    cases hfind : s.loaded.find? id with
    | none =>
      have hspawn : s.spawnLoaded id [] = s := by rw [spawnLoaded, hfind]
      rw [hspawn] at hscenarios hnumbers hfresh ⊢
      exact ⟨started, rfl, by rw [hscenarios, List.filterMap_cons, hfind], hnumbers, hfresh⟩
    | some scenario =>
      have hspawn : s.spawnLoaded id [] = (s.spawn scenario (some s.loads) []).2 := by rw [spawnLoaded, hfind]
      rw [hspawn] at hscenarios hnumbers hfresh ⊢
      let run : Run := { number := s.numbered, scenario := scenario, load := some s.loads, bindings := [] }
      refine ⟨run :: started, by simp [spawn, draw, appoint, run], ?_, ?_, ?_⟩
      · rw [List.map_cons, hscenarios, List.filterMap_cons, hfind]
        rfl
      · rw [List.map_cons, hnumbers, List.length_cons, List.range'_succ]
        rfl
      · intro r hr
        rcases List.mem_cons.mp hr with rfl | hr
        · exact ⟨rfl, rfl, rfl⟩
        · exact ⟨(hfresh r hr).load, (hfresh r hr).bindings, (hfresh r hr).rest⟩

/-- A command that is handed to everyone who listens, the scheduler once among them, comes to it once. -/
theorem foldl_take_command (s : Scheduler) {names : List String} (text : String) (chat : Int)
    (h : names.count ownName = 1) :
    (names.map fun name => Delivery.command name text chat).foldl take s = (s.onCommand text).2 := by
  have hothers : ∀ (others : List String) (u : Scheduler), ownName ∉ others →
      (others.map fun name => Delivery.command name text chat).foldl take u = u := by
    intro others u hout
    induction others with
    | nil => rfl
    | cons name rest ih =>
      obtain ⟨hne, hrest⟩ := not_or.mp (mt List.mem_cons.mpr hout)
      have htake : u.take (.command name text chat) = u := by
        rw [take, if_neg (by simpa using Ne.symm hne)]
      rw [List.map_cons, List.foldl_cons, htake, ih hrest]
  have hmem : ownName ∈ names := List.count_pos_iff.mp (by omega)
  obtain ⟨front, back, rfl⟩ := List.append_of_mem hmem
  rw [List.count_append, List.count_cons_self] at h
  have hfront : ownName ∉ front := List.count_eq_zero.mp (by omega)
  have hback : ownName ∉ back := List.count_eq_zero.mp (by omega)
  rw [List.map_append, List.foldl_append, hothers front s hfront, List.map_cons, List.foldl_cons,
    hothers back _ hback, take, if_pos (beq_self_eq_true ownName)]

/-- A chat that is bound starts no run. -/
theorem runs_foldl_take_paired (s : Scheduler) (names : List String) (chat : Int) :
    ((names.map fun name => Delivery.paired name chat).foldl take s).runs = s.runs := by
  rw [List.foldl_map]
  refine foldl_keep runs (fun u name => ?_) s names
  rw [take]
  split
  · rcases onPaired_cases u chat with ⟨_, h⟩ | ⟨_, h⟩ <;> rw [h]
    rfl
  · rfl

/-! ## Who listens -/

/-- A scheduler that runs is told of commands once, and one that does not run is not. -/
def Standing.IsHeard (st : Standing) : Prop :=
  ∀ names, st.listeners = some names → names.count ownName = st.isRunning.toNat

/-- Whatever else changes in the surroundings in a history, it does not change who listens to the bot. -/
def KeepsListeners : Scheduler → List Event → Prop
  | _, [] => True
  | s, e :: rest =>
    (∀ scene, e = .scene scene → scene.around.listeners? = s.around.listeners?) ∧ KeepsListeners (s.after e) rest

theorem Standing.IsHeard.step {st st' : Standing} (h : st.IsHeard) (hstep : Step e st st')
    (hscene : ∀ scene, e = .scene scene → scene.around.listeners? = st.listeners) : st'.IsHeard := by
  cases hstep with
  | start hrunning =>
    intro names hnames
    obtain ⟨old, hold, rfl⟩ := Option.map_eq_some_iff.mp hnames
    have hcount : old.count ownName = 0 := by simpa [hrunning] using h old hold
    have hout : old.contains ownName = false := by simpa using List.count_eq_zero.mp hcount
    rw [hout, if_neg Bool.false_ne_true, List.count_append, hcount]
    simp
  | stop hrunning =>
    intro names hnames
    obtain ⟨old, hold, rfl⟩ := Option.map_eq_some_iff.mp hnames
    have hcount : old.count ownName = 1 := by simpa [hrunning] using h old hold
    rw [List.count_erase_self, hcount]
    rfl
  | turn hrunning hlisteners _ =>
    intro names hnames
    rw [hrunning]
    exact h names (hlisteners ▸ hnames)
  | scene =>
    intro names hnames
    exact h names ((hscene _ rfl).symm.trans hnames)
  | _ => exact h

theorem isHeard_afterAll {es : List Event} (h : s.standing.IsHeard) (hes : KeepsListeners s es) :
    (s.afterAll es).standing.IsHeard := by
  induction es generalizing s with
  | nil => exact h
  | cons e rest ih => exact ih (h.step (step_after s e) hes.1) hes.2

/-! ## What is loaded -/

namespace Core

/-- While a generation may run, scenarios are loaded and in the roster as they were read. -/
structure Serves (g : Nat) (scenarios : List Scenario) (c : Core) : Prop where
  reached : g ≤ c.generations
  roster : c.generation = some g → c.roster = Roster.ofScenarios scenarios
  loaded : c.generation = some g →
    c.loaded.map (fun entry => (entry.1, entry.2.timeless)) =
      scenarios.map fun scenario => (scenario.id, scenario.timeless)

theorem Serves.move {g : Nat} {scenarios : List Scenario} {c d : Core} (h : c.Serves g scenarios)
    (hmove : Move e c d) : d.Serves g scenarios := by
  have hlater : (some (c.generations + 1) : Option Nat) ≠ some g := by
    have hreached := h.reached
    simp only [ne_eq, Option.some.injEq]
    omega
  cases hmove with
  | stamp _ _ _ =>
    refine ⟨h.reached, h.roster, fun hg => ?_⟩
    rw [← h.loaded hg, List.map_map]
    refine List.map_congr_left fun entry _ => ?_
    simp only [Function.comp_apply]
    split <;> rfl
  | clear _ _ => exact ⟨h.reached, (nomatch ·), (nomatch ·)⟩
  | load _ _ _ _ => exact ⟨Nat.le_succ_of_le h.reached, fun hg => absurd hg hlater, fun hg => absurd hg hlater⟩
  | loadNothing _ _ => exact ⟨Nat.le_succ_of_le h.reached, fun hg => absurd hg hlater, fun hg => absurd hg hlater⟩
  | _ => exact ⟨h.reached, h.roster, h.loaded⟩

theorem Serves.moves {g : Nat} {scenarios : List Scenario} {c d : Core} (h : c.Serves g scenarios)
    (hmoves : Moves e c d) : d.Serves g scenarios := by
  induction hmoves with
  | refl => exact h
  | tail _ hmove ih => exact ih.move hmove

end Core

/-- Scenarios stay loaded as they were read, in all events that follow. -/
theorem Core.Serves.leads {g : Nat} {scenarios : List Scenario} (h : s.core.Serves g scenarios)
    (hs : s.core.Sound) (hst : Leads s t) : t.core.Serves g scenarios :=
  hst.core_induction hs h (fun _ _ hc => ⟨hc.reached, hc.roster, hc.loaded⟩) fun _ _ _ _ hmove hc => hc.move hmove

theorem generation_followClearing (s : Scheduler) : s.followClearing.generation = s.generation := by
  have hleave : ∀ n kind, (s.leaveClearing n kind).core.generation = s.core.generation := by
    intro n kind
    rw [core_leaveClearing]
    cases kind with
    | load => rfl
    | stop =>
      dsimp only
      split <;> rfl
  rcases followClearing_cases s with h | ⟨c, -, -, h⟩ <;> rw [h]
  exact hleave _ _

/-- A load that has ended without a fault and has read scenarios leaves them loaded, for a generation of its own. -/
theorem EndsLoad.serves {n : Nat} {scenarios : List Scenario} (hs : Reachable s) (h : s.EndsLoad e n)
    (hlist : s.ask .list (s.store.list true) = .ok scenarios) :
    (s.after e).generation = some (s.generations + 1) ∧
      (s.after e).core.Serves (s.generations + 1) scenarios := by
  obtain ⟨hcall, hafter⟩ := h.finishes hs.sound
  obtain ⟨added, -, hload⟩ := core_load hlist
  have hfinished : (s.finishLoading n).core = (s.load.core.endCall n).release := core_release _
  rw [hload] at hfinished
  have hnodup := Store.nodup_list hs.sound.keyed (eq_of_ask hlist)
  have hempty : s.roster = {} := (hs.sound.quiet _ hcall rfl).2
  have hserves : (s.finishLoading n).core.Serves (s.generations + 1) scenarios := by
    rw [hfinished]
    refine ⟨Nat.le_refl _, fun _ => ?_, fun _ => ?_⟩
    · show s.roster.enterAll scenarios = _
      rw [hempty]
      exact Roster.enterAll_eq hnodup
    · show (kept scenarios).map _ = _
      rw [kept_of_nodup hnodup, List.map_map]
      rfl
  have hmoves : Moves e (s.finishLoading n).core (s.finishLoading n).followClearing.endDrained.core :=
    (moves_followClearing _).trans (moves_endDrained _)
  rw [hafter]
  constructor
  · calc (s.finishLoading n).followClearing.generation
        = (s.finishLoading n).generation := generation_followClearing _
      _ = some (s.generations + 1) := congrArg Core.generation hfinished
  · exact hserves.moves hmoves

/-! ## One message -/

/-- A message is a command for a scheduler that runs: it comes from the bound chat, binds no chat, and does not ask
for the list of commands. -/
structure IsCommand (t : Scheduler) (b : ChatBot) (text : String) (chat : Int) : Prop where
  isBound : b.chatId = some chat
  isOther : ¬ChatBot.Scene.IsPairing ⟨b, t.around.network, t.now⟩ text
  isNoList : Text.lower (Text.trim text) ≠ "/commands"

/-- A message starts what its command starts, or nothing. -/
theorem isCommand_cases {b : ChatBot} (hb : t.around.bot? = some b) (hheard : b.subscribers.count ownName = 1)
    (text : String) (chat : Int) :
    (t.IsCommand b text chat ∧ ∃ around, (t.onMessage text chat).2 =
        { t with around := around }.startAll (t.roster.onCommand (Chat.normalCommand text))) ∨
      ¬t.IsCommand b text chat ∧ (t.onMessage text chat).2.runs = t.runs := by
  let scene : ChatBot.Scene := ⟨b, t.around.network, t.now⟩
  obtain ⟨around, hmessage⟩ : ∃ around, (t.onMessage text chat).2 =
      (scene.handle text chat none).deliveries.foldl take { t with around := around } := by
    rw [onMessage, hb]
    exact ⟨_, rfl⟩
  rw [hmessage]
  by_cases hpairing : scene.IsPairing text
  · rw [(ChatBot.Scene.handle_of_isPairing hpairing chat none).2]
    exact .inr ⟨fun h => h.isOther hpairing, runs_foldl_take_paired _ _ chat⟩
  · by_cases hchat : b.chatId = some chat
    · rw [ChatBot.Scene.deliveries_of_bound hpairing hchat]
      by_cases hlist : Text.lower (Text.trim text) = "/commands"
      · rw [if_pos (show _ = ChatBot.listCommand from hlist)]
        exact .inr ⟨fun h => h.isNoList hlist, rfl⟩
      · rw [if_neg (show ¬_ = ChatBot.listCommand from hlist)]
        refine .inl ⟨⟨hchat, hpairing, hlist⟩, around, ?_⟩
        refine (foldl_take_command _ (Text.trim text) chat hheard).trans ?_
        rw [onCommand, Chat.normalCommand_trim]
    · rw [ChatBot.Scene.handle_of_stranger hpairing hchat]
      exact .inr ⟨fun h => hchat h.isBound, rfl⟩

/-- While the generation of a load may run, the ids of some of its scenarios start one run of each of them. -/
theorem startAll_of_serves {g : Nat} {scenarios : List Scenario} (h : t.core.Serves g scenarios)
    (hg : t.generation = some g) (hnodup : (scenarios.map Scenario.id).Nodup) (waits : Scenario → Bool) :
    ∃ started, (t.startAll ((scenarios.filter waits).map Scenario.id)).runs = t.runs ++ started ∧
      started.map (·.scenario.timeless) = (scenarios.filter waits).map Scenario.timeless ∧
      started.map Run.number = List.range' t.numbered started.length ∧ ∀ run ∈ started, IsFresh t run := by
  obtain ⟨started, hruns, hscenarios, hnumbers, hfresh⟩ := runs_startAll t ((scenarios.filter waits).map Scenario.id)
  refine ⟨started, hruns, ?_, hnumbers, hfresh⟩
  calc started.map (·.scenario.timeless)
      = (started.map Run.scenario).map Scenario.timeless := by rw [List.map_map]; rfl
    _ = ((scenarios.filter waits).filterMap fun scenario => t.loaded.find? scenario.id).map Scenario.timeless := by
      rw [hscenarios, List.filterMap_map]; rfl
    _ = (scenarios.filter waits).map Scenario.timeless := ?_
  rw [List.map_filterMap]
  refine (List.filterMap_congr fun scenario hmem => ?_).trans (congrFun List.filterMap_eq_map _)
  have hloaded : t.loaded.map (fun entry => (entry.1, entry.2.timeless)) =
      scenarios.map fun scenario => (scenario.id, scenario.timeless) := h.loaded hg
  rw [← Entries.find?_map_value, hloaded]
  exact Entries.find?_map_of_nodup hnodup Scenario.timeless (List.mem_of_mem_filter hmem)

/-- While the generation of a load may run, the scenarios that wait for a command are those which it read. -/
theorem onCommand_of_serves {g : Nat} {scenarios : List Scenario} (h : t.core.Serves g scenarios)
    (hg : t.generation = some g) (name : String) :
    t.roster.onCommand name = (scenarios.filter (·.waitsFor name)).map Scenario.id := by
  have hroster : t.roster = Roster.ofScenarios scenarios := h.roster hg
  rw [hroster, Roster.onCommand, Roster.ofScenarios, Roster.find?_lists, Roster.idsFor]
  refine congrArg _ (List.filter_congr fun scenario _ => ?_)
  rw [Bool.eq_iff_iff, beq_iff_eq, Scenario.command?_eq_some_iff_waitsFor]

/-- In every history of a new scheduler that does not listen to the bot yet, once a load has ended without a fault
and has read scenarios, and as long as the scheduler runs and the generation of that load may run: a message that is
a command starts one run of each of the scenarios whose leading block is a trigger that waits for the command, in
their order, each with a number of its own and nothing in its context. Any other message starts no run. -/
theorem IsNew.answers {new : Scheduler} (hnew : IsNew new)
    (hbot : ∀ b, new.around.bot? = some b → ownName ∉ b.subscribers) {before later : List Event} {e : Event}
    {n : Nat} {scenarios : List Scenario} (hes : ∀ e' ∈ before ++ e :: later, e'.Fits)
    (hkeeps : KeepsListeners new (before ++ e :: later)) (hload : (new.afterAll before).EndsLoad e n)
    (hlist : (new.afterAll before).ask .list ((new.afterAll before).store.list true) = .ok scenarios)
    (hrunning : (new.afterAll (before ++ e :: later)).isRunning = true)
    (hgeneration : (new.afterAll (before ++ e :: later)).generation =
      ((new.afterAll before).after e).generation) :
    let t := new.afterAll (before ++ e :: later)
    ∀ b, t.around.bot? = some b → ∀ text chat,
      ∃ started, (t.after (.message text chat)).runs = t.runs ++ started ∧
        (t.IsCommand b text chat →
          started.map (·.scenario.timeless) =
              (scenarios.filter (·.waitsFor (Chat.normalCommand text))).map Scenario.timeless ∧
            started.map Run.number = List.range' t.numbered started.length ∧ ∀ run ∈ started, IsFresh t run) ∧
        (¬t.IsCommand b text chat → started = []) := by
  intro t b hb text chat
  have hs : Reachable (new.afterAll before) :=
    hnew.reachable.leads ⟨before, fun e' he' => hes e' (List.mem_append_left _ he'), rfl⟩
  obtain ⟨hnext, hserves⟩ := hload.serves hs hlist
  have hnodup := Store.nodup_list hs.sound.keyed (eq_of_ask hlist)
  have ht : t = ((new.afterAll before).after e).afterAll later := by
    rw [show t = _ from afterAll_append new before (e :: later), afterAll_cons]
  have hloaded : t.core.Serves ((new.afterAll before).generations + 1) scenarios := by
    refine hserves.leads (hs.after (hes e (by simp))).sound ⟨later, fun e' he' => hes e' ?_, ht.symm⟩
    exact List.mem_append_right _ (List.mem_cons_of_mem _ he')
  have hunheard : new.standing.IsHeard := by
    intro names hnames
    obtain ⟨b₀, hb₀, rfl⟩ := Option.map_eq_some_iff.mp hnames
    rw [show new.standing.isRunning = false from hnew.isRunning]
    exact List.count_eq_zero.mpr (hbot b₀ hb₀)
  have hheard : b.subscribers.count ownName = 1 := by
    have hcount := isHeard_afterAll hunheard hkeeps b.subscribers (congrArg (Option.map ChatBot.subscribers) hb)
    rwa [show t.standing.isRunning = true from hrunning] at hcount
  obtain ⟨hcommand, around, hmessage⟩ | ⟨hother, hmessage⟩ := isCommand_cases hb hheard text chat
  · obtain ⟨started, hruns, hscenarios, hnumbers, hfresh⟩ := startAll_of_serves
      (t := { t with around := around }) hloaded (hgeneration.trans hnext) hnodup
      (·.waitsFor (Chat.normalCommand text))
    refine ⟨started, ?_, fun _ => ⟨hscenarios, hnumbers, fun run hrun => ?_⟩, fun hnot => absurd hcommand hnot⟩
    · rw [after, hmessage, onCommand_of_serves hloaded (hgeneration.trans hnext)]
      exact hruns
    · exact ⟨(hfresh run hrun).load, (hfresh run hrun).bindings, (hfresh run hrun).rest⟩
  · exact ⟨[], by rw [after, hmessage, List.append_nil], fun hcommand => absurd hcommand hother, fun _ => rfl⟩

/-- A new scheduler with a bot that is bound to a chat, over an active scenario that waits for a command. -/
def attentive : Scheduler :=
  { ofRows [spokenRow] (some { isConfigured := true, chatId := some 5 }) with
    store := { rows := [spokenRow], saved := some { chatId := some 5 } } }

theorem answers_attentive :
    ∃ run, ((attentive.afterAll [.start, .alarm (.call 0)]).after (.message " /DO@helper it" 5)).runs = [run] ∧
      run.scenario.id = "a" := by
  let scenario : Scenario := { id := "a", name := "Spoken", isActive := true, blocks := spokenRow.blocks }
  have hnew : IsNew attentive := ⟨rfl, (isNew_ofRows (by decide) none).keyed, rfl, rfl, rfl⟩
  have hbot : ∀ b, attentive.around.bot? = some b → ownName ∉ b.subscribers := by
    rintro b hb
    obtain rfl := Option.some.inj hb
    simp
  have hcall : ∃ call ∈ (attentive.afterAll [.start]).calls, call.number = 0 ∧ call.kind = .load := by decide +kernel
  have hread : ((attentive.afterAll [.start]).ask .list ((attentive.afterAll [.start]).store.list true)).toOption =
      some [scenario] := by decide +kernel
  -- what the history comes to is worked out once
  have hfacts : (fun t : Scheduler => (∀ call ∈ t.calls, call.number ≠ 0) ∧ 0 ∉ t.failed.map Prod.fst ∧
      t.runs.length = 0 ∧ t.isRunning = true ∧
      t.around.bot?.map (fun b => (b.chatId, b.pairing)) = some (some 5, none))
        (attentive.afterAll [.start, .alarm (.call 0)]) := by decide +kernel
  obtain ⟨hover, hnofault, hruns, hrunning, hbound⟩ := hfacts
  have hruns := List.length_eq_zero_iff.mp hruns
  have hload : (attentive.afterAll [.start]).EndsLoad (.alarm (.call 0)) 0 := ⟨hcall, hover, hnofault⟩
  have hwaits : scenario.waitsFor (Chat.normalCommand " /DO@helper it") = true := by decide +kernel
  have hnolist : Text.lower (Text.trim " /DO@helper it") ≠ "/commands" := by decide +kernel
  have hkeeps : KeepsListeners attentive ([.start] ++ .alarm (.call 0) :: []) := by simp [KeepsListeners]
  obtain ⟨b, hb, hchat⟩ := Option.map_eq_some_iff.mp hbound
  obtain ⟨hchat, hpairing⟩ := Prod.mk.inj hchat
  have hcommand : (attentive.afterAll [.start, .alarm (.call 0)]).IsCommand b " /DO@helper it" 5 := by
    refine ⟨hchat, ?_, hnolist⟩
    rintro ⟨p, hp, -⟩
    cases hpairing.symm.trans hp
  obtain ⟨started, hstarted, hscenarios, -⟩ := hnew.answers hbot (by simp [Event.Fits]) hkeeps hload
    (eq_ok_of_toOption hread) hrunning rfl b hb " /DO@helper it" 5
  obtain ⟨hscenarios, -⟩ := hscenarios hcommand
  have hone : [scenario].filter (·.waitsFor (Chat.normalCommand " /DO@helper it")) = [scenario] :=
    List.filter_eq_self.mpr fun s hs => List.mem_singleton.mp hs ▸ hwaits
  rw [hone, List.map_singleton] at hscenarios
  obtain ⟨run, rfl, hrun⟩ := List.map_eq_singleton_iff.mp hscenarios
  exact ⟨run, hstarted.trans (congrArg (· ++ [run]) hruns), congrArg Scenario.id hrun⟩

end Scheduler

end Deskhand
