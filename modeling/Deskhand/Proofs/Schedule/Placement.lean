import Deskhand.Proofs.Run.Course
import Deskhand.Proofs.Schedule.Generations
import Deskhand.Proofs.Schedule.Rosters

/-!
# Where scenarios are after a load

A load ends at its own alarm, as long as it meets no fault (`EndsLoad.finishes`). Whatever was loaded before is
over by then, so that what waits for what is decided by the active scenarios of the store alone. Main statements,
for a load that ends in a reachable state:

* `EndsLoad.laidOut`: every scenario waits at its place and nowhere else;
* `EndsLoad.publishes`: the menu that the bot is handed, and what of it is published;
* `EndsLoad.alike`: what another scheduler has before makes no difference;
* `EndsLoad.placement`: all of this.
-/

namespace Deskhand

namespace Execution

/-- Reading the blocks of a scenario leaves the chat as it is. -/
theorem chat_blocksOf (s : Scenario) (w : Surroundings) :
    (blocksOf s w).2.chat = w.chat ∧ (blocksOf s w).2.network = w.network := by
  have hreport : (reportText s.blocks w).chat = w.chat ∧ (reportText s.blocks w).network = w.network := by
    rw [reportText]
    split <;> exact ⟨rfl, rfl⟩
  rw [blocksOf]
  split <;> exact hreport

end Execution

namespace Scheduler

/-! ## The chat while scenarios are taken in -/

theorem chat_setUp (generation : Nat) (s : Scheduler) (scenario : Scenario) :
    (setUp generation s scenario).around.chat = s.around.chat ∧
      (setUp generation s scenario).around.network = s.around.network := by
  have hblocks := Execution.chat_blocksOf scenario s.around
  rcases hr : Execution.blocksOf scenario s.around with ⟨outcome, around⟩
  rw [hr] at hblocks
  cases outcome with
  | error fault => rw [setUp, hr]; exact hblocks
  | ok blocks =>
    rw [setUp, hr]
    dsimp only
    cases Place.ofBlocks scenario.name blocks with
    | idle why => cases why <;> exact hblocks
    | _ => exact hblocks

theorem chat_foldl_setUp (generation : Nat) (scenarios : List Scenario) (s : Scheduler) :
    (scenarios.foldl (setUp generation) s).around.chat = s.around.chat ∧
      (scenarios.foldl (setUp generation) s).around.network = s.around.network := by
  have hkeep := foldl_keep (fun s : Scheduler => (s.around.chat, s.around.network))
    (fun s scenario => Prod.ext_iff.mpr (chat_setUp generation s scenario)) s scenarios
  exact Prod.ext_iff.mp hkeep

/-- What of a menu is published. -/
def published (menu : ChatMenu) : ChatMenu :=
  menu.filter fun c => Chat.isMenuName c.1

/-- The bot is handed the menu of the roster, and what a menu can hold of it is published. -/
theorem publishMenu_spec {s : Scheduler} {b : ChatBot} (hb : s.around.bot? = some b)
    (hconf : b.isConfigured = true) (hcut : ∀ c ∈ s.roster.menu, Chat.menuDescription c.2 = c.2) :
    s.publishMenu.around.bot? = some { b with
        commands := s.roster.menu, menu := published s.roster.menu } ∧
      s.publishMenu.around.network.menus = s.around.network.menus ++
        if s.around.network.fails .publishMenu then [] else [published s.roster.menu] := by
  have hcut : (published s.roster.menu).map (fun c => (c.1, Chat.menuDescription c.2)) =
      published s.roster.menu := by
    refine (List.map_congr_left fun c hc => ?_).trans (List.map_id _)
    rw [hcut c (List.mem_filter.mp hc).1, id]
  rw [publishMenu, hb]
  dsimp only
  rw [if_pos hconf]
  cases hfails : s.around.network.fails .publishMenu with
  | true =>
    simp only [ChatBot.publish, hconf, hfails]
    exact ⟨rfl, (List.append_nil _).symm⟩
  | false =>
    simp only [ChatBot.publish, hconf, hfails]
    refine ⟨rfl, ?_⟩
    show _ ++ [(published s.roster.menu).map fun c => (c.1, Chat.menuDescription c.2)] = _
    rw [hcut]
    rfl

/-- A load hands the bot the menu of its roster, once the scenarios are taken in. -/
theorem load_publishes {s : Scheduler} {scenarios : List Scenario}
    (hlist : s.ask .list (s.store.list true) = .ok scenarios) {b : ChatBot} (hb : s.around.bot? = some b)
    (hconf : b.isConfigured = true) (hcut : ∀ c ∈ s.load.roster.menu, Chat.menuDescription c.2 = c.2) :
    s.load.around.bot? = some { b with
        commands := s.load.roster.menu, menu := published s.load.roster.menu } ∧
      s.load.around.network.menus = s.around.network.menus ++
        if s.around.network.fails .publishMenu then [] else [published s.load.roster.menu] := by
  obtain ⟨hchat, hnetwork⟩ := chat_foldl_setUp (s.generations + 1) scenarios
    { s.renewed with loaded := kept scenarios, loads := s.loads + 1 }
  generalize hu : scenarios.foldl (setUp (s.generations + 1))
    { s.renewed with loaded := kept scenarios, loads := s.loads + 1 } = u at hchat hnetwork
  have hload : s.load = { u.publishMenu with lastReload := some u.publishMenu.now } := by
    rw [load_of_ok hlist, ← hu]
    rfl
  have hroster : s.load.roster = u.roster := by
    rw [hload]
    exact congrArg Core.roster (core_publishMenu u)
  have hbot : u.around.bot? = some b := by
    rw [Surroundings.bot?, hchat]
    exact hb
  have haround : s.load.around = u.publishMenu.around := by rw [hload]
  have hnetwork : u.around.network = s.around.network := hnetwork
  rw [hroster] at hcut
  rw [haround, hroster, ← hnetwork]
  exact publishMenu_spec hbot hconf hcut

/-! ## The end of a load -/

/-- With an event a load ends, and it has met no fault. -/
structure EndsLoad (s : Scheduler) (e : Event) (n : Nat) : Prop where
  isUnderWay : s.core.IsUnderWay n
  isOver : ∀ call ∈ (s.after e).calls, call.number ≠ n
  noFault : n ∉ (s.after e).failed.map Prod.fst

/-- A load is under way or has met a fault. -/
def Core.IsOpen (n : Nat) (c : Core) : Prop :=
  c.IsUnderWay n ∨ n ∈ c.failed.map Prod.fst

/-- A load goes on, or ends with a fault, as long as the event is not its alarm. -/
theorem Core.IsOpen.move {e : Event} {c d : Core} {n : Nat} (h : c.IsOpen n) (hs : c.Sound)
    (he : e ≠ .alarm (.call n)) (hmove : Move e c d) : d.IsOpen n := by
  rcases h with hload | hfault
  · rcases hload.move hs hmove with hgoes | hfails | ⟨hown, -⟩
    · exact .inl hgoes
    · exact .inr hfails
    · exact absurd hown he
  · exact .inr (failed_of_move hmove hfault)

theorem EndsLoad.not_open {s : Scheduler} {e : Event} {n : Nat} (h : s.EndsLoad e n) :
    ¬(s.after e).core.IsOpen n := by
  rintro (⟨call, hcall, hn, -⟩ | hfault)
  · exact h.isOver call hcall hn
  · exact h.noFault hfault

/-- A load that ends without a fault ends at its alarm, once it has waited for its moment. -/
theorem EndsLoad.finishes {s : Scheduler} {e : Event} {n : Nat} (hs : s.core.Sound) (h : s.EndsLoad e n) :
    ⟨n, .load, .settling⟩ ∈ s.calls ∧ s.after e = (s.finishLoading n).followClearing.endDrained := by
  have he : e = .alarm (.call n) := by
    by_contra hne
    have hopen : s.core.IsOpen n := .inl h.isUnderWay
    exact h.not_open (after_induction hs hopen (fun _ _ => hopen) fun _ _ hsound hmove hc =>
      hc.move hsound hne hmove)
  subst he
  obtain ⟨⟨m, kind, stage⟩, hcall, rfl, rfl⟩ := h.isUnderWay
  have hfind : s.calls.find? (·.number == m) = some ⟨m, .load, stage⟩ := find?_number hs.callNumbers hcall
  by_cases hstage : stage = .settling
  · subst hstage
    have hwake : s.wakeCall m = s.finishLoading m := by rw [wakeCall, hfind]
    exact ⟨hcall, by rw [after, ring, handle, hwake]⟩
  · -- at any other stage its alarm does nothing that another event could not do as well
    have hwake : Moves .reload s.core (s.wakeCall m).core := by
      refine moves_wakeCall hs m fun call hcall' hn hlate => ?_
      have heq := hs.number_inj hcall' hcall hn
      rw [heq] at hlate
      rcases hlate with hsettling | ⟨numbers, hdraining⟩
      · exact absurd hsettling hstage
      · have hsuits := hs.kinds _ hcall
        rw [show stage = .draining numbers from hdraining] at hsuits
        cases hsuits
    have hring : Moves .reload s.core (s.ring (.call m)).core :=
      (hwake.trans (moves_followClearing _)).trans (moves_endDrained _)
    have hopen : s.core.IsOpen m := .inl h.isUnderWay
    exact absurd (hring.induction hs hopen fun _ _ hsound hmove hc => hc.move hsound (by simp) hmove)
      h.not_open

/-! ## What a load leaves -/

/-- Scenarios wait where they belong. -/
structure IsLaidOut (scenarios : List Scenario) (t : Scheduler) : Prop where
  /-- Under each hotkey are those that wait for it, in their order; the hotkeys are in the order of their first
  scenarios. -/
  hotkeys : t.roster.hotkeys = Roster.lists Scenario.hotkey? scenarios
  commands : t.roster.commands = Roster.lists Scenario.command? scenarios
  polled : t.loops.map PollingLoop.scenario = (scenarios.filter Scenario.isPolled).map Scenario.id
  /-- Each command is in the menu once. -/
  menuKeys : t.roster.menu.map Prod.fst = t.roster.commands.keys
  /-- The first scenario that waits for a command describes it, in no more than what a menu takes. -/
  menuLines : ∀ line ∈ t.roster.menu, line.2.length ≤ Chat.descriptionLimit ∧
    ∃ scenario b, Roster.firstFor scenarios line.1 = some scenario ∧ scenario.lead? = some b ∧
      line.2 = Chat.menuDescription (b.param "Description" scenario.name)

/-- A scenario waits at its place and nowhere else. -/
structure IsAt (t : Scheduler) (scenario : Scenario) : Prop where
  hotkey : ∀ c, scenario.id ∈ t.roster.onHotkey c ↔ scenario.place? = some (.hotkey c)
  command : ∀ name, scenario.id ∈ t.roster.onCommand name ↔
    ∃ description, scenario.place? = some (.command name description)
  loop : scenario.id ∈ t.loops.map PollingLoop.scenario ↔ ∃ trigger, scenario.place? = some (.loop trigger)

/-- Every list of ids is in the order of some ids, each of them once at most. -/
structure IsOrdered (ids : List String) (t : Scheduler) : Prop where
  nodup : ids.Nodup
  hotkey : ∀ c, (t.roster.onHotkey c).Sublist ids
  command : ∀ name, (t.roster.onCommand name).Sublist ids
  loop : (t.loops.map PollingLoop.scenario).Sublist ids

variable {s s' : Scheduler} {e e' : Event} {n n' : Nat} {scenarios scenarios' : List Scenario}

/-- Once a load has ended, the roster and the loops are those of the scenarios that it has read. -/
theorem EndsLoad.after_eq (hs : Reachable s) (h : s.EndsLoad e n)
    (hlist : s.ask .list (s.store.list true) = .ok scenarios) :
    (s.after e).roster = Roster.ofScenarios scenarios ∧
      (s.after e).loops.map PollingLoop.scenario =
        (scenarios.filter Scenario.isPolled).map Scenario.id := by
  obtain ⟨hcall, hafter⟩ := h.finishes hs.sound
  obtain ⟨added, htaken, hload⟩ := core_load hlist
  obtain ⟨-, hloops, hroster, -⟩ := followClearing_frame (s.finishLoading n)
  obtain ⟨-, hloops', hroster', -⟩ := release_frame (s.load.endCall n)
  -- what was loaded before is over, so that the load starts from nothing
  have hbefore : s.loops = [] := hs.sound.settled _ hcall rfl
  have hempty : s.roster = {} := (hs.sound.quiet _ hcall rfl).2
  have hfresh : s.load.roster = s.roster.enterAll scenarios := congrArg Core.roster hload
  have hstarted : s.load.loops = s.loops ++ added := congrArg Core.loops hload
  have hnodup := Store.nodup_list hs.sound.keyed (eq_of_ask hlist)
  rw [hafter]
  constructor
  · calc (s.finishLoading n).followClearing.roster = s.load.roster := hroster.trans hroster'
      _ = Roster.enterAll {} scenarios := by rw [hfresh, hempty]
      _ = Roster.ofScenarios scenarios := Roster.enterAll_eq hnodup
  · calc (s.finishLoading n).followClearing.loops.map PollingLoop.scenario
        = s.load.loops.map PollingLoop.scenario := congrArg _ (hloops.trans hloops')
      _ = added.map PollingLoop.scenario := by rw [hstarted, hbefore, List.nil_append]
      _ = _ := htaken.scenarios_eq

theorem EndsLoad.laidOut (hs : Reachable s) (h : s.EndsLoad e n)
    (hlist : s.ask .list (s.store.list true) = .ok scenarios) : IsLaidOut scenarios (s.after e) := by
  obtain ⟨hroster, hloops⟩ := h.after_eq hs hlist
  refine ⟨?_, ?_, hloops, ?_, fun line hline => ?_⟩
  · rw [hroster, Roster.ofScenarios]
  · rw [hroster, Roster.ofScenarios]
  · rw [hroster, Roster.ofScenarios, Roster.keys_menuOf, Roster.keys_lists]
  · rw [hroster] at hline
    obtain ⟨scenario, hfirst, hmenu⟩ := Roster.firstFor_of_mem_menuOf hline
    obtain ⟨b, hb, -, -, hdescription⟩ := Scenario.menuLine?_spec hmenu
    refine ⟨?_, scenario, b, hfirst, hb, hdescription⟩
    rw [hdescription]
    exact Chat.length_menuDescription _

/-- Scenarios with distinct ids are where they belong. -/
theorem IsLaidOut.isAt {t : Scheduler} (h : IsLaidOut scenarios t) (hnodup : (scenarios.map Scenario.id).Nodup)
    {scenario : Scenario} (hmem : scenario ∈ scenarios) : t.IsAt scenario := by
  -- an id stands for one scenario only
  have hone : ∀ p : Scenario → Prop, (∃ x ∈ scenarios, p x ∧ x.id = scenario.id) ↔ p scenario := by
    intro p
    refine ⟨?_, fun hp => ⟨scenario, hmem, hp, rfl⟩⟩
    rintro ⟨x, hx, hp, hid⟩
    rwa [← List.inj_on_of_nodup_map hnodup hx hmem hid]
  refine ⟨fun c => ?_, fun name => ?_, ?_⟩
  · rw [Roster.onHotkey, h.hotkeys, Roster.find?_lists, Roster.mem_idsFor, hone]
    exact Scenario.hotkey?_eq_some_iff
  · rw [Roster.onCommand, h.commands, Roster.find?_lists, Roster.mem_idsFor, hone]
    simp only [Scenario.command?_eq_some_iff, Scenario.menuLine?_eq_some_iff]
  · rw [h.polled, List.mem_map]
    simp only [List.mem_filter, and_assoc]
    rw [hone fun x => x.isPolled = true]
    exact Scenario.isPolled_iff

theorem IsLaidOut.isOrdered {t : Scheduler} (h : IsLaidOut scenarios t)
    (hnodup : (scenarios.map Scenario.id).Nodup) : IsOrdered (scenarios.map Scenario.id) t where
  nodup := hnodup
  hotkey := fun c => by
    rw [Roster.onHotkey, h.hotkeys, Roster.find?_lists]
    exact List.filter_sublist.map _
  command := fun name => by
    rw [Roster.onCommand, h.commands, Roster.find?_lists]
    exact List.filter_sublist.map _
  loop := by
    rw [h.polled]
    exact List.filter_sublist.map _

/-- The bot is handed the menu of the roster, and what a menu can hold of it is published. -/
theorem EndsLoad.publishes (hs : Reachable s) (h : s.EndsLoad e n)
    (hlist : s.ask .list (s.store.list true) = .ok scenarios) {b : ChatBot} (hb : s.around.bot? = some b)
    (hconf : b.isConfigured = true) :
    (s.after e).around.bot? = some { b with
        commands := (s.after e).roster.menu, menu := published (s.after e).roster.menu } ∧
      (s.after e).around.network.menus = s.around.network.menus ++
        if s.around.network.fails .publishMenu then [] else [published (s.after e).roster.menu] := by
  have hlaid := h.laidOut hs hlist
  obtain ⟨-, hafter⟩ := h.finishes hs.sound
  obtain ⟨-, -, hroster, haround⟩ := followClearing_frame (s.finishLoading n)
  obtain ⟨-, -, hroster', haround'⟩ := release_frame (s.load.endCall n)
  have hroster : (s.after e).roster = s.load.roster := by
    rw [hafter]
    exact hroster.trans hroster'
  have haround : (s.after e).around = s.load.around := by
    rw [hafter]
    exact haround.trans haround'
  rw [haround, hroster]
  refine load_publishes hlist hb hconf fun line hline => ?_
  obtain ⟨-, scenario, b, -, -, hdescription⟩ := hlaid.menuLines line (hroster ▸ hline)
  rw [hdescription, Chat.menuDescription_menuDescription]

/-- What is read from the store decides what waits for what; scenarios without a place and the times at which
scenarios ran last count for nothing. -/
theorem EndsLoad.alike (hs : Reachable s) (h : s.EndsLoad e n)
    (hlist : s.ask .list (s.store.list true) = .ok scenarios) (hs' : Reachable s') (h' : s'.EndsLoad e' n')
    (hlist' : s'.ask .list (s'.store.list true) = .ok scenarios')
    (hsame : (scenarios'.filter Scenario.isTaken).map Scenario.timeless =
      (scenarios.filter Scenario.isTaken).map Scenario.timeless) :
    (s'.after e').roster = (s.after e).roster ∧
      (s'.after e').loops.map PollingLoop.scenario = (s.after e).loops.map PollingLoop.scenario := by
  obtain ⟨hroster, hloops⟩ := h.after_eq hs hlist
  obtain ⟨hroster', hloops'⟩ := h'.after_eq hs' hlist'
  rw [hroster, hroster', hloops, hloops', ← Roster.ofScenarios_taken, ← Roster.ofScenarios_timeless, hsame,
    Roster.ofScenarios_timeless, Roster.ofScenarios_taken, ← Scenario.polled_taken scenarios',
    ← Scenario.polled_taken scenarios, hsame]
  exact ⟨rfl, rfl⟩

/-- A row with an active scenario that waits for a command of two words. -/
def spokenRow : Row :=
  { id := "a", name := "Spoken", active := .int 1
    blocks := "[\x7b\"Type\":\"TelegramCommandTrigger\",\"Id\":\"t\"," ++
      "\"Parameters\":\x7b\"Command\":\"/do it\",\"Description\":\"Do it\"\x7d\x7d]" }

/-- A scheduler with a bot that is about to load that scenario. -/
def speaking : Scheduler :=
  (ofRows [spokenRow] (some { isConfigured := true, chatId := some 5 })).after .reload

theorem endsLoad_speaking : speaking.EndsLoad (.alarm (.call 0)) 0 where
  isUnderWay := by
    show ∃ call ∈ speaking.calls, call.number = 0 ∧ call.kind = .load
    decide +kernel
  isOver := by decide +kernel
  noFault := by decide +kernel

end Scheduler

end Deskhand
