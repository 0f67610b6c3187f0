import Deskhand.Proofs.Run.Recorded
import Deskhand.Proofs.Schedule.Attended

/-!
# Scenarios that start when a file changes

A loop of a file trigger is polled at its turns. Whatever happens between two turns, the flag and the path that its
watch keeps are those of the paths that were noted since the last turn (`HasNoted`), so that a turn starts one run
with the last of these paths, or none if there is none, and forgets them all. Main statements:

* `PollingLoop.look_of_noted`: what a turn makes of the paths that were noted;
* `HasNoted.move`, `HasNoted.after`: the paths that were noted are kept by everything but reports and turns;
* `HasNoted.runs_ring`: what a turn starts;
* `IsNew.starts_with_last`: what a turn starts, after every history.
-/

namespace Deskhand

namespace PollingLoop

variable {l : PollingLoop} {paths : List String}

/-- The paths that the watch of a loop notes when a report on a directory is delivered. -/
def noted (l : PollingLoop) (directory : String) (r : ChangeReport) (now : Float) : List String :=
  (l.trigger.watch?.map fun w => w.noted l.trigger.block directory r now).getD []

/-- The watch of a loop, if it has one, keeps what comes of the paths that were noted. -/
def Keeps (l : PollingLoop) (paths : List String) : Prop :=
  ∀ edge, l.trigger.edge? = some edge → edge = Watch.edgeOf paths

theorem keeps_reportTo (h : l.Keeps paths) (tree : FileTree) (directory : String) (r : ChangeReport)
    (now : Float) : (Scheduler.reportTo l tree directory r now).2.Keeps (paths ++ l.noted directory r now) := by
  rcases l with ⟨number, generation, scenario, ⟨b, state⟩⟩
  cases state with
  | fileChange w =>
    intro edge hedge
    have hbefore : w.edge = Watch.edgeOf paths := h _ rfl
    have hdeliver : (w.deliver b directory r now).2.edge = Watch.edgeOf (paths ++ w.noted b directory r now) :=
      Watch.edge_deliver directory hbefore
    have hjobs := Watch.edge_runJobs b tree {} (w.deliver b directory r now).2
    exact (Option.some.inj hedge).symm.trans (hjobs.trans hdeliver)
  | _ => exact fun edge hedge => nomatch hedge

theorem ne_empty_of_mem_noted {directory path : String} {r : ChangeReport} {now : Float} (hsource : r.source ≠ "")
    (h : path ∈ l.noted directory r now) : path ≠ "" := by
  rw [noted] at h
  cases hw : l.trigger.watch? with
  | none => simp [hw] at h
  | some w =>
    rw [hw, Option.map_some, Option.getD_some] at h
    exact Watch.ne_empty_of_mem_noted hsource h

/-- A turn of a file trigger fires iff paths were noted, with the last one of them, and forgets them all. -/
theorem look_of_noted {w : Watch} (hw : l.trigger.watch? = some w) (hkeeps : l.Keeps paths)
    (hnamed : ∀ path ∈ paths, path ≠ "") (bot : Option ChatBot) (last : Option Instant) (now : Instant) :
    (l.look bot last now).1 =
        (match paths.getLast? with
        | some path => .fires [(l.trigger.block.id, .text path)]
        | none => .declines) ∧
      (l.look bot last now).2.trigger.edge? = some (Watch.edgeOf []) := by
  rcases l with ⟨number, generation, scenario, ⟨b, state⟩⟩
  cases state with
  | fileChange v =>
    obtain rfl : v = w := Option.some.inj hw
    have hedge : v.edge = Watch.edgeOf paths := hkeeps _ rfl
    obtain ⟨hraised, hdetected⟩ : v.isRaised = !paths.isEmpty ∧ v.detected = paths.getLast? :=
      Prod.mk.inj hedge
    cases hlast : paths.getLast? with
    | none =>
      have hnil : paths = [] := List.getLast?_eq_none_iff.mp hlast
      rw [hnil] at hraised hdetected
      have hlook : look ⟨number, generation, scenario, ⟨b, .fileChange v⟩⟩ bot last now =
          (.declines, ⟨number, generation, scenario, ⟨b, .fileChange { v with isRaised := false }⟩⟩) := by
        simp [look, Trigger.check, Watch.check, hraised]
      rw [hlook]
      refine ⟨rfl, congrArg some ?_⟩
      rw [Watch.edge, hdetected]
      rfl
    | some path =>
      have hpath : path ≠ "" := hnamed path (List.mem_of_getLast? hlast)
      have hsome : paths.isEmpty = false := by cases paths <;> simp_all
      rw [hsome, Bool.not_false] at hraised
      rw [hlast] at hdetected
      have htaken : takeBindings ⟨b, .fileChange { v with isRaised := false }⟩ =
          ([(b.id, .text path)], ⟨b, .fileChange { v with isRaised := false, detected := none }⟩) := by
        simp [takeBindings, detected?, Trigger.watch?, hdetected, hpath, Option.filter_some, Watch.takeDetected]
      have hlook : look ⟨number, generation, scenario, ⟨b, .fileChange v⟩⟩ bot last now =
          (.fires [(b.id, .text path)],
            ⟨number, generation, scenario, ⟨b, .fileChange { v with isRaised := false, detected := none }⟩⟩) := by
        simp [look, Trigger.check, Watch.check, hraised, htaken]
      rw [hlook]
      exact ⟨rfl, rfl⟩
  | _ => cases hw

/-- A turn of any other trigger leaves it without a watch. -/
theorem edge?_look_of_none (h : l.trigger.watch? = none) (bot : Option ChatBot) (last : Option Instant)
    (now : Instant) : (l.look bot last now).2.trigger.edge? = none := by
  rcases l with ⟨number, generation, scenario, t⟩
  have hcheck : (t.check bot last now).2.watch? = none := by
    rcases t with ⟨b, state⟩
    cases state with
    | fileChange w => cases h
    | _ => rfl
  rw [look]
  rcases hc : t.check bot last now with ⟨outcome, t'⟩
  rw [hc] at hcheck
  have hnone : t'.edge? = none := by rw [Trigger.edge?, hcheck]; rfl
  have htaken : takeBindings t' = ([], t') := by
    rw [takeBindings]
    split
    · next w _ hstate _ => simp [Trigger.watch?, hstate] at hcheck
    · rfl
  cases outcome with
  | error fault => exact hnone
  | ok fires =>
    cases fires with
    | false => exact hnone
    | true =>
      dsimp only
      rw [htaken]
      exact hnone

theorem keeps_look (hkeeps : l.Keeps paths) (hnamed : ∀ path ∈ paths, path ≠ "") (bot : Option ChatBot)
    (last : Option Instant) (now : Instant) : (l.look bot last now).2.Keeps [] := by
  cases hw : l.trigger.watch? with
  | none =>
    intro edge hedge
    rw [edge?_look_of_none hw] at hedge
    cases hedge
  | some w =>
    intro edge hedge
    rw [(look_of_noted hw hkeeps hnamed bot last now).2] at hedge
    exact (Option.some.inj hedge).symm

end PollingLoop

namespace Scheduler

/-- The event is a turn of a loop. -/
def Event.isTurnOf (n : Nat) : Event → Bool
  | .alarm (.loop m) => m == n
  | _ => false

/-- A report names what it is about. -/
def Event.IsNamed : Event → Prop
  | .report _ r => r.source ≠ ""
  | _ => True

/-- The paths that a loop notes at an event. -/
def notedAt (s : Scheduler) (n : Nat) : Event → List String
  | .report directory r =>
    ((s.loops.find? (·.number == n)).map fun l => l.noted directory r s.elapsed).getD []
  | _ => []

/-- The paths that a loop has noted since its last turn, after those that it had noted before the events. -/
def notedSince (n : Nat) : Scheduler → List String → List Event → List String
  | _, paths, [] => paths
  | s, paths, e :: rest =>
    notedSince n (s.after e) (if e.isTurnOf n then [] else paths ++ s.notedAt n e) rest

/-- The watch of a loop keeps what comes of the paths that were noted, none of them before there was the loop. -/
structure Core.HasNoted (n : Nat) (paths : List String) (c : Core) : Prop where
  loops : ∀ l ∈ c.loops, l.number = n → l.Keeps paths
  fresh : c.numbered ≤ n → paths = []
  named : ∀ path ∈ paths, path ≠ ""

variable {s : Scheduler} {e : Event} {n : Nat} {paths : List String}

/-- What is neither a report nor a turn of the loop leaves what it has noted. -/
theorem Core.HasNoted.move {c d : Core} (h : c.HasNoted n paths) (hspares : e.Spares n) (hmove : Move e c d) :
    d.HasNoted n paths := by
  have hfresh : d.numbered ≤ n → paths = [] := fun hle =>
    h.fresh (Nat.le_trans (Core.numbered_le_of_move hmove) hle)
  refine ⟨fun l hl hn => ?_, hfresh, h.named⟩
  cases hmove with
  | triggers _ hedges =>
    obtain ⟨old, hold, hbadge, hedge⟩ := hedges l hl (hn ▸ hspares)
    have hnumber : old.number = n := (PollingLoop.badge_eq_iff.mp hbadge).1.trans hn
    intro edge hnow
    exact h.loops old hold hnumber edge (hedge.trans hnow)
  | endLoop _ _ => exact h.loops l (List.mem_filter.mp hl).1 hn
  | dropLoops _ => exact h.loops l (List.mem_filter.mp hl).1 hn
  | load _ _ _ htaken =>
    rcases List.mem_append.mp hl with hl | hl
    · exact h.loops l hl hn
    · -- a loop that was just set up has a new number
      obtain ⟨scenario, -, hloop⟩ := htaken.exists_of_mem hl
      have hnew : l.number ∈ List.range' c.numbered _ := htaken.numbers ▸ List.mem_map_of_mem hl
      rw [List.mem_range'_1, hn] at hnew
      rw [h.fresh hnew.1]
      exact hloop.edge
  | _ => exact h.loops l hl hn

/-- What a turn of a loop changes: what that loop remembers, and what its trigger asks for. -/
theorem ring_loop_of_current (hs : s.core.Sound) {l : PollingLoop} (hl : l ∈ s.loops)
    (hcurrent : s.generation = some l.generation) :
    let looked := l.look s.around.bot? (s.lastRun l.scenario) s.now
    (s.ring (.loop l.number)).loops =
        (s.loops.map fun old => if old.number == looked.2.number then looked.2 else old) ∧
      (s.ring (.loop l.number)).runs = ((s.setLoop looked.2).follow looked.2 looked.1).runs := by
  intro looked
  have hfind : s.loops.find? (·.number == l.number) = some l := find?_number hs.loopNumbers hl
  have hwake : s.wakeLoop l.number = s.takeTurn l := by
    rw [wakeLoop, hfind]
    exact if_pos (beq_iff_eq.mpr hcurrent)
  have hloops : ∀ (t : Scheduler) (turn : Turn), (t.follow looked.2 turn).loops = t.loops := by
    intro t turn
    cases turn with
    | fires bindings =>
      rw [follow, spawnLoaded]
      split <;> rfl
    | declines => rfl
    | raises fault => rfl
  obtain ⟨hruns, hframe, -, -⟩ := followClearing_frame (s.takeTurn l)
  refine ⟨?_, ?_⟩
  · show (s.wakeLoop l.number).followClearing.loops = _
    rw [hwake, hframe]
    exact hloops (s.setLoop looked.2) looked.1
  · show (s.wakeLoop l.number).followClearing.runs = _
    rw [hwake, hruns]
    rfl

/-- A turn of a loop whose generation may run leaves nothing noted. -/
theorem Core.HasNoted.keeps_ring (hs : s.core.Sound) (h : s.core.HasNoted n paths) {l : PollingLoop}
    (hl : l ∈ (s.ring (.loop n)).loops) (hn : l.number = n) : l.Keeps [] := by
  by_cases hcurrent : ∀ old ∈ s.loops, old.number = n → s.generation ≠ some old.generation
  · -- a loop that may not run ends at its turn
    obtain ⟨-, -, hloops⟩ := ring_loop_of_not_current hcurrent
    rw [hloops] at hl
    exact absurd hn (by simpa using (List.mem_filter.mp hl).2)
  · simp only [ne_eq, not_forall, not_not, exists_prop] at hcurrent
    obtain ⟨old, hold, rfl, hgen⟩ := hcurrent
    obtain ⟨hloops, -⟩ := ring_loop_of_current hs hold hgen
    rw [hloops] at hl
    obtain ⟨other, hother, rfl⟩ := List.mem_map.mp hl
    have hnumber := (PollingLoop.badge_eq_iff.mp
      (old.badge_look s.around.bot? (s.lastRun old.scenario) s.now)).1
    split at hn
    · next hsame =>
      rw [if_pos hsame]
      exact PollingLoop.keeps_look (h.loops old hold rfl) h.named _ _ _
    · next hother => exact absurd (hn.trans hnumber.symm) (by simpa using hother)

/-- What a loop has noted once a report is delivered. -/
theorem Core.HasNoted.report (hs : s.core.Sound) (h : s.core.HasNoted n paths) (directory : String)
    {r : ChangeReport} (hsource : r.source ≠ "") :
    (s.onReport directory r).2.core.HasNoted n (paths ++ s.notedAt n (.report directory r)) := by
  have hnoted : ∀ old ∈ s.loops, old.number = n →
      s.notedAt n (.report directory r) = old.noted directory r s.elapsed := by
    rintro old hold rfl
    have hfind : s.loops.find? (·.number == old.number) = some old := find?_number hs.loopNumbers hold
    rw [notedAt, hfind]
    rfl
  refine ⟨fun l hl hn => ?_, fun hle => ?_, fun path hpath => ?_⟩
  · have hl : l ∈ (s.onReport directory r).2.loops := hl
    simp only [onReport, List.map_map] at hl
    obtain ⟨old, hold, rfl⟩ := List.mem_map.mp hl
    have hnumber : old.number = n :=
      (PollingLoop.badge_eq_iff.mp (old.badge_reportTo _ directory r _)).1.symm.trans hn
    rw [hnoted old hold hnumber]
    exact PollingLoop.keeps_reportTo (h.loops old hold hnumber) _ directory r _
  · have hnone : s.loops.find? (·.number == n) = none := by
      refine List.find?_eq_none.mpr fun old hold => ?_
      have hlt := hs.loops_lt old hold
      have hle : s.core.numbered ≤ n := hle
      simp only [beq_iff_eq]
      omega
    rw [notedAt, hnone, h.fresh hle]
    rfl
  · rcases List.mem_append.mp hpath with hbefore | hnow
    · exact h.named path hbefore
    · rw [notedAt] at hnow
      cases hfind : s.loops.find? (·.number == n) with
      | none => simp [hfind] at hnow
      | some l =>
        rw [hfind, Option.map_some, Option.getD_some] at hnow
        exact PollingLoop.ne_empty_of_mem_noted hsource hnow

/-- What a loop has noted after an event. -/
theorem Core.HasNoted.after (hs : s.core.Sound) (h : s.core.HasNoted n paths) (hnamed : e.IsNamed) :
    (s.after e).core.HasNoted n (if e.isTurnOf n then [] else paths ++ s.notedAt n e) := by
  by_cases hspares : e.Spares n
  · have hsame : (if e.isTurnOf n then [] else paths ++ s.notedAt n e) = paths := by
      have hturn : e.isTurnOf n = false := by
        unfold Event.isTurnOf
        split
        · exact beq_eq_false_iff_ne.mpr hspares
        · rfl
      have hnone : s.notedAt n e = [] := by
        unfold notedAt
        split
        · exact hspares.elim
        · rfl
      rw [hturn, hnone]
      simp
    rw [hsame]
    exact after_induction hs h (fun _ _ => ⟨h.loops, h.fresh, h.named⟩) fun _ _ _ hmove hc => hc.move hspares hmove
  · cases e with
    | report directory r => exact h.report hs directory hnamed
    | alarm a =>
      cases a with
      | loop m =>
        obtain rfl : m = n := not_not.mp hspares
        have hturn : (Event.alarm (.loop m)).isTurnOf m = true := beq_self_eq_true m
        rw [if_pos hturn]
        exact ⟨fun l hl hn => h.keeps_ring hs hl hn, fun _ => rfl, fun path hpath => nomatch hpath⟩
      | _ => exact absurd trivial hspares
    | _ => exact absurd trivial hspares

/-- What a loop has noted after a history. -/
theorem Core.HasNoted.afterAll (hs : s.core.Sound) (h : s.core.HasNoted n paths) {events : List Event}
    (hfits : ∀ e ∈ events, e.Fits) (hnamed : ∀ e ∈ events, e.IsNamed) :
    (s.afterAll events).core.HasNoted n (notedSince n s paths events) := by
  induction events generalizing s paths with
  | nil => exact h
  | cons e rest ih =>
    obtain ⟨hfit, hfits⟩ := List.forall_mem_cons.mp hfits
    obtain ⟨hname, hnamed⟩ := List.forall_mem_cons.mp hnamed
    exact ih (sound_after hs hfit) (h.after hs hname) hfits hnamed

/-- A loop whose trigger fires starts one run of its scenario. -/
theorem runs_follow_fires {l : PollingLoop} {scenario : Scenario} (h : s.loaded.find? l.scenario = some scenario)
    (bindings : List (String × Value)) :
    (s.follow l (.fires bindings)).runs = s.runs ++ [{
      number := s.numbered, scenario := scenario, load := some s.loads, bindings := bindings }] := by
  rw [follow, spawnLoaded, h]
  rfl

/-- A turn of the loop of a file trigger that may run starts one run if it has noted paths, with the last of them, and
none otherwise. It takes the flag and the path away. -/
theorem Core.HasNoted.runs_ring (hs : s.core.Sound) {l : PollingLoop} (h : s.core.HasNoted l.number paths)
    (hl : l ∈ s.loops) {w : Watch} (hw : l.trigger.watch? = some w) (hcurrent : s.generation = some l.generation)
    {scenario : Scenario} (hscenario : s.loaded.find? l.scenario = some scenario) :
    let t := s.ring (.loop l.number)
    (t.runs = match paths.getLast? with
      | none => s.runs
      | some path => s.runs ++ [{
          number := s.numbered, scenario := scenario, load := some s.loads
          bindings := [(l.trigger.block.id, .text path)] }]) ∧
      ∃ l' ∈ t.loops, l'.badge = l.badge ∧ l'.trigger.edge? = some (false, none) := by
  intro t
  obtain ⟨hloops, hruns⟩ := ring_loop_of_current hs hl hcurrent
  obtain ⟨hturn, hrest⟩ := PollingLoop.look_of_noted hw (h.loops l hl rfl) h.named s.around.bot?
    (s.lastRun l.scenario) s.now
  have hbadge := l.badge_look s.around.bot? (s.lastRun l.scenario) s.now
  generalize l.look s.around.bot? (s.lastRun l.scenario) s.now = looked at *
  obtain ⟨turn, l'⟩ := looked
  obtain rfl : turn = _ := hturn
  obtain ⟨hnumber, -, hid, -, -⟩ := PollingLoop.badge_eq_iff.mp hbadge
  refine ⟨hruns.trans ?_, l', ?_, hbadge, hrest⟩
  · cases paths.getLast? with
    | none => rfl
    | some path =>
      have hfind : (s.setLoop l').loaded.find? l'.scenario = some scenario := hid ▸ hscenario
      exact runs_follow_fires hfind _
  · have hmem : l' ∈ s.loops.map fun old => if old.number == l'.number then l' else old :=
      List.mem_map.mpr ⟨l, hl, if_pos (beq_iff_eq.mpr hnumber.symm)⟩
    exact hloops ▸ hmem

/-- After every history of a scheduler whose reports name what they are about, a turn of the loop of a file trigger
starts a run iff a path was noted since the last turn of that loop, and then exactly one: a run of the scenario of
the loop with the last of these paths under the id of the trigger and nothing else, which is no empty path and is what
its first action finds under that id and as the last output. After the turn the flag and the path are taken away. -/
theorem IsNew.starts_with_last {new : Scheduler} (hnew : IsNew new) {events : List Event}
    (hfits : ∀ e ∈ events, e.Fits) (hnamed : ∀ e ∈ events, e.IsNamed) {l : PollingLoop}
    (hl : l ∈ (new.afterAll events).loops) {w : Watch} (hw : l.trigger.watch? = some w)
    (hcurrent : (new.afterAll events).generation = some l.generation) :
    let s := new.afterAll events
    let paths := notedSince l.number new [] events
    let t := s.after (.alarm (.loop l.number))
    (t.runs ≠ s.runs ↔ paths ≠ []) ∧
    (∀ path, paths.getLast? = some path → path ≠ "" ∧
      ∃ scenario, s.loaded.find? l.scenario = some scenario ∧
        t.runs = s.runs ++ [{
          number := s.numbered, scenario := scenario, load := some s.loads
          bindings := [(l.trigger.block.id, .text path)] }] ∧
        ∀ meanwhile actions around b c around',
          Execution.Starts meanwhile actions [(l.trigger.block.id, .text path)] around [] b c around' →
            c.lastOutput = .text path ∧ c.find? l.trigger.block.id = some (.text path)) ∧
    ∃ l' ∈ t.loops, l'.badge = l.badge ∧ l'.trigger.edge? = some (false, none) := by
  intro s paths t
  have hs : s.core.Sound := (hnew.reachable.leads ⟨events, hfits, rfl⟩).sound
  have hnone : new.core.HasNoted l.number [] := by
    rw [hnew.core]
    exact ⟨fun l hl => absurd hl List.not_mem_nil, fun _ => rfl, fun path hpath => absurd hpath List.not_mem_nil⟩
  have hnoted : s.core.HasNoted l.number paths := hnone.afterAll hnew.sound hfits hnamed
  obtain ⟨scenario, hscenario⟩ := Option.isSome_iff_exists.mp (hs.loaded l hl hcurrent)
  have hscenario : s.loaded.find? l.scenario = some scenario := hscenario
  obtain ⟨hruns, hrest⟩ := hnoted.runs_ring hs hl hw hcurrent hscenario
  have hruns : t.runs = _ := hruns
  refine ⟨?_, fun path hpath => ⟨?_, scenario, hscenario, ?_, ?_⟩, hrest⟩
  · cases hpath : paths.getLast? with
    | none =>
      have hnil : paths = [] := List.getLast?_eq_none_iff.mp hpath
      exact iff_of_false (not_not.mpr (by rw [hruns, hpath])) (not_not.mpr hnil)
    | some path =>
      have hsome : paths ≠ [] := fun hnil => by simp [hnil] at hpath
      exact iff_of_true (by simp [hruns, hpath]) hsome
  · exact hnoted.named path (List.mem_of_getLast? hpath)
  · rw [hruns, hpath]
  · rintro meanwhile actions around b c around' ⟨-, hbefore⟩
    cases hbefore
    exact ⟨Context.lastOutput_ofBindings _, by rw [Context.find?_ofBindings]; simp⟩

/-- A row with an active scenario that is to start when a file changes in a directory. -/
def inboxRow : Row :=
  { id := "a", name := "Inbox", active := .int 1
    blocks := "[\x7b\"Type\":\"FileChangeTrigger\",\"Id\":\"t\",\"Parameters\":\x7b\"Path\":\"/w/in\"\x7d\x7d," ++
      "\x7b\"Type\":\"KeyboardInput\",\"Id\":\"k\",\"Parameters\":\x7b\"Text\":\"\x7bLastResult\x7d\"\x7d\x7d]" }

/-- A scheduler over that row, on a desk that has the directory. -/
def inbox : Scheduler :=
  { ofRows [inboxRow] none with
    around := { clock := ⟨Clock.start, 0.0⟩, desk := { tree := { directories := ["/w", "/w/in"] } } } }

theorem isNew_inbox : IsNew inbox :=
  ⟨rfl, (isNew_ofRows (by decide) none).keyed, rfl, rfl, rfl⟩

/-- The scheduler is started and has loaded the scenario, its loop finds nothing, and then a file is made. -/
def dropped : List Event :=
  [.start, .alarm (.call 0), .alarm (.loop 1),
    .report "/w/in" { type := "created", source := "/w/in/x" }]

theorem starts_with_last_dropped :
    notedSince 1 inbox [] dropped = ["/w/in/x"] ∧
      ∃ run, ((inbox.afterAll dropped).after (.alarm (.loop 1))).runs = (inbox.afterAll dropped).runs ++ [run] ∧
        run.bindings = [("t", .text "/w/in/x")] := by
  have hfits : ∀ e ∈ dropped, e.Fits := by simp [dropped, Event.Fits]
  have hnamed : ∀ e ∈ dropped, e.IsNamed := by simp [dropped, Event.IsNamed]
  have hpaths : notedSince 1 inbox [] dropped = ["/w/in/x"] := by decide +kernel
  -- what the history comes to is worked out once
  have hfacts : (fun t : Scheduler =>
      t.loops.map (fun l => (l.number, l.trigger.block.id, l.trigger.watch?.isSome)) = [(1, "t", true)] ∧
        t.loops.map (fun l => some l.generation) = [t.generation]) (inbox.afterAll dropped) := by decide +kernel
  obtain ⟨hloop, hcurrent⟩ := hfacts
  obtain ⟨l, hl⟩ : ∃ l, (inbox.afterAll dropped).loops = [l] :=
    List.length_eq_one_iff.mp (by simpa using congrArg List.length hloop)
  rw [hl] at hloop hcurrent
  simp only [List.map_cons, List.map_nil, List.cons.injEq, Prod.mk.injEq, and_true] at hloop hcurrent
  obtain ⟨hnumber, hid, hwatch⟩ := hloop
  obtain ⟨w, hw⟩ := Option.isSome_iff_exists.mp hwatch
  have hmem : l ∈ (inbox.afterAll dropped).loops := by simp [hl]
  obtain ⟨-, hstarts, -⟩ := isNew_inbox.starts_with_last hfits hnamed hmem hw hcurrent.symm
  rw [hnumber, hpaths, hid] at hstarts
  obtain ⟨-, scenario, -, hruns, -⟩ := hstarts "/w/in/x" rfl
  exact ⟨hpaths, _, hruns, rfl⟩

end Scheduler

end Deskhand
