import Deskhand.Proofs.Schedule.Waiting

/-!
# Histories in which time passes

In a history of events an alarm may ring at any time. Here alarms ring only if they are set, and are taken out of the
agenda when they do. A `Beat` is that an alarm rings, or that something else happens. What a trigger answers at a turn
of its loop is left open (`Judge`): it may fire, decline or raise any fault, whatever came before. Main statements:

* `ringBy_own`: loops that ask their own triggers do what an alarm does;
* `passes_advance`, `passes_awaitCall`, `passes_awaitRun`: letting time pass is such a history, in which every alarm
  rings at its time;
* `sound_beats`: the core is sound after every such history;
* `Core.Tracks.beats`, `Core.IsOver.beats`: a loop stays as long as its generation may run, and a generation that may
  not run any more never does again.
-/

namespace Deskhand

namespace Scheduler

/-! ## Turns -/

/-- How loops ask their triggers, whatever these answer: the outcome of a turn, and what is left of the loop. -/
structure Judge where
  ask : PollingLoop → Turn × PollingLoop
  badge : ∀ l, (ask l).2.badge = l.badge

/-- Loops ask the triggers that they have. -/
def Judge.own (s : Scheduler) : Judge where
  ask l := l.look s.around.bot? (s.lastRun l.scenario) s.now
  badge l := l.badge_look _ _ _

/-- Let a loop take a turn in which it asks as it is told. -/
def takeTurnBy (j : Judge) (s : Scheduler) (l : PollingLoop) : Scheduler :=
  let (turn, l) := j.ask l
  ((s.setLoop l).follow l turn).appoint (PollingLoop.pause s.times turn) .looks (.loop l.number)

/-- Go on with a loop that asks as it is told. -/
def wakeLoopBy (j : Judge) (s : Scheduler) (n : Nat) : Scheduler :=
  match s.loops.find? (·.number == n) with
  | none => s
  | some l => if s.generation == some l.generation then s.takeTurnBy j l else s.dropLoops [n]

/-- Do what an alarm is for, where loops ask as they are told. -/
def ringBy (j : Judge) (s : Scheduler) : Alarm → Scheduler
  | .loop n => (s.wakeLoopBy j n).followClearing.endDrained
  | a => s.ring a

theorem ringBy_own (s : Scheduler) (a : Alarm) : s.ringBy (.own s) a = s.ring a := by
  cases a <;> rfl

/-! ## Histories -/

/-- What happens to a scheduler that has an agenda. -/
inductive Beat where
  /-- The alarm at a place of the agenda rings when the meter shows a reading. -/
  | rings (place : Nat) (instant : Float) (j : Judge)
  /-- Something else happens. -/
  | happens (e : Event)

/-- Take an alarm out of the agenda, with the meter put to a reading. -/
def takeOut (s : Scheduler) (p : Appointment) (instant : Float) : Scheduler :=
  { s with agenda := s.agenda.without p.order }.setElapsed instant

/-- The scheduler after a beat. -/
def beat (s : Scheduler) : Beat → Scheduler
  | .rings place instant j =>
    match s.agenda.appointments[place]? with
    | some p => (s.takeOut p instant).ringBy j p.alarm
    | none => s
  | .happens e => s.after e

/-- The scheduler after several beats. -/
def beats (s : Scheduler) (bs : List Beat) : Scheduler :=
  bs.foldl beat s

/-- A beat that can come: alarms ring by themselves, and no one else sets an alarm of a loop or stops one. -/
def Beat.Fits (s : Scheduler) : Beat → Prop
  | .rings _ _ _ => True
  | .happens (.alarm _) => False
  | .happens (.scene scene) => ∀ n, KeepsDues n s.agenda scene.agenda
  | .happens e => e.Fits

/-- An alarm rings only when its time has come. -/
def Beat.IsOnTime (s : Scheduler) : Beat → Prop
  | .rings place instant _ => ∀ p, s.agenda.appointments[place]? = some p → p.due < instant + Agenda.resolution
  | .happens _ => True

/-- Every beat of a history has a property in the state in which it comes. -/
def Throughout (P : Scheduler → Beat → Prop) : Scheduler → List Beat → Prop
  | _, [] => True
  | s, b :: rest => P s b ∧ Throughout P (s.beat b) rest

variable {P : Scheduler → Beat → Prop} {s t u : Scheduler}

theorem beats_append (s : Scheduler) (bs cs : List Beat) : s.beats (bs ++ cs) = (s.beats bs).beats cs :=
  List.foldl_append

theorem throughout_append {bs cs : List Beat} :
    Throughout P s (bs ++ cs) ↔ Throughout P s bs ∧ Throughout P (s.beats bs) cs := by
  induction bs generalizing s with
  | nil => exact ⟨fun h => ⟨trivial, h⟩, And.right⟩
  | cons b rest ih => exact (and_congr_right fun _ => ih).trans and_assoc.symm

/-! ## The passing of time -/

/-- Time leads from one state to another: every alarm that rings does so at its time. -/
def Passes (s t : Scheduler) : Prop :=
  ∃ bs, Throughout (fun s b => b.Fits s ∧ b.IsOnTime s) s bs ∧ s.beats bs = t

theorem Passes.refl (s : Scheduler) : Passes s s :=
  ⟨[], trivial, rfl⟩

theorem Passes.trans (hst : Passes s t) (htu : Passes t u) : Passes s u := by
  obtain ⟨bs, hbs, rfl⟩ := hst
  obtain ⟨cs, hcs, rfl⟩ := htu
  exact ⟨bs ++ cs, throughout_append.mpr ⟨hbs, hcs⟩, beats_append s bs cs⟩

theorem passes_setElapsed (s : Scheduler) (t : Float) : Passes s (s.setElapsed t) :=
  ⟨[.happens (.scene (s.setElapsed t))], ⟨⟨fun _ => .refl _, trivial⟩, trivial⟩, rfl⟩

/-- The next alarm rings at its time. -/
theorem Passes.ring {limit : Float} {a : Alarm} (h : t.nextAlarm? limit = some (a, u)) (hst : Passes s t) :
    Passes s (u.ring a) := by
  refine hst.trans ?_
  simp only [nextAlarm?, Option.map_eq_some_iff, Prod.mk.injEq] at h
  obtain ⟨⟨a', instant, agenda⟩, hnext, rfl, rfl⟩ := h
  obtain ⟨p, hp, rfl, hdue, rfl⟩ := Agenda.next?_eq_some hnext
  obtain ⟨place, hplace⟩ := List.mem_iff_getElem?.mp hp
  refine ⟨[.rings place instant (.own (t.takeOut p instant))], ⟨⟨trivial, fun q hq => ?_⟩, trivial⟩, ?_⟩
  · rw [Option.some.inj (hq.symm.trans hplace)]
    exact hdue
  · rw [beats, List.foldl_cons, List.foldl_nil, beat, hplace]
    exact ringBy_own _ _

theorem passes_advanceTo (fuel : Nat) (s : Scheduler) (target : Float) : Passes s (advanceTo fuel s target) :=
  advanceTo_induction Passes.ring (fun t h => h.trans (passes_setElapsed t target)) fuel (.refl s)

theorem passes_untilOver (isOver : Scheduler → Bool) (fuel : Nat) (s : Scheduler) :
    Passes s (untilOver isOver fuel s) :=
  untilOver_induction Passes.ring isOver fuel (.refl s)

/-- When some seconds pass, every alarm rings at its time. -/
theorem passes_advance (s : Scheduler) (seconds : Float) : Passes s (s.advance seconds) :=
  passes_advanceTo alarmLimit s _

theorem passes_awaitCall (s : Scheduler) (n : Nat) : Passes s (s.awaitCall n) :=
  passes_untilOver _ alarmLimit s

theorem passes_awaitRun (s : Scheduler) (n : Nat) : Passes s (s.awaitRun n).2 :=
  passes_untilOver (fun s => s.runs.all (·.number != n)) alarmLimit s

/-! ## The core -/

theorem moves_takeTurnBy {e : Event} (j : Judge) {l : PollingLoop} (he : e = .alarm (.loop l.number))
    (hl : l ∈ s.loops) (hgen : s.generation = some l.generation) (hnodup : (s.loops.map PollingLoop.number).Nodup) :
    Moves e s.core (s.takeTurnBy j l).core := by
  have hstarts : s.core.Starts e := .inr (.inl fun hnone => by cases hnone.symm.trans hgen)
  exact (moves_setLoop he hl (j.badge l) hnodup).trans
    (moves_follow (s := s.setLoop (j.ask l).2) hstarts (j.ask l).2 (j.ask l).1)

theorem moves_wakeLoopBy (j : Judge) (n : Nat) (hnodup : (s.loops.map PollingLoop.number).Nodup) :
    Moves (.alarm (.loop n)) s.core (s.wakeLoopBy j n).core := by
  rw [wakeLoopBy]
  split
  · exact .refl
  · next l hfind =>
    have hl : l ∈ s.loops := List.mem_of_find?_eq_some hfind
    have hn : l.number = n := by simpa using List.find?_some hfind
    split
    · next hgen => exact moves_takeTurnBy j (by rw [hn]) hl (beq_iff_eq.mp hgen) hnodup
    · next hgen =>
      refine Move.moves (.endLoop rfl fun l' hl' hn' => ?_)
      rw [List.inj_on_of_nodup_map hnodup hl' hl (hn'.trans hn.symm)]
      exact fun h => hgen (beq_iff_eq.mpr h)

theorem moves_ringBy (hs : s.core.Sound) (j : Judge) (a : Alarm) :
    Moves (.alarm a) s.core (s.ringBy j a).core := by
  cases a with
  | loop n =>
    exact ((moves_wakeLoopBy j n hs.loopNumbers).trans (moves_followClearing _)).trans (moves_endDrained _)
  | _ => exact moves_after hs fun _ h => by cases h

/-- What every move and every change of the store by someone else keeps is kept by a beat. -/
theorem beat_induction {K : Core → Prop} (hs : s.core.Sound) (h : K s.core)
    (hstore : ∀ c kept, K c → K { c with store := kept })
    (hmove : ∀ e c d, c.Sound → Move e c d → K c → K d) (b : Beat) : K (s.beat b).core := by
  cases b with
  | rings place instant j =>
    rw [beat]
    split
    · next p _ => exact (moves_ringBy (s := s.takeOut p instant) hs j p.alarm).induction hs h (hmove _)
    · exact h
  | happens e => exact after_induction hs h (fun kept _ => hstore _ kept h) (hmove e)

theorem sound_beat (hs : s.core.Sound) {b : Beat} (hb : b.Fits s) : (s.beat b).core.Sound := by
  cases b with
  | rings place instant j =>
    rw [beat]
    split
    · next p _ => exact Core.Sound.moves hs (moves_ringBy (s := s.takeOut p instant) hs j p.alarm)
    · exact hs
  | happens e =>
    refine sound_after hs ?_
    cases e with
    | store kept => exact hb
    | _ => trivial

/-- The core is sound after every history. -/
theorem sound_beats (hs : s.core.Sound) {bs : List Beat} (hbs : Throughout Beat.Fits s bs) :
    (s.beats bs).core.Sound := by
  induction bs generalizing s with
  | nil => exact hs
  | cons b rest ih => exact ih (sound_beat hs hbs.1) hbs.2

/-- What every move and every change of the store by someone else keeps holds after every history. -/
theorem beats_induction {K : Core → Prop} (hs : s.core.Sound) (h : K s.core)
    (hstore : ∀ c kept, K c → K { c with store := kept })
    (hmove : ∀ e c d, c.Sound → Move e c d → K c → K d) {bs : List Beat}
    (hbs : Throughout Beat.Fits s bs) : K (s.beats bs).core := by
  induction bs generalizing s with
  | nil => exact h
  | cons b rest ih => exact ih (sound_beat hs hbs.1) (beat_induction hs h hstore hmove b) hbs.2

/-! ## A loop in the course of a history -/

namespace Core

variable {c d : Core} {e : Event} {l : PollingLoop}

/-- A move lets no generation run but one that is new. -/
theorem generation_of_move (h : Move e c d) :
    d.generation = c.generation ∨ d.generation = none ∨ d.generation = some (c.generations + 1) := by
  cases h with
  | clear _ _ => exact .inr (.inl rfl)
  | load _ _ _ _ => exact .inr (.inr rfl)
  | loadNothing _ _ => exact .inr (.inr rfl)
  | _ => exact .inl rfl

/-- No loop is of a generation that is still to come. -/
def Counts (c : Core) : Prop :=
  ∀ l ∈ c.loops, l.generation ≤ c.generations

/-- A loop that was there keeps its number and its generation to itself, and stays as long as its generation may
run. -/
structure Tracks (l : PollingLoop) (c : Core) : Prop where
  number : l.number < c.numbered
  generation : l.generation ≤ c.generations
  badge : ∀ l' ∈ c.loops, l'.number = l.number → l'.badge = l.badge
  stays : c.generation = some l.generation → ∃ l' ∈ c.loops, l'.badge = l.badge

/-- The generation of a loop that was there may not run any more. -/
structure IsOver (l : PollingLoop) (c : Core) : Prop extends Tracks l c where
  ended : c.generation ≠ some l.generation

theorem Counts.move (h : c.Counts) (hmove : Move e c d) : d.Counts := by
  intro l hl
  rcases loops_of_move hmove hl with ⟨old, hold, hb⟩ | ⟨-, hnew, -⟩
  · rw [← (PollingLoop.badge_eq_iff.mp hb).2.1]
    exact Nat.le_trans (h old hold) (generations_le_of_move hmove)
  · exact hnew

theorem Tracks.of_mem (hs : c.Sound) (hc : c.Counts) (hl : l ∈ c.loops) : c.Tracks l where
  number := hs.loops_lt l hl
  generation := hc l hl
  badge l' hl' hn := by rw [List.inj_on_of_nodup_map hs.loopNumbers hl' hl hn]
  stays _ := ⟨l, hl, rfl⟩

/-- A generation that may not run any more never does again. -/
theorem generation_ne_of_move (hmove : Move e c d) {g : Nat} (hle : g ≤ c.generations) (hover : c.generation ≠ some g) :
    d.generation ≠ some g := by
  rcases generation_of_move hmove with heq | heq | heq
  · rw [heq]
    exact hover
  · rw [heq]
    exact nofun
  · rw [heq]
    intro hsome
    have hnew := Option.some.inj hsome
    omega

theorem Tracks.move (h : c.Tracks l) (hs : c.Sound) (hmove : Move e c d) : d.Tracks l where
  number := Nat.lt_of_lt_of_le h.number (numbered_le_of_move hmove)
  generation := Nat.le_trans h.generation (generations_le_of_move hmove)
  badge l' hl' hn := by
    rcases loops_of_move hmove hl' with ⟨old, hold, hb⟩ | ⟨-, -, hnew⟩
    · rw [← hb]
      exact h.badge old hold ((PollingLoop.badge_eq_iff.mp hb).1.trans hn)
    · have hlt := h.number
      omega
  stays hgen := by
    have hcurrent : c.generation = some l.generation := by
      by_contra hover
      exact generation_ne_of_move hmove h.generation hover hgen
    obtain ⟨l', hl', hb⟩ := h.stays hcurrent
    cases hmove with
    | triggers hbadges _ =>
      have hmem : l'.badge ∈ c.loops.map PollingLoop.badge := List.mem_map_of_mem hl'
      rw [← hbadges] at hmem
      obtain ⟨kept, hkept, hb'⟩ := List.mem_map.mp hmem
      exact ⟨kept, hkept, hb'.trans hb⟩
    | @endLoop n _ hends =>
      have hgeneration := (PollingLoop.badge_eq_iff.mp hb).2.1
      have hne : l'.number ≠ n := fun hn => hends l' hl' hn (hcurrent.trans (congrArg some hgeneration.symm))
      exact ⟨l', List.mem_filter.mpr ⟨hl', by simpa using hne⟩, hb⟩
    | dropLoops hcall =>
      -- loops are dropped only while no generation may run
      have hnone := (hs.quiet _ hcall rfl).1
      cases hnone.symm.trans hcurrent
    | load _ _ _ _ => exact ⟨l', List.mem_append_left _ hl', hb⟩
    | _ => exact ⟨l', hl', hb⟩

theorem IsOver.move (h : c.IsOver l) (hs : c.Sound) (hmove : Move e c d) : d.IsOver l :=
  ⟨h.toTracks.move hs hmove, generation_ne_of_move hmove h.generation h.ended⟩

end Core

variable {l : PollingLoop} {bs : List Beat}

theorem Core.Tracks.beats (hs : s.core.Sound) (h : s.core.Tracks l) (hbs : Throughout Beat.Fits s bs) :
    (s.beats bs).core.Tracks l :=
  beats_induction hs h (fun _ _ h => ⟨h.number, h.generation, h.badge, h.stays⟩)
    (fun _ _ _ hsound hmove h => h.move hsound hmove) hbs

theorem Core.IsOver.beats (hs : s.core.Sound) (h : s.core.IsOver l) (hbs : Throughout Beat.Fits s bs) :
    (s.beats bs).core.IsOver l :=
  beats_induction hs h (fun _ _ h => ⟨⟨h.number, h.generation, h.badge, h.stays⟩, h.ended⟩)
    (fun _ _ _ hsound hmove h => h.move hsound hmove) hbs

end Scheduler

end Deskhand
