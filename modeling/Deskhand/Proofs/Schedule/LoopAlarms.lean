import Deskhand.Proofs.Schedule.Beats

/-!
# The alarms of a loop

The turns of a loop are those of its alarms. While a loop may run it has one alarm, which is set for the end of the wait
after its last evaluation; when it is told to end it gets another one (`Paced`). A beat is a turn of the loop, or a load
that takes loops in when there is none, or it leaves the loop waiting or tells it to end. Main statements:

* `Paced.mayTell`, `Paced.load`: what is done between turns keeps the alarms of a loop;
* `beat_cases`: what a beat does about a loop.
-/

namespace Deskhand

namespace Scheduler

/-- An evaluation of the trigger of a loop. -/
structure Evaluation where
  /-- The time for which the turn was set. -/
  due : Float
  /-- The time of the turn. -/
  time : Float
  outcome : Turn
  /-- The waits that were set then. -/
  times : SchedulerTimes

/-- The wait after an evaluation. -/
def Evaluation.pause (e : Evaluation) : Float :=
  PollingLoop.pause e.times e.outcome

/-- The alarm that rings at a beat. -/
def Beat.alarm? (s : Scheduler) : Beat → Option Appointment
  | .rings place _ _ => s.agenda.appointments[place]?
  | .happens _ => none

/-- The state in which a beat begins: an alarm that rings was taken out. -/
def begins (s : Scheduler) : Beat → Scheduler
  | .rings place instant _ => (s.agenda.appointments[place]?).elim s (s.takeOut · instant)
  | .happens _ => s

/-- The alarms of a loop, which evaluated its trigger last as is given. -/
structure Paced (n : Nat) (last : Option Evaluation) (s : Scheduler) : Prop where
  numbered : s.agenda.Numbered
  /-- A loop that is still to come has no alarm and evaluated nothing. -/
  fresh : s.numbered ≤ n → s.dues n = [] ∧ last = none
  /-- A loop that may run has one alarm, for the end of the wait after its last evaluation. -/
  waits : ∀ l ∈ s.loops, l.number = n → s.generation = some l.generation →
    ∃ due, s.dues n = [due] ∧ ∀ e ∈ last, due = e.time + e.pause
  /-- A loop that may not run has an alarm as well. -/
  told : ∀ l ∈ s.loops, l.number = n → s.dues n ≠ []

variable {s t : Scheduler} {n : Nat} {last : Option Evaluation} {b : Beat}

namespace Paced

theorem leaves (h : Paced n last s) (hleaves : Leaves n s t) : Paced n last t where
  numbered := hleaves.agenda.numbered h.numbered
  fresh hle := by
    obtain ⟨hnone, hlast⟩ := h.fresh (Nat.le_trans hleaves.numbered hle)
    exact ⟨hleaves.agenda.dues.trans hnone, hlast⟩
  waits l hl hn hgen := by
    obtain ⟨old, hold, hb⟩ := hleaves.loops l hl
    obtain ⟨hnumber, hgeneration, -⟩ := PollingLoop.badge_eq_iff.mp hb
    obtain ⟨due, hdues, hlast⟩ :=
      h.waits old hold (hnumber.trans hn) (by rw [hgeneration, ← hgen, hleaves.generation])
    exact ⟨due, hleaves.agenda.dues.trans hdues, hlast⟩
  told l hl hn := by
    obtain ⟨old, hold, hb⟩ := hleaves.loops l hl
    have hdues : t.dues n = s.dues n := hleaves.agenda.dues
    rw [hdues]
    exact h.told old hold ((PollingLoop.badge_eq_iff.mp hb).1.trans hn)

theorem clear (h : Paced n last s) (hlt : ∀ l ∈ s.loops, l.number < s.numbered) : Paced n last s.clear where
  numbered := (agenda_foldl_appoint (n := n) s.current _).1 h.numbered
  fresh hle := by
    have hnumbered : s.clear.numbered = s.numbered := congrArg Core.numbered (core_clear s)
    have hnone : s.current.filter (·.number == n) = [] := List.filter_eq_nil_iff.mpr fun l hl hn => by
      have hless := hlt l (List.mem_of_mem_filter hl)
      have heq : l.number = n := by simpa using hn
      omega
    rw [dues_clear, hnone, List.map_nil, List.append_nil]
    exact h.fresh (hnumbered ▸ hle)
  waits l _ _ hgen := by
    have hnone : s.clear.generation = none := congrArg Core.generation (core_clear s)
    cases hnone.symm.trans hgen
  told l hl hn := by
    have hloops : s.clear.loops = s.loops.map unwatch := congrArg Core.loops (core_clear s)
    rw [hloops] at hl
    obtain ⟨old, hold, rfl⟩ := List.mem_map.mp hl
    rw [dues_clear]
    refine List.append_ne_nil_of_left_ne_nil (h.told old hold ?_) _
    rw [← hn, (PollingLoop.badge_eq_iff.mp old.badge_unwatch).1]

theorem mayTell (h : Paced n last s) (hlt : ∀ l ∈ s.loops, l.number < s.numbered) (ht : MayTell n s t) :
    Paced n last t := by
  cases ht with
  | leaves hleaves => exact h.leaves hleaves
  | tells before _ after =>
    refine ((h.leaves before).clear fun l hl => ?_).leaves after
    obtain ⟨old, hold, hb⟩ := before.loops l hl
    rw [← (PollingLoop.badge_eq_iff.mp hb).1]
    exact Nat.lt_of_lt_of_le (hlt old hold) before.numbered

/-! ## Loading -/

theorem addLoop (h : Paced n last s) (generation : Nat) (id : String) (t : Trigger) :
    Paced n last (s.addLoop generation id t) := by
  obtain ⟨t', -, -, -, hcore⟩ := core_addLoop s generation id t
  have hloops : (s.addLoop generation id t).loops = s.loops ++ [⟨s.numbered, generation, id, t'⟩] :=
    congrArg Core.loops hcore
  have hgeneration : (s.addLoop generation id t).generation = s.generation := congrArg Core.generation hcore
  have hnumbered : (s.addLoop generation id t).numbered = s.numbered + 1 := congrArg Core.numbered hcore
  have hdues : (s.addLoop generation id t).dues n = s.dues n ++
      if Alarm.loop s.numbered = .loop n then [s.elapsed + s.firstWait] else [] := Agenda.dues_set _ _ _ _ n
  by_cases hn : s.numbered = n
  · -- the loop that is added has its first alarm
    obtain ⟨hnone, hlast⟩ := h.fresh (Nat.le_of_eq hn)
    rw [hnone, if_pos (congrArg Alarm.loop hn), List.nil_append] at hdues
    exact {
      numbered := h.numbered.set _ _ _
      fresh := fun hle => by omega
      waits := fun _ _ _ _ => ⟨_, hdues, by simp [hlast]⟩
      told := fun _ _ _ => by simp [hdues] }
  · rw [if_neg (fun heq => hn (Alarm.loop.inj heq)), List.append_nil] at hdues
    have hold : ∀ l ∈ (s.addLoop generation id t).loops, l.number = n → l ∈ s.loops := by
      intro l hl hnumber
      rw [hloops] at hl
      rcases List.mem_append.mp hl with hl | hl
      · exact hl
      · rw [List.mem_singleton.mp hl] at hnumber
        exact absurd hnumber hn
    exact {
      numbered := h.numbered.set _ _ _
      fresh := fun hle => hdues ▸ h.fresh (by omega)
      waits := fun l hl hnumber hgen => hdues ▸ h.waits l (hold l hl hnumber) hnumber (hgeneration ▸ hgen)
      told := fun l hl hnumber => hdues ▸ h.told l (hold l hl hnumber) hnumber }

theorem settle (h : Paced n last s) (generation : Nat) (scenario : Scenario) (p : Place) :
    Paced n last (s.settle generation scenario p) := by
  have hroster : Paced n last { s with roster := s.roster.add scenario.id p } :=
    h.leaves (.of_eq rfl rfl rfl (Nat.le_refl _))
  cases p with
  | loop t => exact hroster.addLoop generation scenario.id t
  | idle why => cases why <;> exact hroster.leaves (leaves_report _ _ _)
  | _ => exact hroster

theorem setUp (h : Paced n last s) (generation : Nat) (scenario : Scenario) :
    Paced n last (Scheduler.setUp generation s scenario) := by
  rw [Scheduler.setUp]
  split
  · exact (h.leaves (leaves_around s _)).settle generation scenario _
  · exact (h.leaves (leaves_around s _)).leaves (leaves_report _ _ _)

theorem takeIn (h : Paced n last s) (generation : Nat) (scenarios : List Scenario) :
    Paced n last (s.takeIn generation scenarios) := by
  have hloaded : Paced n last { s with loaded := kept scenarios, loads := s.loads + 1 } :=
    h.leaves (.of_eq rfl rfl rfl (Nat.le_refl _))
  have htaken := List.foldlRecOn (motive := Paced n last) scenarios (Scheduler.setUp generation) hloaded
    fun _ ht scenario _ => ht.setUp generation scenario
  exact (htaken.leaves (leaves_publishMenu _)).leaves (.of_eq rfl rfl rfl (Nat.le_refl _))

/-- Loading takes in loops with an alarm each, once those of before have gone. -/
theorem load (h : Paced n last s) (hloops : s.loops = []) : Paced n last s.load := by
  have hrenewed : Paced n last s.renewed :=
    { numbered := h.numbered
      fresh := h.fresh
      waits := fun l hl => absurd (hloops ▸ hl) List.not_mem_nil
      told := fun l hl => absurd (hloops ▸ hl) List.not_mem_nil }
  cases hask : s.ask .list (s.store.list true) with
  | error fault =>
    rw [load_of_error hask]
    exact hrenewed.leaves (leaves_report _ _ _)
  | ok scenarios =>
    rw [load_of_ok hask]
    exact hrenewed.takeIn _ scenarios

theorem finishLoading (h : Paced n last s) (hloops : s.loops = []) (m : Nat) : Paced n last (s.finishLoading m) :=
  ((h.load hloops).leaves (leaves_endCall _ m)).leaves (leaves_release _)

end Paced

/-! ## Beats -/

theorem leaves_follow (s : Scheduler) (l : PollingLoop) (turn : Turn) : Leaves n s (s.follow l turn) := by
  cases turn with
  | fires bindings => exact leaves_spawnLoaded s _ bindings
  | declines => exact .refl s
  | raises fault => exact leaves_report s _ _

/-- A turn of one loop leaves the others waiting. -/
theorem leaves_wakeLoopBy (j : Judge) (s : Scheduler) {m : Nat} (hm : m ≠ n) : Leaves n s (s.wakeLoopBy j m) := by
  rw [wakeLoopBy]
  split
  · exact .refl s
  · next l hfind =>
    have hl : l ∈ s.loops := List.mem_of_find?_eq_some hfind
    have hnumber : (j.ask l).2.number = m :=
      (PollingLoop.badge_eq_iff.mp (j.badge l)).1.trans (by simpa using List.find?_some hfind)
    split
    · have hset : Leaves n s (s.setLoop (j.ask l).2) :=
        { agenda := .refl _
          loops := fun other hother => by
            obtain ⟨old, hold, rfl⟩ := List.mem_map.mp hother
            split
            · exact ⟨l, hl, (j.badge l).symm⟩
            · exact ⟨old, hold, rfl⟩
          generation := rfl
          numbered := Nat.le_refl _ }
      exact (hset.trans (leaves_follow _ _ _)).appoint _ _ (by simpa [hnumber] using hm)
    · exact leaves_dropLoops s [m]

theorem leaves_settled (s : Scheduler) : Leaves n s s.followClearing.endDrained :=
  (leaves_followClearing s).trans (leaves_endDrained _)

theorem mayTell_after {e : Event} (he : (Beat.happens e).Fits s) : MayTell n s (s.after e) := by
  cases e with
  | start => exact mayTell_start s
  | reload => exact mayTell_reload s
  | stop => exact mayTell_stop s
  | alarm a => exact he.elim
  | run id => exact .leaves (leaves_runById s id)
  | hotkey key modifiers => exact .leaves (leaves_startAll s _)
  | press k injected => exact .leaves (leaves_onPress s k injected)
  | release k => exact .leaves (leaves_onRelease s k)
  | command text => exact .leaves (leaves_startAll s _)
  | message text chat => exact .leaves (leaves_onMessage s text chat)
  | paired chat => exact .leaves (leaves_onPaired s chat)
  | report directory r => exact .leaves (leaves_onReport s directory r)
  | store kept => exact .leaves (.of_eq rfl rfl rfl (Nat.le_refl _))
  | scene scene => exact .leaves (.of_core rfl (he n))

/-- What an alarm does that is not for a turn of a loop: it leaves the loop waiting or tells it to end, or it is for a
call that loads, when there is no loop. -/
theorem mayTell_ringBy (hs : s.core.Sound) (j : Judge) {a : Alarm} (ha : a ≠ .loop n) :
    MayTell n s (s.ringBy j a) ∨ s.generation = none ∧ s.loops = [] ∧
      ∃ m, s.ringBy j a = (s.finishLoading m).followClearing.endDrained := by
  cases a with
  | loop m =>
    exact .inl (.leaves ((leaves_wakeLoopBy j s fun hm => ha (congrArg Alarm.loop hm)).trans (leaves_settled _)))
  | run m => exact .inl (.leaves ((leaves_wakeRun s m).trans (leaves_settled _)))
  | message connection text chat =>
    exact .inl (.leaves ((leaves_onFetched s connection text chat).trans (leaves_settled _)))
  | call m =>
    by_cases hsettling : ∃ c ∈ s.calls, c.number = m ∧ c.stage = .settling
    · obtain ⟨c, hc, rfl, hstage⟩ := hsettling
      have hquiet : c.stage.isQuiet = true := hstage ▸ rfl
      refine .inr ⟨(hs.quiet c hc hquiet).1, hs.settled c hc hstage, c.number, ?_⟩
      have hwake : s.wakeCall c.number = s.finishLoading c.number := by
        have hfind : s.calls.find? (·.number == c.number) = some c := find?_number hs.callNumbers hc
        rw [wakeCall, hfind]
        dsimp only
        rw [hstage]
      exact congrArg (fun t : Scheduler => t.followClearing.endDrained) hwake
    · refine .inl (MayTell.followed (mayTell_wakeCall fun c hc hn hstage => ?_) (leaves_settled _))
      exact hsettling ⟨c, hc, hn, hstage⟩
  | _ => exact .inl (.leaves (leaves_settled s))

/-- What a beat does about a loop: it is a turn of the loop; or it is for a call that loads, when there is no loop; or
it leaves the loop waiting or tells it to end. -/
theorem beat_cases (n : Nat) (hs : s.core.Sound) (hb : b.Fits s) :
    (∃ p ∈ b.alarm? s, p.alarm = .loop n) ∨
    (s.generation = none ∧ s.loops = [] ∧
      ∃ m, s.beat b = ((s.begins b).finishLoading m).followClearing.endDrained) ∨
    MayTell n (s.begins b) (s.beat b) := by
  cases b with
  | happens e => exact .inr (.inr (mayTell_after hb))
  | rings place instant j =>
    cases hp : s.agenda.appointments[place]? with
    | none =>
      simp only [beat, begins, hp]
      exact .inr (.inr (.leaves (.refl s)))
    | some p =>
      by_cases ha : p.alarm = .loop n
      · exact .inl ⟨p, hp, ha⟩
      · simp only [beat, begins, hp]
        exact .inr ((mayTell_ringBy (s := s.takeOut p instant) hs j ha).symm)

/-- An alarm for something else that is taken out leaves a loop waiting. -/
theorem leaves_begins (hs : s.agenda.Numbered) (h : ∀ p ∈ b.alarm? s, p.alarm ≠ .loop n) : Leaves n s (s.begins b) := by
  cases b with
  | happens e => exact .refl s
  | rings place instant j =>
    cases hp : s.agenda.appointments[place]? with
    | none =>
      simp only [begins, hp]
      exact .refl s
    | some p =>
      simp only [begins, hp]
      have hmem : p ∈ s.agenda.appointments := List.mem_of_getElem? hp
      exact .of_core rfl ⟨fun ha => ha.filter _, (Agenda.dues_without hs hmem n).1 (h p hp)⟩

theorem core_begins (s : Scheduler) (b : Beat) : (s.begins b).core = s.core := by
  cases b with
  | happens e => rfl
  | rings place instant j =>
    rw [begins]
    cases s.agenda.appointments[place]? <;> rfl

theorem numbered_le_beat (hs : s.core.Sound) (b : Beat) : s.numbered ≤ (s.beat b).numbered :=
  beat_induction (K := fun c => s.numbered ≤ c.numbered) hs (Nat.le_refl _) (fun _ _ h => h)
    (fun _ _ _ _ hmove h => Nat.le_trans h (Core.numbered_le_of_move hmove)) b

end Scheduler

end Deskhand
