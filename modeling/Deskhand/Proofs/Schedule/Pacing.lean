import Deskhand.Proofs.Schedule.Detections
import Deskhand.Proofs.Schedule.LoopAlarms
import Mathlib.Data.List.Chain

/-!
# The pace of loops

A loop evaluates its trigger, waits, and evaluates it again, until its generation may not run any more. What it
evaluates in the course of a history is listed with the times of the turns (`evaluations`), and compared with its alarms
and with the runs that start at its turns. Main statements:

* `evaluates_of_current`, `ends_of_not_current`: a turn of a loop that may run, and of one that may not;
* `Paced.beats`: the alarms of a loop in the course of a history;
* `Paced.isChain`, `Paced.bindings_startedBy`: the waits between evaluations, and the runs of those that fire;
* `IsNew.polls_steadily`: evaluations, waits and runs of loops in the course of any history.
-/

namespace Deskhand

/-- The values with which a run starts if a trigger fires. -/
def Turn.bindings? : Turn → Option (List (String × Value))
  | .fires bindings => some bindings
  | _ => none

theorem Turn.eq_fires {turn : Turn} {bindings : List (String × Value)} (h : turn.bindings? = some bindings) :
    turn = .fires bindings := by
  cases turn with
  | fires found => exact congrArg Turn.fires (Option.some.inj h)
  | _ => cases h

namespace Scheduler

/-- The evaluation of the trigger of a loop at a beat: the alarm of the loop rings, and its generation may run. -/
def evaluation? (n : Nat) (s : Scheduler) : Beat → Option Evaluation
  | .rings place instant j => do
    let p ← (s.agenda.appointments[place]?).filter (·.alarm == .loop n)
    let l ← s.current.find? (·.number == n)
    return ⟨p.due, instant, (j.ask l).1, s.times⟩
  | .happens _ => none

/-- The evaluations of the trigger of a loop in the course of a history. -/
def evaluations (n : Nat) : Scheduler → List Beat → List Evaluation
  | _, [] => []
  | s, b :: rest => (s.evaluation? n b).toList ++ evaluations n (s.beat b) rest

/-- The runs that are started at a beat that is a turn of a loop. -/
def startedAt (n : Nat) (s : Scheduler) (b : Beat) : List Run :=
  if (b.alarm? s).any (·.alarm == .loop n) then (s.beat b).runs.drop s.runs.length else []

/-- The runs that are started at the turns of a loop in the course of a history. -/
def startedBy (n : Nat) : Scheduler → List Beat → List Run
  | _, [] => []
  | s, b :: rest => s.startedAt n b ++ startedBy n (s.beat b) rest

variable {s t : Scheduler} {n : Nat} {last : Option Evaluation} {b : Beat}

/-! ## Turns of a loop -/

/-- The only alarm of a loop leaves it without one when it rings. -/
theorem Paced.dues_takeOut (h : Paced n last s) {p : Appointment} (hp : p ∈ s.agenda.appointments)
    (ha : p.alarm = .loop n) {due : Float} (hdues : s.dues n = [due]) (instant : Float) :
    p.due = due ∧ (s.takeOut p instant).dues n = [] := by
  obtain ⟨front, back, hbefore, hafter⟩ := (Agenda.dues_without h.numbered hp n).2 ha
  have hsingle : front ++ p.due :: back = [due] := hbefore.symm.trans hdues
  obtain ⟨rfl, hrest⟩ | ⟨-, hrest⟩ := List.append_eq_singleton_iff.mp hsingle
  · obtain ⟨hdue, rfl⟩ := List.cons.inj hrest
    exact ⟨hdue, hafter⟩
  · cases hrest

/-- What a turn of a loop that may run leads to, when the meter shows a reading. -/
structure Evaluates (j : Judge) (l : PollingLoop) (instant : Float) (s t : Scheduler) : Prop where
  /-- A trigger that fires starts one run of the scenario of the loop. -/
  fires : ∀ bindings, (j.ask l).1 = .fires bindings → ∃ scenario, s.loaded.find? l.scenario = some scenario ∧
    t.runs = s.runs ++ [{ number := s.numbered, scenario := scenario, load := some s.loads, bindings := bindings }]
  /-- One that does not fire starts none. -/
  rests : (j.ask l).1.bindings? = none → t.runs = s.runs
  /-- A fault that a trigger raises is noted in the log, and that is all. -/
  raises : ∀ fault, (j.ask l).1 = .raises fault → t.around = ((s.setElapsed instant).report .error
    ("Loop error in scenario '" ++ s.nameOf l.scenario ++ "': " ++ fault.message)).around
  silent : (∀ fault, (j.ask l).1 ≠ .raises fault) → t.around = (s.setElapsed instant).around
  /-- The loop goes on, whatever came of the turn, and so do the other ones. -/
  goesOn : t.generation = s.generation ∧ ∃ l' ∈ t.loops, l'.badge = l.badge
  spares : ∀ other ∈ s.loops, other.number ≠ l.number → other ∈ t.loops
  /-- Its next turn comes after the wait that the outcome calls for. -/
  waits : t.dues l.number = [instant + PollingLoop.pause s.times (j.ask l).1]

/-- What a turn of a loop that may not run leads to. -/
structure Ends (n : Nat) (instant : Float) (s t : Scheduler) : Prop where
  runs : t.runs = s.runs
  around : t.around = (s.setElapsed instant).around
  generation : t.generation = s.generation
  loops : t.loops = s.loops.filter (·.number != n)

theorem beat_rings {place : Nat} {p : Appointment} (hp : s.agenda.appointments[place]? = some p)
    (ha : p.alarm = .loop n) (instant : Float) (j : Judge) :
    s.beat (.rings place instant j) = ((s.takeOut p instant).wakeLoopBy j n).followClearing.endDrained := by
  simp only [beat, hp, ha, ringBy]

/-- What follows a turn leaves all but calls, the lock and their alarms as it is. -/
theorem settled_frame (s : Scheduler) :
    s.followClearing.endDrained.runs = s.runs ∧ s.followClearing.endDrained.loops = s.loops ∧
      s.followClearing.endDrained.around = s.around :=
  ⟨(followClearing_frame s).1, (followClearing_frame s).2.1, (followClearing_frame s).2.2.2⟩

theorem follow_spec (s : Scheduler) (l : PollingLoop) (turn : Turn) :
    (s.follow l turn).loops = s.loops ∧
      (turn.bindings? = none → (s.follow l turn).runs = s.runs) ∧
      ((∀ fault, turn ≠ .raises fault) → (s.follow l turn).around = s.around) ∧
      (s.follow l turn).elapsed = s.elapsed := by
  cases turn with
  | fires bindings =>
    rw [follow, spawnLoaded]
    split <;> exact ⟨rfl, fun h => (by cases h), fun _ => rfl, rfl⟩
  | declines => exact ⟨rfl, fun _ => rfl, fun _ => rfl, rfl⟩
  | raises fault => exact ⟨rfl, fun _ => rfl, fun h => absurd rfl (h fault), rfl⟩

/-- A turn of a loop that has no other alarm. -/
theorem evaluates_takeTurnBy (j : Judge) {l : PollingLoop} (hl : l ∈ s.loops) {scenario : Scenario}
    (hloaded : s.loaded.find? l.scenario = some scenario) (hdues : s.dues l.number = []) :
    Evaluates j l s.elapsed s (s.takeTurnBy j l) := by
  have hbadge := j.badge l
  obtain ⟨turn, l', hturn⟩ : ∃ turn l', j.ask l = (turn, l') := ⟨_, _, rfl⟩
  rw [hturn] at hbadge
  obtain ⟨hnumber, -, hscenario, -⟩ := PollingLoop.badge_eq_iff.mp hbadge
  dsimp only at hnumber hscenario
  obtain ⟨hloops, hruns, haround, htime⟩ := follow_spec (s.setLoop l') l' turn
  have htaken : s.takeTurnBy j l =
      ((s.setLoop l').follow l' turn).appoint (PollingLoop.pause s.times turn) .looks (.loop l.number) := by
    rw [takeTurnBy, hturn, ← hnumber]
  have hleaves : Leaves l.number (s.setLoop l') ((s.setLoop l').follow l' turn) := leaves_follow _ _ _
  have hnone : ((s.setLoop l').follow l' turn).agenda.dues l.number = [] := hleaves.agenda.dues.trans hdues
  rw [htaken]
  exact {
    fires := fun bindings hfires => ⟨scenario, hloaded, by
      rw [hturn] at hfires
      obtain rfl : turn = .fires bindings := hfires
      exact runs_follow_fires (s := s.setLoop l') (hscenario ▸ hloaded) bindings⟩
    rests := fun hrests => hruns (by rwa [hturn] at hrests)
    raises := fun fault hraises => by
      rw [hturn] at hraises
      obtain rfl : turn = .raises fault := hraises
      rw [← hscenario]
      rfl
    silent := fun hsilent => haround (by rwa [hturn] at hsilent)
    goesOn := by
      refine ⟨hleaves.generation, l', ?_, hbadge⟩
      rw [show (Scheduler.appoint _ _ _ _).loops = (s.setLoop l').loops from hloops]
      exact List.mem_map.mpr ⟨l, hl, if_pos (beq_iff_eq.mpr hnumber.symm)⟩
    spares := fun other hother hne => by
      rw [show (Scheduler.appoint _ _ _ _).loops = (s.setLoop l').loops from hloops]
      exact List.mem_map.mpr ⟨other, hother, if_neg (by simpa [hnumber] using hne)⟩
    waits := by
      rw [dues, appoint, Agenda.dues_set, hnone, htime, if_pos rfl, hturn]
      rfl }

theorem Evaluates.settled {j : Judge} {l : PollingLoop} {instant : Float} (h : Evaluates j l instant s t) :
    Evaluates j l instant s t.followClearing.endDrained := by
  obtain ⟨hruns, hloops, haround⟩ := settled_frame t
  have hleaves := leaves_settled (n := l.number) t
  exact {
    fires := by rw [hruns]; exact h.fires
    rests := by rw [hruns]; exact h.rests
    raises := by rw [haround]; exact h.raises
    silent := by rw [haround]; exact h.silent
    goesOn := by rw [hloops, hleaves.generation]; exact h.goesOn
    spares := by rw [hloops]; exact h.spares
    waits := hleaves.agenda.dues.trans h.waits }

/-- A loop may run, or it may not. -/
theorem current_or_not (s : Scheduler) (n : Nat) :
    (∃ l ∈ s.loops, l.number = n ∧ s.generation = some l.generation) ∨
      ∀ l ∈ s.loops, l.number = n → s.generation ≠ some l.generation := by
  by_cases h : ∃ l ∈ s.loops, l.number = n ∧ s.generation = some l.generation
  · exact .inl h
  · exact .inr fun l hl hn hgen => h ⟨l, hl, hn, hgen⟩

/-- A turn of a loop that may run. -/
theorem evaluates_of_current (hs : s.core.Sound) (h : Paced n last s) {l : PollingLoop} (hl : l ∈ s.loops)
    (hn : l.number = n) (hgen : s.generation = some l.generation) {place : Nat} {p : Appointment}
    (hp : s.agenda.appointments[place]? = some p) (ha : p.alarm = .loop n) (instant : Float) (j : Judge) :
    Evaluates j l instant s (s.beat (.rings place instant j)) := by
  subst hn
  obtain ⟨due, hdues, -⟩ := h.waits l hl rfl hgen
  obtain ⟨-, hnone⟩ := h.dues_takeOut (List.mem_of_getElem? hp) ha hdues instant
  obtain ⟨scenario, hloaded⟩ := Option.isSome_iff_exists.mp (hs.loaded l hl hgen)
  have hwake : (s.takeOut p instant).wakeLoopBy j l.number = (s.takeOut p instant).takeTurnBy j l := by
    have hfind : (s.takeOut p instant).loops.find? (·.number == l.number) = some l := find?_number hs.loopNumbers hl
    rw [wakeLoopBy, hfind]
    exact if_pos (beq_iff_eq.mpr hgen)
  have hturn := (evaluates_takeTurnBy (s := s.takeOut p instant) j hl hloaded hnone).settled
  rw [beat_rings hp ha, hwake]
  exact ⟨hturn.fires, hturn.rests, hturn.raises, hturn.silent, hturn.goesOn, hturn.spares, hturn.waits⟩

/-- A loop that may not run does not ask its trigger, but ends. -/
theorem wakeLoopBy_of_not_current (h : ∀ l ∈ s.loops, l.number = n → s.generation ≠ some l.generation) (j : Judge) :
    s.wakeLoopBy j n = s.dropLoops [n] := by
  rw [wakeLoopBy]
  split
  · next hfind =>
    have hall : s.loops.filter (fun l => !([n].contains l.number)) = s.loops :=
      List.filter_eq_self.mpr fun l hl => by simpa using List.find?_eq_none.mp hfind l hl
    rw [dropLoops, hall]
  · next l hfind =>
    have hover := h l (List.mem_of_find?_eq_some hfind) (by simpa using List.find?_some hfind)
    exact if_neg (by simpa using hover)

theorem beat_of_not_current (h : ∀ l ∈ s.loops, l.number = n → s.generation ≠ some l.generation) {place : Nat}
    {p : Appointment} (hp : s.agenda.appointments[place]? = some p) (ha : p.alarm = .loop n) (instant : Float)
    (j : Judge) :
    s.beat (.rings place instant j) = ((s.takeOut p instant).dropLoops [n]).followClearing.endDrained := by
  rw [beat_rings hp ha, wakeLoopBy_of_not_current (s := s.takeOut p instant) h]

/-- A turn of a loop that may not run. -/
theorem ends_of_not_current (h : ∀ l ∈ s.loops, l.number = n → s.generation ≠ some l.generation) {place : Nat}
    {p : Appointment} (hp : s.agenda.appointments[place]? = some p) (ha : p.alarm = .loop n) (instant : Float)
    (j : Judge) : Ends n instant s (s.beat (.rings place instant j)) := by
  obtain ⟨hruns, hloops, haround⟩ := settled_frame ((s.takeOut p instant).dropLoops [n])
  have hleaves := leaves_settled (n := n) ((s.takeOut p instant).dropLoops [n])
  rw [beat_of_not_current h hp ha]
  refine ⟨hruns, haround, hleaves.generation, hloops.trans (List.filter_congr fun l _ => ?_)⟩
  simp [bne, beq_eq_decide]

/-- The trigger of a loop is asked only when an alarm of the loop rings. -/
theorem beat_congr {place : Nat} {p : Appointment} (hp : s.agenda.appointments[place]? = some p)
    (ha : p.alarm ≠ .loop n) (instant : Float) {j j' : Judge}
    (h : ∀ other : PollingLoop, other.number ≠ n → j.ask other = j'.ask other) :
    s.beat (.rings place instant j) = s.beat (.rings place instant j') := by
  simp only [beat, hp]
  generalize p.alarm = a at ha
  cases a with
  | loop m =>
    have hwake : (s.takeOut p instant).wakeLoopBy j m = (s.takeOut p instant).wakeLoopBy j' m := by
      cases hfind : (s.takeOut p instant).loops.find? (·.number == m) with
      | none => simp only [wakeLoopBy, hfind]
      | some l =>
        have hn : l.number = m := by simpa using List.find?_some hfind
        simp only [wakeLoopBy, hfind, takeTurnBy, h l fun heq => ha (congrArg Alarm.loop (hn.symm.trans heq))]
    simp only [ringBy, hwake]
  | _ => rfl

/-! ## Evaluations in the course of a history -/

theorem evaluation?_eq_none (h : ∀ p ∈ b.alarm? s, p.alarm ≠ .loop n) : s.evaluation? n b = none := by
  cases b with
  | happens e => rfl
  | rings place instant j =>
    have hnone : (s.agenda.appointments[place]?).filter (·.alarm == .loop n) = none :=
      Option.filter_eq_none_iff.mpr fun p hp => by simpa using h p hp
    rw [evaluation?, hnone]
    rfl

theorem evaluation?_of_current (hs : s.core.Sound) {l : PollingLoop} (hl : l ∈ s.loops) (hn : l.number = n)
    (hgen : s.generation = some l.generation) {place : Nat} {p : Appointment}
    (hp : s.agenda.appointments[place]? = some p) (ha : p.alarm = .loop n) (instant : Float) (j : Judge) :
    s.evaluation? n (.rings place instant j) = some ⟨p.due, instant, (j.ask l).1, s.times⟩ := by
  have hmem : l ∈ s.current := List.mem_filter.mpr ⟨hl, beq_iff_eq.mpr hgen⟩
  have hnodup : (s.current.map PollingLoop.number).Nodup :=
    hs.loopNumbers.sublist (List.filter_sublist.map _)
  have hfind : s.current.find? (·.number == n) = some l := hn ▸ find?_number hnodup hmem
  have hfilter : (some p).filter (·.alarm == .loop n) = some p := by simp [ha]
  rw [evaluation?, hp, hfilter, hfind]
  rfl

theorem evaluation?_of_not_current (h : ∀ l ∈ s.loops, l.number = n → s.generation ≠ some l.generation) (b : Beat) :
    s.evaluation? n b = none := by
  cases b with
  | happens e => rfl
  | rings place instant j =>
    have hnone : s.current.find? (·.number == n) = none := List.find?_eq_none.mpr fun l hl hn => by
      obtain ⟨hl, hgen⟩ := List.mem_filter.mp hl
      exact h l hl (by simpa using hn) (beq_iff_eq.mp hgen)
    rw [evaluation?, hnone]
    cases (s.agenda.appointments[place]?).filter (·.alarm == .loop n) <;> rfl

/-- The alarms of a loop after a turn. -/
theorem Paced.turn (hs : s.core.Sound) (h : Paced n last s) {place : Nat} {p : Appointment}
    (hp : s.agenda.appointments[place]? = some p) (ha : p.alarm = .loop n) (instant : Float) (j : Judge) :
    Paced n ((s.evaluation? n (.rings place instant j)).or last) (s.beat (.rings place instant j)) := by
  have hmem : p ∈ s.agenda.appointments := List.mem_of_getElem? hp
  have hnumbered : (s.beat (.rings place instant j)).agenda.Numbered := by
    -- seen from another loop this is one of the beats that leave it waiting
    have hleaves := leaves_wakeLoopBy (n := n + 1) j (s.takeOut p instant) (Nat.ne_of_lt (Nat.lt_succ_self n))
    rw [beat_rings hp ha]
    exact (hleaves.trans (leaves_settled _)).agenda.numbered (h.numbered.filter _)
  have hlt : s.numbered ≤ n → False := fun hle => by
    obtain ⟨front, back, hdues, -⟩ := (Agenda.dues_without h.numbered hmem n).2 ha
    have hnone : front ++ p.due :: back = [] := hdues.symm.trans (h.fresh hle).1
    simp at hnone
  have hfresh : ¬ (s.beat (.rings place instant j)).numbered ≤ n := fun hle =>
    hlt (Nat.le_trans (numbered_le_beat hs _) hle)
  rcases s.current_or_not n with ⟨l, hl, hn, hgen⟩ | hover
  · have hwaits := (evaluates_of_current hs h hl hn hgen hp ha instant j).waits
    rw [evaluation?_of_current hs hl hn hgen hp ha instant j, Option.some_or]
    rw [hn] at hwaits
    exact ⟨hnumbered, fun hle => absurd hle hfresh, fun _ _ _ _ => ⟨_, hwaits, by simp [Evaluation.pause]⟩,
      fun _ _ _ => by simp [hwaits]⟩
  · have hends := ends_of_not_current hover hp ha instant j
    have hgone : ∀ l ∈ (s.beat (.rings place instant j)).loops, l.number = n → False := fun l hl hn => by
      rw [hends.loops] at hl
      simpa [hn] using (List.mem_filter.mp hl).2
    exact ⟨hnumbered, fun hle => absurd hle hfresh, fun l hl hn => (hgone l hl hn).elim,
      fun l hl hn => (hgone l hl hn).elim⟩

/-- The alarms of a loop after a beat. -/
theorem Paced.beat (hs : s.core.Sound) (h : Paced n last s) (hb : b.Fits s) :
    Paced n ((s.evaluation? n b).or last) (s.beat b) := by
  by_cases hturn : ∃ p ∈ b.alarm? s, p.alarm = .loop n
  · obtain ⟨p, hp, ha⟩ := hturn
    cases b with
    | happens e => cases hp
    | rings place instant j => exact h.turn hs hp ha instant j
  · have hother : ∀ p ∈ b.alarm? s, p.alarm ≠ .loop n := fun p hp ha => hturn ⟨p, hp, ha⟩
    have hbegins : Paced n last (s.begins b) := h.leaves (leaves_begins h.numbered hother)
    have hcore : (s.begins b).core = s.core := core_begins s b
    rw [evaluation?_eq_none hother, Option.none_or]
    rcases beat_cases n hs hb with hloop | ⟨-, hloops, m, hbeat⟩ | htell
    · exact absurd hloop hturn
    · rw [hbeat]
      exact (hbegins.finishLoading ((congrArg Core.loops hcore).trans hloops) m).leaves (leaves_settled _)
    · refine hbegins.mayTell (fun l hl => ?_) htell
      have hloops : (s.begins b).loops = s.loops := congrArg Core.loops hcore
      have hnumbered : (s.begins b).numbered = s.numbered := congrArg Core.numbered hcore
      rw [hloops] at hl
      rw [hnumbered]
      exact hs.loops_lt l hl

/-- The alarms of a loop after a history. -/
theorem Paced.beats (hs : s.core.Sound) (h : Paced n last s) {bs : List Beat} (hbs : Throughout Beat.Fits s bs) :
    Paced n ((evaluations n s bs).getLast?.or last) (s.beats bs) := by
  induction bs generalizing s last with
  | nil => exact h
  | cons b rest ih =>
    have hrest := ih (sound_beat hs hbs.1) (h.beat hs hbs.1) hbs.2
    have hlast : ∀ o : Option Evaluation, o.toList.getLast? = o := fun o => by cases o <;> rfl
    rw [evaluations, List.getLast?_append, hlast, Option.or_assoc]
    exact hrest

/-- A turn at which a loop evaluates its trigger was set for the end of the wait after the last evaluation. -/
theorem Paced.due_eq (h : Paced n last s) {e : Evaluation} (he : s.evaluation? n b = some e) :
    ∀ a ∈ last, e.due = a.time + a.pause := by
  cases b with
  | happens e => cases he
  | rings place instant j =>
    simp only [evaluation?, Option.bind_eq_bind, Option.bind_eq_some_iff, Option.filter_eq_some_iff, beq_iff_eq] at he
    obtain ⟨p, ⟨hp, ha⟩, l, hfind, he⟩ := he
    obtain ⟨hl, hgen⟩ := List.mem_filter.mp (List.mem_of_find?_eq_some hfind)
    have hn : l.number = n := by simpa using List.find?_some hfind
    obtain ⟨due, hdues, hlast⟩ := h.waits l hl hn (beq_iff_eq.mp hgen)
    obtain ⟨hdue, -⟩ := h.dues_takeOut (List.mem_of_getElem? hp) ha hdues instant
    obtain rfl := Option.some.inj he
    exact fun a hmem => hdue.trans (hlast a hmem)

/-- Every evaluation in the course of a history was set for the end of the wait after the one before. -/
theorem Paced.isChain (hs : s.core.Sound) (h : Paced n last s) {bs : List Beat} (hbs : Throughout Beat.Fits s bs) :
    (last.toList ++ evaluations n s bs).IsChain fun a b => b.due = a.time + a.pause := by
  induction bs generalizing s last with
  | nil => cases last <;> simp [evaluations]
  | cons b rest ih =>
    have hrest := ih (sound_beat hs hbs.1) (h.beat hs hbs.1) hbs.2
    cases he : s.evaluation? n b with
    | none =>
      rw [he, Option.none_or] at hrest
      rw [evaluations, he]
      exact hrest
    | some e =>
      rw [he, Option.some_or] at hrest
      rw [evaluations, he]
      cases last with
      | none => exact hrest
      | some a => exact List.isChain_cons_cons.mpr ⟨h.due_eq he a rfl, hrest⟩

/-- In a history in which alarms ring at their time, so do those of a loop. -/
theorem due_lt_of_mem_evaluations {bs : List Beat} (hbs : Throughout Beat.IsOnTime s bs) {e : Evaluation}
    (he : e ∈ evaluations n s bs) : e.due < e.time + Agenda.resolution := by
  induction bs generalizing s with
  | nil => cases he
  | cons b rest ih =>
    rcases List.mem_append.mp he with he | he
    · have he : s.evaluation? n b = some e := by simpa using he
      cases b with
      | happens e => cases he
      | rings place instant j =>
        simp only [evaluation?, Option.bind_eq_bind, Option.bind_eq_some_iff, Option.filter_eq_some_iff] at he
        obtain ⟨p, ⟨hp, -⟩, l, -, he⟩ := he
        obtain rfl := Option.some.inj he
        exact hbs.1 p hp
    · exact ih hbs.2 he

/-- A beat that is a turn of a loop starts a run iff the loop evaluates its trigger and that fires. -/
theorem Paced.bindings_startedAt (hs : s.core.Sound) (h : Paced n last s) (b : Beat) :
    (s.startedAt n b).map Run.bindings = (s.evaluation? n b).toList.filterMap (·.outcome.bindings?) := by
  by_cases hturn : ∃ p ∈ b.alarm? s, p.alarm = .loop n
  · obtain ⟨p, hp, ha⟩ := hturn
    rw [startedAt, if_pos (by rw [Option.mem_def.mp hp]; simp [ha])]
    cases b with
    | happens e => cases hp
    | rings place instant j =>
      rcases s.current_or_not n with ⟨l, hl, hn, hgen⟩ | hover
      · have hturn := evaluates_of_current hs h hl hn hgen hp ha instant j
        rw [evaluation?_of_current hs hl hn hgen hp ha]
        cases hasked : (j.ask l).1.bindings? with
        | none => simp [hturn.rests hasked, hasked]
        | some bindings =>
          obtain ⟨scenario, -, hruns⟩ := hturn.fires bindings (Turn.eq_fires hasked)
          simp [hruns, hasked]
      · rw [(ends_of_not_current hover hp ha instant j).runs, evaluation?_of_not_current hover, List.drop_length]
        rfl
  · have hother : ∀ p ∈ b.alarm? s, p.alarm ≠ .loop n := fun p hp ha => hturn ⟨p, hp, ha⟩
    rw [evaluation?_eq_none hother, startedAt, if_neg]
    · rfl
    · cases hp : b.alarm? s with
      | none => simp
      | some p => simpa using hother p hp

/-- The runs that are started at the turns of a loop are those of its evaluations that fire. -/
theorem Paced.bindings_startedBy (hs : s.core.Sound) (h : Paced n last s) {bs : List Beat}
    (hbs : Throughout Beat.Fits s bs) :
    (startedBy n s bs).map Run.bindings = (evaluations n s bs).filterMap (·.outcome.bindings?) := by
  induction bs generalizing s last with
  | nil => rfl
  | cons b rest ih =>
    rw [startedBy, evaluations, List.map_append, List.filterMap_append, h.bindings_startedAt hs b,
      ih (sound_beat hs hbs.1) (h.beat hs hbs.1) hbs.2]

/-! ## Loops that are told to end -/

/-- A loop whose generation may not run any more evaluates nothing in the course of any history. -/
theorem Core.IsOver.evaluations_eq_nil {l : PollingLoop} (hs : s.core.Sound) (h : s.core.IsOver l) {bs : List Beat}
    (hbs : Throughout Beat.Fits s bs) : evaluations l.number s bs = [] := by
  induction bs generalizing s with
  | nil => rfl
  | cons b rest ih =>
    have hover : ∀ l' ∈ s.loops, l'.number = l.number → s.generation ≠ some l'.generation := fun l' hl' hn => by
      rw [(PollingLoop.badge_eq_iff.mp (h.badge l' hl' hn)).2.1]
      exact h.ended
    have hbeat : (s.beats [b]).core.IsOver l := h.beats hs ⟨hbs.1, trivial⟩
    rw [evaluations, evaluation?_of_not_current hover, ih (sound_beat hs hbs.1) hbeat hbs.2]
    rfl

/-- A loop whose generation may not run any more from a beat on gets an alarm at once, if it was not dropped. -/
theorem dues_of_told (hs : s.core.Sound) (h : Paced n last s) (hb : b.Fits s) {l : PollingLoop} (hl : l ∈ s.loops)
    (hn : l.number = n) (hgen : s.generation = some l.generation)
    (hover : (s.beat b).generation ≠ some l.generation) (hthere : ∃ l' ∈ (s.beat b).loops, l'.number = n) :
    (s.begins b).elapsed + 0.0 ∈ (s.beat b).dues n := by
  have hcore : (s.begins b).core = s.core := core_begins s b
  have hgeneration : (s.begins b).generation = s.generation := congrArg Core.generation hcore
  have hloops : (s.begins b).loops = s.loops := congrArg Core.loops hcore
  rcases beat_cases n hs hb with ⟨p, hp, ha⟩ | ⟨hnone, -⟩ | htell
  · cases b with
    | happens e => cases hp
    | rings place instant j =>
      have hturn := evaluates_of_current hs h hl hn hgen hp ha instant j
      exact absurd (hturn.goesOn.1.trans hgen) hover
  · cases hnone.symm.trans hgen
  · cases htell with
    | leaves hleaves => exact absurd ((hleaves.generation.trans hgeneration).trans hgen) hover
    | @tells u before time after =>
      -- the loop is still there when the loops are told
      obtain ⟨l', hl', hn'⟩ := hthere
      obtain ⟨kept, hkept, hb'⟩ := after.loops l' hl'
      have hclear : u.clear.loops = u.loops.map unwatch := congrArg Core.loops (core_clear u)
      rw [hclear] at hkept
      obtain ⟨told, htold, rfl⟩ := List.mem_map.mp hkept
      obtain ⟨old, hold, hbadge⟩ := before.loops told htold
      have htold' := told.badge_unwatch.symm.trans hb'
      have hnumber : told.number = n := (PollingLoop.badge_eq_iff.mp htold').1.trans hn'
      obtain ⟨holdNumber, holdGeneration, -⟩ := PollingLoop.badge_eq_iff.mp hbadge
      rw [hloops] at hold
      obtain rfl : old = l :=
        List.inj_on_of_nodup_map hs.loopNumbers hold hl ((holdNumber.trans hnumber).trans hn.symm)
      have hcurrent : u.generation = some told.generation := by
        rw [before.generation, hgeneration, hgen, holdGeneration]
      have hmem : told ∈ u.current := List.mem_filter.mpr ⟨htold, beq_iff_eq.mpr hcurrent⟩
      have hdues : (s.beat b).dues n = u.clear.dues n := after.agenda.dues
      rw [hdues, dues_clear, time]
      exact List.mem_append_right _ (List.mem_map.mpr ⟨told, List.mem_filter.mpr ⟨hmem, beq_iff_eq.mpr hnumber⟩, rfl⟩)

/-! ## Any history -/

/-- How a loop goes on after a history in the course of which it made some evaluations. -/
structure KeepsPace (evaluated : List Evaluation) (l : PollingLoop) (s : Scheduler) : Prop where
  /-- While its generation may run, its only alarm is set for the end of the wait after its last evaluation. -/
  waits : s.generation = some l.generation →
    ∃ due, s.dues l.number = [due] ∧ ∀ e ∈ evaluated.getLast?, due = e.time + e.pause
  /-- When that alarm rings, it evaluates its trigger. -/
  evaluates : s.generation = some l.generation → ∀ place p instant j, s.agenda.appointments[place]? = some p →
    p.alarm = .loop l.number → Evaluates j l instant s (s.beat (.rings place instant j))
  /-- When any other alarm rings, its trigger is not asked. -/
  unasked : ∀ place p instant j j', s.agenda.appointments[place]? = some p → p.alarm ≠ .loop l.number →
    (∀ other : PollingLoop, other.number ≠ l.number → j.ask other = j'.ask other) →
    s.beat (.rings place instant j) = s.beat (.rings place instant j')
  /-- It stays as long as its generation may run. -/
  stays : ∀ bs, Throughout Beat.Fits s bs → (s.beats bs).generation = some l.generation →
    ∃ l' ∈ (s.beats bs).loops, l'.badge = l.badge
  /-- If that ends and the loop is not dropped, then it gets an alarm at once. -/
  atOnce : ∀ b, b.Fits s → s.generation = some l.generation → (s.beat b).generation ≠ some l.generation →
    (∃ l' ∈ (s.beat b).loops, l'.number = l.number) → (s.begins b).elapsed + 0.0 ∈ (s.beat b).dues l.number
  told : s.generation ≠ some l.generation → s.dues l.number ≠ []
  /-- When one of its alarms rings then, it ends, and its trigger is not asked. -/
  ends : s.generation ≠ some l.generation → ∀ place p instant j, s.agenda.appointments[place]? = some p →
    p.alarm = .loop l.number → Ends l.number instant s (s.beat (.rings place instant j)) ∧
      ∀ j', s.beat (.rings place instant j') = s.beat (.rings place instant j)
  /-- Once its generation may not run any more, it evaluates nothing in the course of any history. -/
  evaluatesNoMore : ∀ bs, Throughout Beat.Fits s bs → (s.beats bs).generation ≠ some l.generation →
    ∀ cs, Throughout Beat.Fits (s.beats bs) cs → evaluations l.number (s.beats bs) cs = []

theorem Paced.keepsPace {evaluated : List Evaluation} (hs : s.core.Sound) (hc : s.core.Counts) {l : PollingLoop}
    (hl : l ∈ s.loops) (h : Paced l.number evaluated.getLast? s) : KeepsPace evaluated l s := by
  have htracks : s.core.Tracks l := .of_mem hs hc hl
  have hover : s.generation ≠ some l.generation →
      ∀ l' ∈ s.loops, l'.number = l.number → s.generation ≠ some l'.generation := fun hover l' hl' hn => by
    rwa [List.inj_on_of_nodup_map hs.loopNumbers hl' hl hn]
  exact {
    waits := h.waits l hl rfl
    evaluates := fun hgen _ _ instant j hp ha => evaluates_of_current hs h hl rfl hgen hp ha instant j
    unasked := fun _ _ instant _ _ hp ha hagree => beat_congr hp ha instant hagree
    stays := fun _ hbs hgen => (htracks.beats hs hbs).stays hgen
    atOnce := fun _ hb hgen hends hthere => dues_of_told hs h hb hl rfl hgen hends hthere
    told := fun _ => h.told l hl rfl
    ends := fun hgen _ _ instant j hp ha => ⟨ends_of_not_current (hover hgen) hp ha instant j, fun j' => by
      rw [beat_of_not_current (hover hgen) hp ha, beat_of_not_current (hover hgen) hp ha]⟩
    evaluatesNoMore := fun _ hbs hgen _ hcs =>
      Core.IsOver.evaluations_eq_nil (sound_beats hs hbs) ⟨htracks.beats hs hbs, hgen⟩ hcs }

/-- A new scheduler has no alarm of a loop. -/
theorem IsNew.paced {new : Scheduler} (hnew : IsNew new) (hagenda : new.agenda.Numbered) (n : Nat)
    (hnone : new.dues n = []) : Paced n none new := by
  have hloops : new.loops = [] := congrArg Core.loops hnew.core
  exact ⟨hagenda, fun _ => ⟨hnone, rfl⟩, fun l hl => absurd (hloops ▸ hl) List.not_mem_nil,
    fun l hl => absurd (hloops ▸ hl) List.not_mem_nil⟩

/-- Loops poll steadily, whatever their triggers answer and whatever happens to a scheduler. Every evaluation of a
loop's trigger was set for the end of the wait after the one before, which is the longer one after a fault, and comes no
earlier if alarms ring at their time. The turns of the loop start one run for each evaluation that fires and none
besides. A turn leaves the loop waiting for its next one, whatever came of it; the loop stays as long as its generation
may run; and once that may not run any more, the loop evaluates nothing and ends at its next turn, for which it gets an
alarm at once. -/
theorem IsNew.polls_steadily {new : Scheduler} (hnew : IsNew new) (hagenda : new.agenda.Numbered) {n : Nat}
    (hnone : new.dues n = []) {bs : List Beat} (hbs : Throughout Beat.Fits new bs) :
    (evaluations n new bs).IsChain (fun a b => b.due = a.time + a.pause) ∧
    (Throughout Beat.IsOnTime new bs →
      (evaluations n new bs).IsChain fun a b => a.time + a.pause < b.time + Agenda.resolution) ∧
    (startedBy n new bs).map Run.bindings = (evaluations n new bs).filterMap (·.outcome.bindings?) ∧
    ∀ l ∈ (new.beats bs).loops, l.number = n → KeepsPace (evaluations n new bs) l (new.beats bs) := by
  have hpaced : Paced n none new := hnew.paced hagenda n hnone
  have hchain := hpaced.isChain hnew.sound hbs
  have hcounts : new.core.Counts := by
    rw [hnew.core]
    exact fun l hl => absurd hl List.not_mem_nil
  refine ⟨hchain, fun hontime => ?_, hpaced.bindings_startedBy hnew.sound hbs, ?_⟩
  · refine hchain.imp_of_mem_imp fun a b _ hb hdue => ?_
    rw [← hdue]
    exact due_lt_of_mem_evaluations hontime hb
  · rintro l hl rfl
    have hafter := hpaced.beats hnew.sound hbs
    rw [Option.or_none] at hafter
    exact hafter.keepsPace (sound_beats hnew.sound hbs)
      (beats_induction hnew.sound hcounts (fun _ _ h => h) (fun _ _ _ _ hmove h => h.move hmove) hbs) hl

/-- All triggers raise a fault. -/
def Judge.raising : Judge :=
  ⟨fun l => (.raises (.refused "no answer"), l), fun _ => rfl⟩

/-- All triggers fire. -/
def Judge.firing : Judge :=
  ⟨fun l => (.fires [], l), fun _ => rfl⟩

/-- A scheduler is started and loads a scenario that is polled, whose trigger raises a fault and then fires; then a
second load tells its loop to end. -/
def retried : List Beat :=
  [.happens .start, .rings 0 1.0 .raising, .rings 0 2.0 .raising, .rings 0 62.0 .firing, .happens .reload]

theorem polls_steadily_retried :
    (evaluations 1 (ofRows [pollingRow] none) retried).map (·.outcome.bindings?.isSome) = [false, true] ∧
      (evaluations 1 (ofRows [pollingRow] none) retried).IsChain (fun a b => b.due = a.time + a.pause) ∧
      (startedBy 1 (ofRows [pollingRow] none) retried).map (·.scenario.id) = ["a"] ∧
      ∀ later, Throughout Beat.Fits ((ofRows [pollingRow] none).beats retried) later →
        evaluations 1 ((ofRows [pollingRow] none).beats retried) later = [] := by
  have hnew : IsNew (ofRows [pollingRow] none) := isNew_ofRows (by decide) none
  have hfits : Throughout Beat.Fits (ofRows [pollingRow] none) retried :=
    ⟨trivial, trivial, trivial, trivial, trivial, trivial⟩
  have hagenda : (ofRows [pollingRow] none).agenda.Numbered := ⟨List.nodup_nil, fun p hp => absurd hp List.not_mem_nil⟩
  obtain ⟨hchain, -, -, hloops⟩ := hnew.polls_steadily hagenda (n := 1) rfl hfits
  refine ⟨by decide +kernel, hchain, by decide +kernel, ?_⟩
  -- the loop is still there after the second load has begun, and may not run any more
  have hafter : (fun t : Scheduler => t.loops.map PollingLoop.number = [1] ∧ t.generation = none)
      ((ofRows [pollingRow] none).beats retried) := by decide +kernel
  generalize (ofRows [pollingRow] none).beats retried = s at hafter hloops ⊢
  obtain ⟨hnumbers, hgen⟩ := hafter
  obtain ⟨l, hl, hn⟩ : ∃ l ∈ s.loops, l.number = 1 := List.mem_map.mp (by simp [hnumbers])
  have hover : s.generation ≠ some l.generation := by simp [hgen]
  intro later hlater
  rw [← hn] at hloops ⊢
  exact (hloops l hl rfl).evaluatesNoMore [] trivial hover later hlater

end Scheduler

end Deskhand
