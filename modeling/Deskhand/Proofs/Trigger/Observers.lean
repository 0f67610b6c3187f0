import Deskhand.Trigger.Watch

/-!
# The observers of a watch

A watch is started and stopped, its observers report, and the jobs that reports have queued run later, maybe after the
watch was started or stopped anew; observers may fail whenever they are started or stopped. Whatever comes, the
observers that run are those that the watch holds (`IsHeld`), and a job of an earlier generation finds the watch to
be of a later one (`runJob_of_generation_ne`). Main statements:

* `teardown_of_held`: nothing runs after a teardown, whether or not observers fail;
* `isHeld_setup`: setting up from nothing leaves one observer, two or none, wherever it fails;
* `isHeld_after`: every step keeps the observers that run and those that are held the same;
* `running_eq_observers`: what holds after every history.
-/

namespace Deskhand

/-- The generation that queued a job. -/
def WatchJob.generation : WatchJob → Nat
  | restart generation | teardown generation => generation

namespace Watch

/-- What happens to a watch. -/
inductive Step where
  | start (tree : FileTree) (faults : ObserverFaults)
  | stop (faults : ObserverFaults)
  | hear (role : ObserverRole) (r : ChangeReport) (now : Float)
  /-- A job runs: one of the queue, or one that was taken from it before. -/
  | work (job : WatchJob) (tree : FileTree) (faults : ObserverFaults)
  | check
  | takeDetected

/-- Whether a step begins a new generation. -/
def Step.renews : Step → Bool
  | start .. | stop .. => true
  | _ => false

/-- The watch of a block after a step. -/
def after (b : Block) (w : Watch) : Step → Watch
  | .start tree faults => (w.start b tree faults).2
  | .stop faults => w.stop faults
  | .hear role r now => w.hear b role r now
  | .work job tree faults => (w.dequeue job).runJob b tree faults job
  | .check => w.check.2
  | .takeDetected => w.takeDetected

/-- The watch of a block after steps. -/
def afterAll (b : Block) (w : Watch) (steps : List Step) : Watch :=
  steps.foldl (after b) w

/-- The observers that run are those that the watch holds, each in its own role and with a number of its own; there is
no second one without the first, and none at all while the watch is stopped. -/
structure IsHeld (w : Watch) : Prop where
  running_eq : w.running = w.observers
  numbers : (w.running.map Observer.number ++ [w.made]).Pairwise (· < ·)
  main_role : ∀ o, w.main = some o → o.role = .main
  parent_role : ∀ o, w.parent = some o → o.role = .parent
  main_of_parent : w.parent.isSome → w.main.isSome
  stopped : w.isStopped → w.running = []

variable {b : Block} {tree : FileTree} {faults : ObserverFaults} {w : Watch}

/-! ## Teardown -/

theorem foldl_halt (held : List Observer) (w : Watch) :
    held.foldl (fun w o => (halt faults w o).2) w =
      { w with running := w.running.filter fun o => o.number ∉ held.map Observer.number } := by
  induction held generalizing w with
  | nil =>
    have hall : (w.running.filter fun o => o.number ∉ ([] : List Observer).map Observer.number) = w.running := by
      simp
    rw [List.foldl_nil, hall]
  | cons o held ih =>
    rw [List.foldl_cons, ih, halt, List.filter_filter]
    congr 1
    refine List.filter_congr fun other _ => ?_
    by_cases h : other.number = o.number <;> simp [h]

/-- What a teardown leaves running: the observers that the watch does not hold. -/
theorem teardown_eq (faults : ObserverFaults) (w : Watch) :
    w.teardown faults =
      { w with
        main := none, parent := none
        running := w.running.filter fun o => o.number ∉ w.observers.map Observer.number } := by
  rw [teardown, foldl_halt]

/-- Nothing runs after a teardown of a watch that holds whatever runs. -/
theorem teardown_of_held (h : w.running = w.observers) :
    w.teardown faults = { w with main := none, parent := none, running := [] } := by
  have hnone : (w.running.filter fun o => o.number ∉ w.observers.map Observer.number) = [] := by
    rw [h, List.filter_eq_nil_iff]
    intro o ho
    simpa using List.mem_map_of_mem ho
  rw [teardown_eq, hnone]

/-- A watch that nothing runs for and that holds nothing. -/
def IsBare (w : Watch) : Prop :=
  w.running = [] ∧ w.main = none ∧ w.parent = none

theorem IsBare.isHeld (h : w.IsBare) : w.IsHeld := by
  obtain ⟨hrunning, hmain, hparent⟩ := h
  exact
    { running_eq := by simp [observers, hrunning, hmain, hparent]
      numbers := by simp [hrunning]
      main_role := by simp [hmain]
      parent_role := by simp [hparent]
      main_of_parent := by simp [hparent]
      stopped := fun _ => hrunning }

theorem isBare_teardown (h : w.running = w.observers) : (w.teardown faults).IsBare := by
  rw [teardown_of_held h]
  exact ⟨rfl, rfl, rfl⟩

/-! ## Setting up -/

/-- What a launch leaves: no observer, or one on the directory that runs under the next number. -/
theorem launch_cases (faults : ObserverFaults) (w : Watch) (role : ObserverRole) (directory : String)
    (recursive : Bool) :
    launch faults w role directory recursive = (none, { w with made := w.made + 1 }) ∨
      ∃ o : Observer, o.number = w.made ∧ o.role = role ∧ o.directory = directory ∧
        launch faults w role directory recursive =
          (some o, { w with made := w.made + 1, running := w.running ++ [o] }) := by
  rw [launch]
  cases faults.atStart w.made with
  | true => exact .inl rfl
  | false => exact .inr ⟨⟨w.made, role, directory, recursive⟩, rfl, rfl, rfl, rfl⟩

/-- Starting the observers of a watch that has none leaves two, one or none of them, whichever fails. -/
theorem isHeld_observe (hbare : w.IsBare) (hstarted : w.isStopped = false) (directory : Path) (recursive : Bool) :
    (observe faults w directory recursive).2.IsHeld := by
  obtain ⟨hrunning, hmain, hparent⟩ := hbare
  rw [observe]
  rcases launch_cases faults w .main directory.text recursive with hfirst | ⟨first, hnumber, hrole, -, hfirst⟩
  · rw [hfirst]
    exact (isBare_teardown (by simp [observers, hrunning, hmain, hparent])).isHeld
  rw [hfirst]
  dsimp only
  split
  · exact
      { running_eq := by simp [observers, hrunning, hparent]
        numbers := by simp [hrunning, hnumber]
        main_role := by simp [hrole]
        parent_role := by simp [hparent]
        main_of_parent := fun _ => rfl
        stopped := by simp [hstarted] }
  · -- the first one runs, and the watch holds it already
    generalize hv : ({ w with made := w.made + 1, running := w.running ++ [first], main := some first } : Watch) = v
    have hmade : v.made = w.made + 1 := by rw [← hv]
    rcases launch_cases faults v .parent directory.parent.text false with
      hsecond | ⟨second, hnumber', hrole', -, hsecond⟩
    · rw [hsecond]
      exact (isBare_teardown (by simp [observers, ← hv, hrunning, hparent])).isHeld
    · rw [hsecond]
      rw [hmade] at hnumber'
      subst hv
      exact
        { running_eq := by simp [observers, hrunning]
          numbers := by
            simp only [hrunning, List.nil_append, List.map_append, List.map_cons, List.map_nil, hnumber, hnumber']
            exact List.pairwise_lt_range' (s := w.made) (n := 3)
          main_role := by simp [hrole]
          parent_role := by simp [hrole']
          main_of_parent := fun _ => rfl
          stopped := by simp [hstarted] }

theorem isHeld_setup (hbare : w.IsBare) (hstarted : w.isStopped = false) (path : String) :
    (setup b tree faults w path).2.IsHeld := by
  rw [setup]
  dsimp only
  split
  · exact hbare.isHeld
  · refine isHeld_observe ?_ ?_ _ _
    · exact hbare
    · exact hstarted

/-! ## Generations -/

/-- Whether a change was noted that no check has seen, and the path of the last one that was not taken. -/
def edge (w : Watch) : Bool × Option String :=
  (w.isRaised, w.detected)

/-- Watches of one generation with the same jobs, both stopped or neither, that have noted the same. -/
structure IsAbreast (v w : Watch) : Prop where
  generation_eq : v.generation = w.generation
  isStopped_eq : v.isStopped = w.isStopped
  jobs_eq : v.jobs = w.jobs
  edge_eq : v.edge = w.edge
  lastEvent_eq : v.lastEvent = w.lastEvent

theorem IsAbreast.trans {u v : Watch} (h : IsAbreast u v) (h' : IsAbreast v w) : IsAbreast u w :=
  ⟨h.1.trans h'.1, h.2.trans h'.2, h.3.trans h'.3, h.4.trans h'.4, h.5.trans h'.5⟩

theorem isAbreast_teardown (faults : ObserverFaults) (w : Watch) : IsAbreast (w.teardown faults) w := by
  rw [teardown_eq]
  exact ⟨rfl, rfl, rfl, rfl, rfl⟩

theorem isAbreast_observe (faults : ObserverFaults) (w : Watch) (directory : Path) (recursive : Bool) :
    IsAbreast (observe faults w directory recursive).2 w := by
  rw [observe]
  rcases launch_cases faults w .main directory.text recursive with hfirst | ⟨first, -, -, -, hfirst⟩ <;> rw [hfirst]
  · exact (isAbreast_teardown _ _).trans ⟨rfl, rfl, rfl, rfl, rfl⟩
  dsimp only
  split
  · exact ⟨rfl, rfl, rfl, rfl, rfl⟩
  · generalize hv : ({ w with made := w.made + 1, running := w.running ++ [first], main := some first } : Watch) = v
    have habreast : IsAbreast v w := by
      rw [← hv]
      exact ⟨rfl, rfl, rfl, rfl, rfl⟩
    rcases launch_cases faults v .parent directory.parent.text false with hsecond | ⟨second, -, -, -, hsecond⟩ <;>
      rw [hsecond]
    · exact (isAbreast_teardown _ _).trans { habreast with .. }
    · exact { habreast with .. }

theorem isAbreast_setup (b : Block) (tree : FileTree) (faults : ObserverFaults) (w : Watch) (path : String) :
    IsAbreast (setup b tree faults w path).2 w := by
  rw [setup]
  dsimp only
  split
  · exact ⟨rfl, rfl, rfl, rfl, rfl⟩
  · exact (isAbreast_observe faults _ _ _).trans ⟨rfl, rfl, rfl, rfl, rfl⟩

/-- A job of another generation does nothing. -/
theorem runJob_of_generation_ne (b : Block) (tree : FileTree) (faults : ObserverFaults) {job : WatchJob}
    (h : job.generation ≠ w.generation) : w.runJob b tree faults job = w := by
  have hcurrent : ¬w.isCurrent job.generation = true := by simp [isCurrent, h]
  cases job with
  | restart generation => exact if_neg hcurrent
  | teardown generation => exact if_neg hcurrent

theorem isAbreast_runJob (b : Block) (tree : FileTree) (faults : ObserverFaults) (w : Watch) (job : WatchJob) :
    IsAbreast (w.runJob b tree faults job) w := by
  cases job with
  | restart generation =>
    rw [runJob]
    split
    · exact (isAbreast_setup ..).trans (isAbreast_teardown faults w)
    · exact ⟨rfl, rfl, rfl, rfl, rfl⟩
  | teardown generation =>
    rw [runJob]
    split
    · exact isAbreast_teardown faults w
    · exact ⟨rfl, rfl, rfl, rfl, rfl⟩

/-! ## Reports -/

/-- A watch has the observers of another one, held and running, is of the same generation and stopped iff that is,
and has no jobs but those of that one and some of the present generation. -/
structure IsAlongside (v w : Watch) : Prop where
  main_eq : v.main = w.main
  parent_eq : v.parent = w.parent
  running_eq : v.running = w.running
  made_eq : v.made = w.made
  generation_eq : v.generation = w.generation
  isStopped_eq : v.isStopped = w.isStopped
  jobs : ∀ job ∈ v.jobs.getD [], job ∈ w.jobs.getD [] ∨ job.generation = w.generation

theorem IsAlongside.refl (w : Watch) : IsAlongside w w :=
  ⟨rfl, rfl, rfl, rfl, rfl, rfl, fun _ hjob => .inl hjob⟩

theorem IsAlongside.isHeld {v : Watch} (h : IsAlongside v w) (hw : w.IsHeld) : v.IsHeld := by
  obtain ⟨hmain, hparent, hrunning, hmade, -, hstopped, -⟩ := h
  have hobservers : v.observers = w.observers := by rw [observers, hmain, hparent, observers]
  exact
    { running_eq := by rw [hrunning, hobservers, hw.running_eq]
      numbers := by rw [hrunning, hmade]; exact hw.numbers
      main_role := by rw [hmain]; exact hw.main_role
      parent_role := by rw [hparent]; exact hw.parent_role
      main_of_parent := by rw [hmain, hparent]; exact hw.main_of_parent
      stopped := by rw [hstopped, hrunning]; exact hw.stopped }

theorem IsAlongside.record {v : Watch} (h : IsAlongside v w) (path : String) (now : Float) :
    IsAlongside (v.record path now).2 w := by
  obtain ⟨hmain, hparent, hrunning, hmade, hgeneration, hstopped, hjobs⟩ := h
  rw [Watch.record]
  split <;> exact ⟨hmain, hparent, hrunning, hmade, hgeneration, hstopped, hjobs⟩

/-- Following a directory retargets the watch and queues at most one job, of the present generation. -/
theorem isAlongside_follow (w : Watch) (r : ChangeReport) : IsAlongside (w.follow r) w := by
  have hsubmit : ∀ (target : String) (job : WatchJob), job.generation = w.generation →
      IsAlongside ({ w with target := target }.submit job) w := by
    intro target job hjob
    refine ⟨rfl, rfl, rfl, rfl, rfl, rfl, fun other hother => ?_⟩
    rw [submit] at hother
    cases hjobs : w.jobs with
    | none => simp [hjobs] at hother
    | some jobs =>
      rw [hjobs, Option.map_some, Option.getD_some, List.mem_append, List.mem_singleton] at hother
      rcases hother with hold | rfl
      · exact .inl hold
      · exact .inr hjob
  rw [follow]
  split
  · exact .refl w
  · split
    · exact hsubmit _ (.restart w.generation) rfl
    · exact hsubmit w.target (.teardown w.generation) rfl
    · exact .refl w

/-- A report changes the place that is followed, what is queued and what is noted, and nothing else. -/
theorem isAlongside_hear (b : Block) (w : Watch) (role : ObserverRole) (r : ChangeReport) (now : Float) :
    IsAlongside (w.hear b role r now) w := by
  cases role with
  | main =>
    unfold hear
    cases w.offered? b .main r with
    | none => exact .refl w
    | some path => exact (IsAlongside.refl w).record path now
  | parent =>
    unfold hear
    cases w.offered? b .parent r with
    | none => exact isAlongside_follow w r
    | some path => exact (isAlongside_follow w r).record path now

/-! ## Histories -/

/-- Starting to watch: a new generation with the old jobs, which is not stopped. -/
theorem isAbreast_start (b : Block) (tree : FileTree) (faults : ObserverFaults) (w : Watch) :
    IsAbreast (w.start b tree faults).2
      { w with generation := w.generation + 1, isStopped := false, jobs := some (w.jobs.getD []) } := by
  have hrenewed : IsAbreast { w.renew faults false with jobs := some (w.jobs.getD []) }
      { w with generation := w.generation + 1, isStopped := false, jobs := some (w.jobs.getD []) } :=
    ⟨rfl, rfl, rfl, (isAbreast_teardown faults w).edge_eq, (isAbreast_teardown faults w).lastEvent_eq⟩
  rw [start]
  dsimp only
  split
  · exact hrenewed
  · exact (isAbreast_setup ..).trans hrenewed

/-- The generation after a step: a new one if the watch is started or stopped. -/
theorem generation_after (b : Block) (w : Watch) (step : Step) :
    (w.after b step).generation = if step.renews then w.generation + 1 else w.generation := by
  cases step with
  | start tree faults => exact (isAbreast_start b tree faults w).generation_eq
  | stop faults => rfl
  | hear role r now => exact (isAlongside_hear b w role r now).generation_eq
  | work job tree faults => exact (isAbreast_runJob b tree faults (w.dequeue job) job).generation_eq
  | check => rfl
  | takeDetected => rfl

/-- What is queued after a step was queued before, or is of the present generation. -/
theorem of_mem_jobs_after {step : Step} {job : WatchJob} (h : job ∈ (w.after b step).jobs.getD []) :
    job ∈ w.jobs.getD [] ∨ job.generation = w.generation := by
  cases step with
  | start tree faults =>
    rw [after, (isAbreast_start b tree faults w).jobs_eq] at h
    exact .inl h
  | stop faults => cases h
  | hear role r now => exact (isAlongside_hear b w role r now).jobs job h
  | work done tree faults =>
    rw [after, (isAbreast_runJob b tree faults (w.dequeue done) done).jobs_eq, dequeue] at h
    cases hjobs : w.jobs with
    | none => simp [hjobs] at h
    | some jobs =>
      rw [hjobs, Option.map_some, Option.getD_some] at h
      exact .inl (List.mem_of_mem_erase h)
  | check => exact .inl h
  | takeDetected => exact .inl h

theorem IsHeld.renew (h : w.IsHeld) (isStopped : Bool) (jobs : Option (List WatchJob)) :
    IsBare { w.renew faults isStopped with jobs := jobs } := by
  obtain ⟨hrunning, hmain, hparent⟩ := @isBare_teardown faults w h.running_eq
  exact ⟨hrunning, hmain, hparent⟩

theorem IsHeld.runJob (h : w.IsHeld) (job : WatchJob) : (w.runJob b tree faults job).IsHeld := by
  cases job with
  | restart generation =>
    rw [Watch.runJob]
    split
    · next hcurrent =>
      have hstarted : w.isStopped = false := by simp_all [isCurrent]
      exact isHeld_setup (isBare_teardown h.running_eq) ((isAbreast_teardown faults w).isStopped_eq.trans hstarted) _
    · exact h
  | teardown generation =>
    rw [Watch.runJob]
    split
    · exact (isBare_teardown h.running_eq).isHeld
    · exact h

/-- Every step keeps the observers that run and those that are held the same. -/
theorem isHeld_after (h : w.IsHeld) (step : Step) : (w.after b step).IsHeld := by
  cases step with
  | start tree faults =>
    have hbare := @IsHeld.renew faults w h false (some (w.jobs.getD []))
    rw [after, start]
    dsimp only
    split
    · exact hbare.isHeld
    · exact isHeld_setup hbare rfl _
  | stop faults => exact (h.renew true none).isHeld
  | hear role r now => exact (isAlongside_hear b w role r now).isHeld h
  | work job tree faults =>
    have hdequeued : (w.dequeue job).IsHeld := { h with .. }
    exact hdequeued.runJob job
  | check => exact { h with .. }
  | takeDetected => exact { h with .. }

/-- What every step keeps holds after every history. -/
theorem afterAll_induction {P : Watch → Prop} (hstep : ∀ w step, P w → P (w.after b step)) (h : P w)
    (steps : List Step) : P (w.afterAll b steps) := by
  induction steps generalizing w with
  | nil => exact h
  | cons step steps ih => exact ih (hstep w step h)

theorem generation_le_afterAll (b : Block) (w : Watch) (steps : List Step) :
    w.generation ≤ (w.afterAll b steps).generation := by
  refine afterAll_induction (P := fun v => w.generation ≤ v.generation) (fun v step hv => ?_) (Nat.le_refl _) steps
  have hstep := generation_after b v step
  split at hstep <;> omega

/-- No job is of a later generation than the watch. -/
theorem generation_le_of_mem_jobs (b : Block) (steps : List Step) {job : WatchJob}
    (h : job ∈ (afterAll b {} steps).jobs.getD []) : job.generation ≤ (afterAll b {} steps).generation := by
  have hall : ∀ job ∈ (afterAll b {} steps).jobs.getD [], job.generation ≤ (afterAll b {} steps).generation := by
    refine afterAll_induction (P := fun v => ∀ job ∈ v.jobs.getD [], job.generation ≤ v.generation)
      (fun v step hv job hjob => ?_) (fun job hjob => absurd hjob List.not_mem_nil) steps
    have hstep := generation_after b v step
    have hbefore : job.generation ≤ v.generation := by
      rcases of_mem_jobs_after hjob with hold | hnow
      · exact hv job hold
      · exact Nat.le_of_eq hnow
    split at hstep <;> omega
  exact hall job h

theorem afterAll_append (b : Block) (w : Watch) (before later : List Step) :
    w.afterAll b (before ++ later) = (w.afterAll b before).afterAll b later :=
  List.foldl_append

/-- Whatever happens to a new watch, whichever observers fail: the observers that run are those that it holds, with
numbers of their own, at most one on the directory and at most one on the parent, and none on the parent without one
on the directory; a stopped watch has none; and a job that was queued at some time before the watch was started or
stopped anew changes nothing but that it is no longer queued, whenever it runs after that. -/
theorem running_eq_observers (b : Block) (steps : List Step) :
    (afterAll b {} steps).running = (afterAll b {} steps).observers ∧
      ((afterAll b {} steps).running.map Observer.number).Nodup ∧
      (∀ o, (afterAll b {} steps).main = some o → o.role = .main) ∧
      (∀ o, (afterAll b {} steps).parent = some o → o.role = .parent ∧ (afterAll b {} steps).isWatching) ∧
      ((afterAll b {} steps).isStopped → (afterAll b {} steps).observers = []) ∧
      ∀ before between renewal later, steps = before ++ between ++ renewal :: later → renewal.renews →
        ∀ job ∈ (afterAll b {} before).jobs.getD [], ∀ tree faults,
          (afterAll b {} steps).after b (.work job tree faults) = (afterAll b {} steps).dequeue job := by
  have hnew : IsHeld {} := IsBare.isHeld ⟨rfl, rfl, rfl⟩
  have hheld : IsHeld (afterAll b {} steps) :=
    afterAll_induction (P := IsHeld) (fun _ step h => isHeld_after h step) hnew steps
  refine ⟨hheld.running_eq, ?_, hheld.main_role, fun o ho => ⟨hheld.parent_role o ho, ?_⟩, fun hstopped => ?_, ?_⟩
  · have hnumbers := (List.pairwise_append.mp hheld.numbers).1
    exact hnumbers.imp Nat.ne_of_lt
  · exact hheld.main_of_parent (by rw [ho]; rfl)
  · rw [← hheld.running_eq]
    exact hheld.stopped hstopped
  · intro before between renewal later hsteps hrenews job hjob tree faults
    have hqueued := generation_le_of_mem_jobs b before hjob
    have hbetween := generation_le_afterAll b (afterAll b {} before) between
    have hrenewal := generation_after b ((afterAll b {} before).afterAll b between) renewal
    rw [if_pos hrenews] at hrenewal
    have hlater := generation_le_afterAll b (((afterAll b {} before).afterAll b between).after b renewal) later
    have hsplit : afterAll b {} steps =
        (((afterAll b {} before).afterAll b between).after b renewal).afterAll b later := by
      rw [hsteps, afterAll_append, afterAll_append]
      rfl
    refine runJob_of_generation_ne b tree faults ?_
    show job.generation ≠ (afterAll b {} steps).generation
    rw [hsplit]
    omega

/-- The directory is removed and the watch is started anew before the teardown runs that was queued for that. -/
theorem running_eq_observers_late :
    let b : Block := ⟨.fileChangeTrigger, "w", [("Path", "/w/in")]⟩
    let tree : FileTree := { directories := ["/w", "/w/in"] }
    let before : List Step := [.start tree {}, .hear .parent { type := "deleted", source := "/w/in" } 0.0]
    .teardown 1 ∈ (afterAll b {} before).jobs.getD [] ∧
      ((afterAll b {} (before ++ [.start tree {}])).after b (.work (.teardown 1) tree {})).running.map
        Observer.role = [.main, .parent] := by
  intro b tree before
  have hjob : .teardown 1 ∈ (afterAll b {} before).jobs.getD [] := by decide +kernel
  obtain ⟨-, -, -, -, -, hlate⟩ := running_eq_observers b (before ++ [.start tree {}])
  have hsplit : before ++ [.start tree {}] = before ++ [] ++ .start tree {} :: [] := rfl
  rw [hlate before [] (.start tree {}) [] hsplit rfl _ hjob]
  exact ⟨hjob, by decide +kernel⟩

/-- The observer on the parent fails to start, and the one that runs by then fails when it is stopped; the next start
leaves two. -/
example :
    let b : Block := ⟨.fileChangeTrigger, "w", [("Path", "/w/in")]⟩
    let tree : FileTree := { directories := ["/w", "/w/in"] }
    let failing : ObserverFaults := { atStart := (· == 1), atStop := fun _ => true }
    (afterAll b {} [.start tree failing]).running = [] ∧
      (afterAll b {} [.start tree failing, .start tree failing]).running =
        [⟨2, .main, "/w/in", false⟩, ⟨3, .parent, "/w", false⟩] := by
  decide +kernel

end Watch

end Deskhand
