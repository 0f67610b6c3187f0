import Deskhand.Proofs.Path
import Deskhand.Proofs.Trigger.Noted

/-!
# Following a directory that is renamed

A report from above that the directory was renamed retargets the watch at once and queues a restart; the directory that
reports are compared with, and the observers, change only when the restart has run. So of two renames with no restart
between them the second one is not heard, and the restart goes for a place that the directory has left. A watch is
where its directory is in the end iff it heads for that place (`Heads`) when the last rename has been reported: it is to
be restarted there, or is there already. Main statements:

* `observes_setup`: setting up where something is there;
* `heads_work`: running a job does not change which place a watch heads for;
* `follows_iff`: when a watch has followed its directory, and that it follows any number of renames if each comes after
  the restart for the one before it.
-/

namespace Deskhand

namespace Watch

/-- What is watched in a directory: a file of that name, or the directory itself. -/
def goal (place : Path) (fileName : Option String) : Path :=
  match fileName with
  | none => place
  | some name => place.below (Path.ofText name)

/-- A watch knows a directory, or a file in it, by its present place, and its observer is on the directory. -/
structure Observes (w : Watch) (place : Path) (fileName : Option String) : Prop where
  target_eq : w.target = (goal place fileName).text
  directory_eq : w.directory = place.text
  fileName_eq : w.fileName = fileName
  main_eq : w.main.map Observer.directory = some place.text

/-- What is watched in a directory is there: the directory, or a file with a name, which is no directory. -/
def IsThere (tree : FileTree) (place : Path) (fileName : Option String) : Prop :=
  match fileName with
  | none => tree.isDirectory place = true
  | some name =>
    name ≠ "" ∧ tree.isFile (goal place fileName) = true ∧ tree.isDirectory (goal place fileName) = false

/-- A job of the present generation is queued. -/
def IsPending (w : Watch) : Prop :=
  ∃ job ∈ w.jobs.getD [], job.generation = w.generation

/-- A watch will be on a place when its queue is empty: it is to be set up there, or is there already. -/
def Heads (w : Watch) (place : Path) (fileName : Option String) : Prop :=
  Path.ofText w.target = goal place fileName ∧ (w.IsPending ∨ w.Observes place fileName)

/-- A watch that was started and whose directory is renamed now and then: nothing but restarts is queued for it. -/
structure IsUnderWay (w : Watch) : Prop where
  isStopped_eq : w.isStopped = false
  hasWorker : w.jobs.isSome
  jobs : ∀ job ∈ w.jobs.getD [], job.generation = w.generation → job = .restart w.generation

/-- What happens to a directory and its watch: it is renamed, which the observer above reports, or the first of the
queued jobs runs. -/
inductive Move where
  | rename (source destination : String) (isDirectory : Bool) (now : Float)
  | work (tree : FileTree) (faults : ObserverFaults)

/-- A watch, and where its directory is. -/
structure Scene where
  watch : Watch
  place : Path

/-- Whether a move is the run of a job that finds what is watched in a place and starts its observers. -/
def Move.Finds (place : Path) (fileName : Option String) : Move → Prop
  | .rename .. => False
  | .work tree faults => IsThere tree place fileName ∧ ∀ n, faults.atStart n = false

namespace Scene

/-- What is left of a watch and its directory after a move. -/
def after (b : Block) (s : Scene) : Move → Scene
  | .rename source destination isDirectory now =>
    let report := { type := "moved", source, destination := some destination, isDirectory }
    ⟨s.watch.after b (.hear .parent report now), Path.ofText destination⟩
  | .work tree faults =>
    match s.watch.jobs.getD [] with
    | [] => s
    | job :: _ => { s with watch := s.watch.after b (.work job tree faults) }

/-- What is left of a watch and its directory after moves. -/
def afterAll (b : Block) (s : Scene) (moves : List Move) : Scene :=
  moves.foldl (after b) s

/-- Whether a move leaves time for the watch to follow: a rename of the directory from where it is comes when no restart
is queued, and a job finds what is watched where the directory is. -/
def Allows (s : Scene) (fileName : Option String) : Move → Prop
  | .rename source destination _ _ =>
    ¬s.watch.IsPending ∧ source ≠ "" ∧ Path.ofText source = s.place ∧ destination ≠ ""
  | .work tree faults => (Move.work tree faults).Finds s.place fileName

/-- Whether every one of some moves leaves time for the watch to follow. -/
def AllowsAll (b : Block) (fileName : Option String) : Scene → List Move → Prop
  | _, [] => True
  | s, move :: rest => s.Allows fileName move ∧ AllowsAll b fileName (s.after b move) rest

end Scene

variable {b : Block} {v w : Watch} {tree : FileTree} {faults : ObserverFaults} {place : Path} {fileName : Option String}

/-! ## Setting up -/

/-- Starting observers changes nothing of what is watched, and if none fails there is one on the directory. -/
theorem observe_spec (faults : ObserverFaults) (w : Watch) (directory : Path) (recursive : Bool) :
    let v := (observe faults w directory recursive).2
    (v.target = w.target ∧ v.directory = w.directory ∧ v.fileName = w.fileName) ∧
      ((observe faults w directory recursive).1 = true → v.main.map Observer.directory = some directory.text) := by
  dsimp only
  rw [observe]
  rcases launch_cases faults w .main directory.text recursive with hfirst | ⟨first, -, -, hdirectory, hfirst⟩
  · rw [hfirst]
    dsimp only
    rw [teardown_eq]
    exact ⟨⟨rfl, rfl, rfl⟩, fun hstarted => by cases hstarted⟩
  rw [hfirst]
  dsimp only
  split
  · exact ⟨⟨rfl, rfl, rfl⟩, fun _ => congrArg some hdirectory⟩
  · generalize hv : ({ w with made := w.made + 1, running := w.running ++ [first], main := some first } : Watch) = v
    rcases launch_cases faults v .parent directory.parent.text false with hsecond | ⟨second, -, -, -, hsecond⟩
    · rw [hsecond]
      dsimp only
      rw [teardown_eq, ← hv]
      exact ⟨⟨rfl, rfl, rfl⟩, fun hstarted => by cases hstarted⟩
    · rw [hsecond, ← hv]
      exact ⟨⟨rfl, rfl, rfl⟩, fun _ => congrArg some hdirectory⟩

theorem observe_of_starts (h : ∀ n, faults.atStart n = false) (w : Watch) (directory : Path) (recursive : Bool) :
    (observe faults w directory recursive).1 = true := by
  simp only [observe, launch, h, Bool.false_eq_true, if_false]
  split <;> rfl

/-- What is set up is what the path leads to, with an observer on its directory. -/
theorem setup_spec {path : String} (h : (setup b tree faults w path).1 = true) :
    let p := Path.ofText path
    let v := (setup b tree faults w path).2
    v.target = p.text ∧ v.directory = (if tree.isDirectory p then p else p.parent).text ∧
      v.fileName = (if tree.isDirectory p then none else some p.name) ∧
      v.main.map Observer.directory = some v.directory := by
  rw [setup] at h ⊢
  dsimp only at h ⊢
  split at h
  · cases h
  next hthere =>
  rw [if_neg hthere]
  obtain ⟨⟨htarget, hdirectory, hfileName⟩, hmain⟩ := observe_spec faults
    { w with
      target := (Path.ofText path).text
      directory := (if tree.isDirectory (Path.ofText path) then Path.ofText path else (Path.ofText path).parent).text
      fileName := if tree.isDirectory (Path.ofText path) then none else some (Path.ofText path).name }
    (if tree.isDirectory (Path.ofText path) then Path.ofText path else (Path.ofText path).parent)
    (tree.isDirectory (Path.ofText path) && isRecursive b)
  exact ⟨htarget, hdirectory, hfileName, hdirectory ▸ hmain h⟩

/-- A watch that was set up is on the directory that it knows, and knows a file by its name. -/
theorem observes_of_setup {path : String} (h : (setup b tree faults w path).1 = true) :
    let v := (setup b tree faults w path).2
    v.Observes (Path.ofText v.directory) v.fileName ∧
      ∀ name, v.fileName = some name → name ≠ "" → Path.IsName name := by
  intro v
  obtain ⟨htarget, hdirectory, hfileName, hmain⟩ := setup_spec h
  have hproper := Path.isProper_ofText path
  have hnamed : ∀ name, v.fileName = some name → name ≠ "" → Path.IsName name := by
    intro name hname hne
    rw [show v.fileName = _ from hfileName] at hname
    split at hname
    · cases hname
    · obtain rfl := Option.some.inj hname
      exact hproper.isName_name hne
  refine ⟨?_, hnamed⟩
  have hread : ∀ {q : Path}, q.IsProper → v.directory = q.text → Path.ofText v.directory = q :=
    fun hq hv => hv ▸ Path.ofText_text hq
  split at hdirectory
  · next hkind =>
    rw [if_pos hkind] at hfileName
    have hplace := hread hproper hdirectory
    exact ⟨by rw [hplace, hfileName]; exact htarget, hplace ▸ hdirectory, rfl, hplace ▸ hdirectory ▸ hmain⟩
  · next hkind =>
    rw [if_neg hkind] at hfileName
    have hplace := hread hproper.parent hdirectory
    refine ⟨?_, hplace ▸ hdirectory, rfl, hplace ▸ hdirectory ▸ hmain⟩
    rw [hplace, hfileName, goal, Path.below_name hproper]
    exact htarget

/-- Setting up a path at which something is leaves the watch there, unless an observer fails to start. -/
theorem observes_setup (hthere : IsThere tree place fileName)
    (hname : ∀ name, fileName = some name → name ≠ "" → Path.IsName name)
    (hstarts : ∀ n, faults.atStart n = false) {path : String} (hpath : Path.ofText path = goal place fileName) :
    (setup b tree faults w path).2.Observes place fileName := by
  have hset : (setup b tree faults w path).1 = true := by
    have hgoal : tree.isThere (goal place fileName) = true := by
      cases fileName with
      | none => simp [FileTree.isThere, goal, show tree.isDirectory place = true from hthere]
      | some name => simp [FileTree.isThere, hthere.2.1]
    rw [setup]
    dsimp only
    rw [hpath, hgoal, Bool.not_true, if_neg Bool.false_ne_true]
    exact observe_of_starts hstarts _ _ _
  obtain ⟨htarget, hdirectory, hfileName, hmain⟩ := setup_spec hset
  rw [hpath] at htarget hdirectory hfileName
  cases fileName with
  | none =>
    rw [show tree.isDirectory (goal place none) = true from hthere] at hdirectory hfileName
    exact ⟨htarget, hdirectory, hfileName, hdirectory ▸ hmain⟩
  | some name =>
    obtain ⟨hne, -, hkind⟩ := hthere
    rw [hkind] at hdirectory hfileName
    have hgoal : goal place (some name) = { place with names := place.names ++ [name] } := by
      rw [goal, (hname name rfl hne).ofText_eq]
      rfl
    have hparent : (goal place (some name)).parent = place := by simp [hgoal, Path.parent]
    have hlast : (goal place (some name)).name = name := by simp [hgoal, Path.name]
    simp only [Bool.false_eq_true, if_false, hparent, hlast] at hdirectory hfileName
    exact ⟨htarget, hdirectory, hfileName, hdirectory ▸ hmain⟩

/-- Where a path leads does not change when it is set up. -/
theorem ofText_target_setup (b : Block) (tree : FileTree) (faults : ObserverFaults) (w : Watch) :
    Path.ofText (setup b tree faults w w.target).2.target = Path.ofText w.target := by
  rw [setup]
  dsimp only
  split
  · rfl
  · rw [(observe_spec ..).1.1]
    exact Path.ofText_text (Path.isProper_ofText _)

/-! ## Reports from above -/

/-- Watches that are after the same place, with the same jobs. -/
structure IsAlike (v w : Watch) : Prop where
  target_eq : v.target = w.target
  directory_eq : v.directory = w.directory
  fileName_eq : v.fileName = w.fileName
  main_eq : v.main = w.main
  jobs_eq : v.jobs = w.jobs
  generation_eq : v.generation = w.generation
  isStopped_eq : v.isStopped = w.isStopped

theorem isAlike_hear (b : Block) (w : Watch) (role : ObserverRole) (r : ChangeReport) (now : Float) :
    IsAlike (w.hear b role r now) (w.followed role r) := by
  rw [hear_eq]
  cases w.noted? b role r now <;> exact ⟨rfl, rfl, rfl, rfl, rfl, rfl, rfl⟩

theorem IsAlike.isPending_iff (h : IsAlike v w) : v.IsPending ↔ w.IsPending := by
  rw [IsPending, IsPending, h.jobs_eq, h.generation_eq]

theorem observes_congr (htarget : v.target = w.target) (hdirectory : v.directory = w.directory)
    (hfileName : v.fileName = w.fileName) (hmain : v.main = w.main) :
    v.Observes place fileName ↔ w.Observes place fileName := by
  constructor
  · rintro ⟨h₁, h₂, h₃, h₄⟩
    exact ⟨htarget ▸ h₁, hdirectory ▸ h₂, hfileName ▸ h₃, hmain ▸ h₄⟩
  · rintro ⟨h₁, h₂, h₃, h₄⟩
    exact ⟨htarget ▸ h₁, hdirectory ▸ h₂, hfileName ▸ h₃, hmain ▸ h₄⟩

theorem IsAlike.heads_iff (h : IsAlike v w) : v.Heads place fileName ↔ w.Heads place fileName := by
  rw [Heads, Heads, h.target_eq, h.isPending_iff,
    observes_congr h.target_eq h.directory_eq h.fileName_eq h.main_eq]

theorem IsAlike.isUnderWay (h : IsAlike v w) (hw : w.IsUnderWay) : v.IsUnderWay where
  isStopped_eq := h.isStopped_eq.trans hw.isStopped_eq
  hasWorker := h.jobs_eq ▸ hw.hasWorker
  jobs := by
    rw [h.jobs_eq, h.generation_eq]
    exact hw.jobs

/-- A report of a rename is followed if it is about the directory that the watch knows. -/
theorem follow_moved (w : Watch) {source destination : String} (isDirectory : Bool) (h : destination ≠ "") :
    w.follow { type := "moved", source, destination := some destination, isDirectory } =
      if Path.same source w.directory then
        { w with target := w.movedTarget destination }.submit (.restart w.generation)
      else w := by
  have hkept : (some destination).filter (· != "") = some destination := by simp [Option.filter, h]
  rw [follow, hkept]
  cases Path.same source w.directory <;> rfl

theorem ofText_movedTarget (w : Watch) (destination : String) :
    Path.ofText (w.movedTarget destination) = goal (Path.ofText destination) w.fileName := by
  rw [movedTarget]
  cases w.fileName with
  | none => rfl
  | some name => exact Path.ofText_joinText destination name

theorem IsUnderWay.submit_restart (h : w.IsUnderWay) (target : String) :
    let v := { w with target := target }.submit (.restart w.generation)
    v.IsUnderWay ∧ v.IsPending := by
  obtain ⟨jobs, hjobs⟩ := Option.isSome_iff_exists.mp h.hasWorker
  have hqueue := h.jobs
  simp only [hjobs, Option.getD_some] at hqueue
  refine ⟨⟨h.isStopped_eq, by simp [submit, hjobs], ?_⟩, .restart w.generation, by simp [submit, hjobs], rfl⟩
  simp only [submit, hjobs, Option.map_some, Option.getD_some, List.mem_append, List.mem_singleton]
  rintro job (hjob | rfl) hgeneration
  · exact hqueue job hjob hgeneration
  · rfl

/-- A report of a rename queues nothing but a restart. -/
theorem isUnderWay_rename (h : w.IsUnderWay) (source destination : String) (isDirectory : Bool) (now : Float) :
    let report := { type := "moved", source, destination := some destination, isDirectory }
    (w.hear b .parent report now).IsUnderWay := by
  refine (isAlike_hear b w .parent _ now).isUnderWay ?_
  rw [followed]
  by_cases hempty : destination = ""
  · subst hempty
    rw [follow]
    split <;> exact h
  · rw [follow_moved w isDirectory hempty]
    split
    · exact (h.submit_restart _).1
    · exact h

/-- Once a rename of the directory that the watch knows was reported, the watch heads for where it leads. One of another
directory changes nothing. -/
theorem heads_rename (h : w.IsUnderWay) {source destination : String} (hdestination : destination ≠ "")
    (isDirectory : Bool) (now : Float) :
    let report := { type := "moved", source, destination := some destination, isDirectory }
    (w.hear b .parent report now).Heads place fileName ↔
      if Path.same source w.directory then goal (Path.ofText destination) w.fileName = goal place fileName
      else w.Heads place fileName := by
  dsimp only
  rw [(isAlike_hear b w .parent _ now).heads_iff, followed, follow_moved w isDirectory hdestination]
  split
  · have hpending := (h.submit_restart (w.movedTarget destination)).2
    rw [Heads, or_iff_left_of_imp fun _ => hpending, and_iff_left hpending, submit, ofText_movedTarget]
  · rfl

/-! ## Jobs -/

theorem isUnderWay_work (h : w.IsUnderWay) (job : WatchJob) : (w.after b (.work job tree faults)).IsUnderWay := by
  obtain ⟨hgeneration, hstopped, hjobs, -, -⟩ := isAbreast_runJob b tree faults (w.dequeue job) job
  obtain ⟨jobs, hqueue⟩ := Option.isSome_iff_exists.mp h.hasWorker
  refine ⟨hstopped.trans h.isStopped_eq, ?_, fun other hother => ?_⟩
  · rw [after, hjobs, dequeue, hqueue]
    rfl
  · rw [after, hjobs, dequeue, hqueue] at hother
    rw [after, hgeneration]
    exact h.jobs other (hqueue ▸ List.mem_of_mem_erase hother)

/-- Running the first job does not change whether a watch heads for the place where what is watched is. -/
theorem heads_work (h : w.IsUnderWay) {job : WatchJob} {rest : List WatchJob} (hjobs : w.jobs = some (job :: rest))
    (hthere : IsThere tree place fileName) (hname : ∀ name, fileName = some name → name ≠ "" → Path.IsName name)
    (hstarts : ∀ n, faults.atStart n = false) :
    (w.after b (.work job tree faults)).Heads place fileName ↔ w.Heads place fileName := by
  have hrest : (w.dequeue job).jobs = some rest := by simp [dequeue, hjobs]
  rw [after]
  by_cases hcurrent : job.generation = w.generation
  · -- the watch is set up where it heads for, so it is there or goes elsewhere
    have hpending : w.IsPending ∨ w.Observes place fileName := .inl ⟨job, by simp [hjobs], hcurrent⟩
    obtain rfl := h.jobs job (by simp [hjobs]) hcurrent
    have hwanted : (w.dequeue (.restart w.generation)).isCurrent w.generation = true := by
      simp [isCurrent, dequeue, h.isStopped_eq]
    have htarget : ((w.dequeue (.restart w.generation)).teardown faults).target = w.target := by rw [teardown_eq]; rfl
    have hset := ofText_target_setup b tree faults ((w.dequeue (.restart w.generation)).teardown faults)
    rw [htarget] at hset
    rw [runJob, if_pos hwanted, Heads, Heads, and_iff_left hpending]
    rw [show (w.dequeue (.restart w.generation)).target = w.target from rfl, hset]
    exact and_iff_left_of_imp fun hplace => .inr (observes_setup hthere hname hstarts hplace)
  · rw [runJob_of_generation_ne (w := w.dequeue job) b tree faults hcurrent, Heads, Heads]
    have hpending : (w.dequeue job).IsPending ↔ w.IsPending := by
      rw [IsPending, hrest, IsPending, hjobs]
      simp [dequeue, hcurrent]
    rw [hpending, observes_congr (v := w.dequeue job) (w := w) rfl rfl rfl rfl]
    rfl

/-! ## Histories -/

theorem isProper_goal (h : Path.IsProper place) : Path.IsProper (goal place fileName) := by
  cases fileName with
  | none => exact h
  | some name => exact h.below (Path.isProper_ofText name)

/-- A watch with no restart ahead heads for the place where it is. -/
theorem heads_iff_observes (hplace : Path.IsProper place) (h : ¬w.IsPending) :
    w.Heads place fileName ↔ w.Observes place fileName := by
  rw [Heads, or_iff_right h, and_iff_right_iff_imp]
  exact fun hobserves => hobserves.target_eq ▸ Path.ofText_text (isProper_goal hplace)

/-- A watch that was started has nothing queued that is not of an earlier generation. -/
theorem isUnderWay_start (b : Block) (steps : List Step) (tree : FileTree) (faults : ObserverFaults) :
    ((afterAll b {} steps).start b tree faults).2.IsUnderWay := by
  obtain ⟨hgeneration, hstopped, hjobs, -, -⟩ := isAbreast_start b tree faults (afterAll b {} steps)
  refine ⟨hstopped, by simp [hjobs], fun job hjob hcurrent => ?_⟩
  rw [hjobs] at hjob
  have hle := generation_le_of_mem_jobs b steps hjob
  rw [hcurrent, hgeneration] at hle
  exact absurd hle (Nat.not_succ_le_self _)

/-- A watch that was started is on its directory, and knows no file by a name that is none. -/
theorem observes_start (h : (w.start b tree faults).1 = true) :
    let v := (w.start b tree faults).2
    v.Observes (Path.ofText v.directory) v.fileName ∧
      ∀ name, v.fileName = some name → name ≠ "" → Path.IsName name := by
  rw [start] at h ⊢
  cases hpath : pathOf? b with
  | none =>
    rw [hpath] at h
    cases h
  | some path =>
    rw [hpath] at h
    exact observes_of_setup h

namespace Scene

variable {s : Scene}

theorem isUnderWay_after (h : s.watch.IsUnderWay) (move : Move) : (s.after b move).watch.IsUnderWay := by
  cases move with
  | rename source destination isDirectory now => exact isUnderWay_rename h source destination isDirectory now
  | work tree faults =>
    rw [after]
    split
    · exact h
    · exact isUnderWay_work h _

theorem isUnderWay_afterAll (h : s.watch.IsUnderWay) (moves : List Move) : (s.afterAll b moves).watch.IsUnderWay := by
  induction moves generalizing s with
  | nil => exact h
  | cons move rest ih => exact ih (isUnderWay_after h move)

/-- Jobs that find what is watched do not change whether the watch heads for its place. -/
theorem heads_after_finds (h : s.watch.IsUnderWay)
    (hname : ∀ name, fileName = some name → name ≠ "" → Path.IsName name) {move : Move}
    (hmove : move.Finds place fileName) :
    (s.after b move).watch.Heads place fileName ↔ s.watch.Heads place fileName := by
  cases move with
  | rename source destination isDirectory now => exact hmove.elim
  | work tree faults =>
    obtain ⟨jobs, hjobs⟩ := Option.isSome_iff_exists.mp h.hasWorker
    rw [after, hjobs, Option.getD_some]
    cases jobs with
    | nil => rfl
    | cons job rest => exact heads_work h hjobs hmove.1 hname hmove.2

theorem heads_afterAll_finds (h : s.watch.IsUnderWay)
    (hname : ∀ name, fileName = some name → name ≠ "" → Path.IsName name) {moves : List Move}
    (hmoves : ∀ move ∈ moves, move.Finds place fileName) :
    (s.afterAll b moves).watch.Heads place fileName ↔ s.watch.Heads place fileName := by
  induction moves generalizing s with
  | nil => rfl
  | cons move rest ih =>
    rw [List.forall_mem_cons] at hmoves
    rw [afterAll, List.foldl_cons, ← afterAll, ih (isUnderWay_after h move) hmoves.2]
    exact heads_after_finds h hname hmoves.1

/-- A watch that heads for its directory still does after a move that leaves it the time. -/
theorem heads_after_allows (h : s.watch.IsUnderWay)
    (hname : ∀ name, fileName = some name → name ≠ "" → Path.IsName name) (hplace : Path.IsProper s.place)
    (hheads : s.watch.Heads s.place fileName) {move : Move} (hmove : s.Allows fileName move) :
    (s.after b move).watch.Heads (s.after b move).place fileName ∧ Path.IsProper (s.after b move).place := by
  cases move with
  | rename source destination isDirectory now =>
    obtain ⟨hidle, hsource, hfrom, hdestination⟩ := hmove
    have hobserves := (heads_iff_observes hplace hidle).mp hheads
    have hheard : Path.same source s.watch.directory = true := by
      rw [hobserves.directory_eq, ← hfrom]
      exact Path.same_text hsource
    refine ⟨(heads_rename h hdestination isDirectory now).mpr ?_, Path.isProper_ofText destination⟩
    rw [if_pos hheard, hobserves.fileName_eq]
    rfl
  | work tree faults =>
    have hstays : (s.after b (.work tree faults)).place = s.place := by
      rw [after]
      split <;> rfl
    have hfinds : (Move.work tree faults).Finds s.place fileName := hmove
    rw [hstays]
    exact ⟨(heads_after_finds h hname hfinds).mpr hheads, hplace⟩

theorem heads_afterAll_allows (h : s.watch.IsUnderWay)
    (hname : ∀ name, fileName = some name → name ≠ "" → Path.IsName name) (hplace : Path.IsProper s.place)
    (hheads : s.watch.Heads s.place fileName) {moves : List Move} (hmoves : s.AllowsAll b fileName moves) :
    (s.afterAll b moves).watch.Heads (s.afterAll b moves).place fileName ∧
      Path.IsProper (s.afterAll b moves).place := by
  induction moves generalizing s with
  | nil => exact ⟨hheads, hplace⟩
  | cons move rest ih =>
    obtain ⟨hmove, hrest⟩ := hmoves
    obtain ⟨hheads', hplace'⟩ := heads_after_allows h hname hplace hheads hmove
    exact ih (isUnderWay_after h move) hplace' hheads' hrest

end Scene

/-- When a watch has followed its directory, in every history of renames and jobs after a start. Let the last rename be
reported and the queue be empty, with what is watched found where that rename leads. Then the watch is there iff the
rename was one of the directory that the watch knew, and the file that it knew is the one it started with, or else the
watch headed for that place already. It is there after any number of renames if each comes when no restart is queued. -/
theorem follows_iff (b : Block) (steps : List Step) (tree : FileTree) (faults : ObserverFaults)
    (hstart : ((afterAll b {} steps).start b tree faults).1 = true) :
    let w := ((afterAll b {} steps).start b tree faults).2
    let begun : Scene := ⟨w, Path.ofText w.directory⟩
    (∀ before source destination isDirectory now jobs, destination ≠ "" →
      (∀ move ∈ jobs, move.Finds (Path.ofText destination) w.fileName) →
        let s := begun.afterAll b before
        let last := (s.after b (.rename source destination isDirectory now)).afterAll b jobs
        ¬last.watch.IsPending →
          (last.watch.Observes (Path.ofText destination) w.fileName ↔
            if Path.same source s.watch.directory then
              goal (Path.ofText destination) s.watch.fileName = goal (Path.ofText destination) w.fileName
            else s.watch.Heads (Path.ofText destination) w.fileName)) ∧
    ∀ moves, begun.AllowsAll b w.fileName moves →
      let last := begun.afterAll b moves
      ¬last.watch.IsPending → last.watch.Observes last.place w.fileName := by
  intro w begun
  obtain ⟨hobserves, hname⟩ := observes_start hstart
  have hunderWay : begun.watch.IsUnderWay := isUnderWay_start b steps tree faults
  have hplace : Path.IsProper begun.place := Path.isProper_ofText w.directory
  have hheads : begun.watch.Heads begun.place w.fileName :=
    ⟨hobserves.target_eq ▸ Path.ofText_text (isProper_goal hplace), .inr hobserves⟩
  constructor
  · intro before source destination isDirectory now jobs hdestination hjobs s last hidle
    have hbefore : s.watch.IsUnderWay := Scene.isUnderWay_afterAll hunderWay before
    have hrenamed := Scene.isUnderWay_after (b := b) hbefore (.rename source destination isDirectory now)
    rw [← heads_iff_observes (Path.isProper_ofText destination) hidle,
      Scene.heads_afterAll_finds hrenamed hname hjobs]
    exact heads_rename hbefore hdestination isDirectory now
  · intro moves hmoves last hidle
    obtain ⟨hlast, hproper⟩ := Scene.heads_afterAll_allows hunderWay hname hplace hheads hmoves
    exact (heads_iff_observes hproper hidle).mp hlast

/-- A file is followed through two renames of its directory, with the restart for each run before the next. -/
theorem follows_file_twice :
    let b : Block := ⟨.fileChangeTrigger, "w", [("Path", "/w/a/x")]⟩
    let tree : String → FileTree := fun place => { directories := ["/w", place], files := [place ++ "/x"] }
    let w := ((afterAll b {} []).start b (tree "/w/a") {}).2
    let last := Scene.afterAll b ⟨w, Path.ofText w.directory⟩
      [.rename "/w/a" "/w/b" true 1.0, .work (tree "/w/b") {}, .rename "/w/b" "/w/c" true 2.0, .work (tree "/w/c") {}]
    last.place = Path.ofText "/w/c" ∧ last.watch.Observes last.place (some "x") := by
  intro b tree w last
  have hidle : ∀ v : Watch, v.jobs = some [] → ¬v.IsPending := fun v hv => by simp [IsPending, hv]
  have hfinds : ∀ (tree : FileTree) (place : Path), tree.isFile (goal place (some "x")) = true →
      tree.isDirectory (goal place (some "x")) = false → (Move.work tree {}).Finds place (some "x") :=
    fun tree place hfound hkind => ⟨⟨by decide, hfound, hkind⟩, fun _ => rfl⟩
  have hfollows := (follows_iff b [] (tree "/w/a") {} (by decide +kernel)).2
    [.rename "/w/a" "/w/b" true 1.0, .work (tree "/w/b") {}, .rename "/w/b" "/w/c" true 2.0, .work (tree "/w/c") {}]
  rw [show ((afterAll b {} []).start b (tree "/w/a") {}).2.fileName = some "x" from by decide +kernel] at hfollows
  refine ⟨by decide +kernel, hfollows ?_ (hidle _ (by decide +kernel))⟩
  exact ⟨⟨hidle _ (by decide +kernel), by decide, by decide +kernel, by decide⟩,
    hfinds _ _ (by decide +kernel) (by decide +kernel),
    ⟨hidle _ (by decide +kernel), by decide, by decide +kernel, by decide⟩,
    hfinds _ _ (by decide +kernel) (by decide +kernel), trivial⟩

/-- A directory that is renamed again before the restart is lost: the watch looks for it under the first new name, and
watches nothing. -/
theorem loses_renamed_twice :
    let b : Block := ⟨.fileChangeTrigger, "w", [("Path", "/w/a")]⟩
    let started := ({} : Watch).start b { directories := ["/w", "/w/a"] } {}
    let tree : FileTree := { directories := ["/w", "/w/c"] }
    let last := Scene.afterAll b ⟨started.2, Path.ofText started.2.directory⟩
      [.rename "/w/a" "/w/b" true 1.0, .rename "/w/b" "/w/c" true 2.0, .work tree {}]
    started.1 = true ∧ last.watch.jobs = some [] ∧ last.place = Path.ofText "/w/c" ∧ IsThere tree last.place none ∧
      ¬last.watch.Observes last.place none ∧ last.watch.target = "/w/b" ∧ last.watch.isWatching = false := by
  intro b started tree last
  have hlost : last.watch.main = none := by decide +kernel
  have hthere : IsThere tree last.place none := show tree.isDirectory last.place = true from by decide +kernel
  refine ⟨by decide +kernel, by decide +kernel, by decide +kernel, hthere, fun hobserves => ?_, by decide +kernel,
    by decide +kernel⟩
  have hmain := hobserves.main_eq
  rw [hlost] at hmain
  cases hmain

end Watch

end Deskhand
