import Deskhand.Proofs.Trigger.Observers
import Deskhand.Trigger.Basic

/-!
# What a watch has noted

A watch keeps a flag and a path (`Watch.edge`): a report that is taken note of sets both, a check takes the flag
away, and whoever acts on the check takes the path. A report that repeats the last one changes neither, nor does
anything else that happens to a watch. So the flag and the path are those of the paths that were noted since both
were last taken (`edgeOf`). Main statements:

* `edge_deliver`, `edge_runJobs`: what the delivery of a report changes;
* `ne_empty_of_mem_noted`: a report that names its source is noted under a name.
-/

namespace Deskhand

namespace Watch

/-- The flag and the path after paths were noted, if there was neither before. -/
def edgeOf (paths : List String) : Bool × Option String :=
  (!paths.isEmpty, paths.getLast?)

/-- The path that a watch notes when it handles a report. -/
def noted? (b : Block) (w : Watch) (role : ObserverRole) (r : ChangeReport) (now : Float) : Option String :=
  (w.offered? b role r).filter fun path => !w.isRepeat path now

/-- The paths that a watch notes when observers hand it a report in turn. -/
def notedBy (b : Block) (r : ChangeReport) (now : Float) : Watch → List Observer → List String
  | _, [] => []
  | w, o :: rest => (w.noted? b o.role r now).toList ++ notedBy b r now (w.hear b o.role r now) rest

/-- The paths that a watch notes when a report on a directory is delivered. -/
def noted (b : Block) (w : Watch) (directory : String) (r : ChangeReport) (now : Float) : List String :=
  notedBy b r now w (w.running.filter (·.directory == directory))

/-- The watch once it has followed what a report from above says of its directory. -/
def followed (w : Watch) : ObserverRole → ChangeReport → Watch
  | .main, _ => w
  | .parent, r => w.follow r

variable {b : Block} {w : Watch} {role : ObserverRole} {r : ChangeReport} {now : Float}

/-- Following a directory does not touch what is noted. -/
theorem noted_followed (w : Watch) (role : ObserverRole) (r : ChangeReport) :
    (w.followed role r).edge = w.edge ∧ (w.followed role r).lastEvent = w.lastEvent := by
  cases role with
  | main => exact ⟨rfl, rfl⟩
  | parent =>
    rw [followed, follow]
    split
    · exact ⟨rfl, rfl⟩
    · split <;> exact ⟨rfl, rfl⟩

/-- A report is followed if it comes from above, and then a path is noted or none. -/
theorem hear_eq (b : Block) (w : Watch) (role : ObserverRole) (r : ChangeReport) (now : Float) :
    w.hear b role r now =
      (w.noted? b role r now).elim (w.followed role r) fun path =>
        { w.followed role r with lastEvent := some (now, path), detected := some path, isRaised := true } := by
  have hoffered : w.hear b role r now =
      (w.offered? b role r).elim (w.followed role r) fun path => ((w.followed role r).record path now).2 := by
    cases role <;> rw [hear] <;> cases w.offered? b _ r <;> rfl
  rw [hoffered, noted?]
  cases w.offered? b role r with
  | none => rfl
  | some path =>
    have hrepeat : (w.followed role r).isRepeat path now = w.isRepeat path now := by
      rw [isRepeat, (noted_followed w role r).2, isRepeat]
    rw [Option.elim_some, record, hrepeat, Option.filter_some]
    cases w.isRepeat path now <;> rfl

/-- What a watch notes when it handles a report is the last path that is noted then. -/
theorem edge_hear {paths : List String} (h : w.edge = edgeOf paths) :
    (w.hear b role r now).edge = edgeOf (paths ++ (w.noted? b role r now).toList) := by
  rw [hear_eq]
  cases w.noted? b role r now with
  | none => simpa using (noted_followed w role r).1.trans h
  | some path => simp [edge, edgeOf]

theorem edge_notedBy {paths : List String} (observers : List Observer) (h : w.edge = edgeOf paths) :
    (observers.foldl (fun w o => w.hear b o.role r now) w).edge =
      edgeOf (paths ++ notedBy b r now w observers) := by
  induction observers generalizing w paths with
  | nil => simpa [notedBy] using h
  | cons o rest ih => rw [List.foldl_cons, ih (edge_hear h), notedBy, List.append_assoc]

/-- When a report is delivered, the paths that are noted then come after those before. -/
theorem edge_deliver {paths : List String} (directory : String) (h : w.edge = edgeOf paths) :
    (w.deliver b directory r now).2.edge = edgeOf (paths ++ w.noted b directory r now) :=
  edge_notedBy _ h

/-- Jobs do not touch what is noted. -/
theorem edge_runJobs (b : Block) (tree : FileTree) (faults : ObserverFaults) (w : Watch) :
    (w.runJobs b tree faults).2.edge = w.edge := by
  have hfold : ∀ (jobs : List WatchJob) (v : Watch),
      (jobs.foldl (fun w job => (w.dequeue job).runJob b tree faults job) v).edge = v.edge := by
    intro jobs
    induction jobs with
    | nil => exact fun v => rfl
    | cons job rest ih =>
      intro v
      rw [List.foldl_cons, ih]
      exact (isAbreast_runJob b tree faults (v.dequeue job) job).edge_eq
  exact hfold _ w

theorem edge_stop (faults : ObserverFaults) (w : Watch) : (w.stop faults).edge = w.edge :=
  (isAbreast_teardown faults w).edge_eq

theorem edge_start (b : Block) (tree : FileTree) (faults : ObserverFaults) (w : Watch) :
    (w.start b tree faults).2.edge = w.edge :=
  (isAbreast_start b tree faults w).edge_eq

/-- A report that names its source is about a path that has a name. -/
theorem ne_empty_of_offered {path : String} (hsource : r.source ≠ "") (h : w.offered? b role r = some path) :
    path ≠ "" := by
  cases role with
  | main =>
    rw [offered?, reportedPath?] at h
    obtain ⟨kind, -, h⟩ := Option.bind_eq_some_iff.mp h
    have hdestination : (r.destination.filter (· != "")).getD r.source ≠ "" := by
      cases hd : r.destination.filter (· != "") with
      | none => exact hsource
      | some destination => simpa using (Option.filter_eq_some_iff.mp hd).2
    dsimp only at h
    split at h
    · cases h
    · split at h
      · cases h
      · split at h
        · exact Option.some.inj h ▸ hdestination
        · exact Option.some.inj h ▸ hsource
  | parent =>
    have hnamed : ∀ (kind : ChangeKind) (named : String),
        (if accepts b kind && named != "" then some named else none) = some path → path ≠ "" := by
      intro kind named hnamed
      split at hnamed
      · next hkept =>
        obtain rfl := Option.some.inj hnamed
        simpa using (Bool.and_eq_true_iff.mp hkept).2
      · cases hnamed
    rw [offered?, parentPath?] at h
    dsimp only at h
    split at h
    · cases h
    · split at h
      · exact hnamed _ _ h
      · exact hnamed _ _ h
      · cases h

theorem ne_empty_of_mem_noted {directory path : String} (hsource : r.source ≠ "")
    (h : path ∈ w.noted b directory r now) : path ≠ "" := by
  have hall : ∀ (observers : List Observer) (v : Watch), path ∈ notedBy b r now v observers → path ≠ "" := by
    intro observers
    induction observers with
    | nil => exact fun v hmem => absurd hmem List.not_mem_nil
    | cons o rest ih =>
      intro v hmem
      rcases List.mem_append.mp hmem with hhere | hlater
      · have hoffered := Option.mem_toList.mp hhere
        exact ne_empty_of_offered hsource (Option.filter_eq_some_iff.mp hoffered).1
      · exact ih _ hlater
  exact hall _ w h

end Watch

/-- The flag and the path of the watch of a file trigger. -/
def Trigger.edge? (t : Trigger) : Option (Bool × Option String) :=
  t.watch?.map Watch.edge

/-- A trigger that was never checked has noted nothing. -/
theorem Trigger.edge?_of_ofBlock? {b : Block} {t : Trigger} (h : Trigger.ofBlock? b = some t)
    {edge : Bool × Option String} (hedge : t.edge? = some edge) : edge = Watch.edgeOf [] := by
  rw [ofBlock?] at h
  obtain ⟨state, hstate, rfl⟩ := Option.map_eq_some_iff.mp h
  rw [freshState?.eq_def] at hstate
  split at hstate <;> cases hstate <;> cases hedge
  rfl

end Deskhand
