import Deskhand.Proofs.Daemon.Steps
import Mathlib.Data.Set.Basic

/-!
# What a watcher keeps up with

The watcher of a daemon compares a digest of the store with the one that it saw last, and asks for a reload when
they differ. The digest and the scenarios are read at different moments, so that what was seen last and what is
loaded may be of different states of the store (`CanStart.traced`). Main statements:

* `CanStart.traced`: what was seen last and what is loaded, over every history of a daemon;
* `Concludes.of_reloading`: a look that has asked for a reload;
* `CanStart.catchesUp_iff`: when a look of the watcher leaves the active scenarios loaded.
-/

namespace Deskhand

/-- The digest that a watcher saw last. -/
def Watcher.last? : Watcher → Option String
  | .absent => none
  | .waiting last | .reloading _ last => some last

namespace Daemon

/-- What counts of the scenarios that are loaded. -/
def loadedSet (d : Daemon) : Set (String × String × String) :=
  {c | c ∈ d.engine.core.counted}

/-- What counts of the active scenarios of the store. -/
def activeSet (d : Daemon) : Set (String × String × String) :=
  {c | c ∈ d.engine.store.counted}

variable {d u : Daemon} {n : Nat} {last : String}

theorem loadedSet_congr (h : u.engine.core.counted = d.engine.core.counted) : u.loadedSet = d.loadedSet := by
  rw [loadedSet, h, loadedSet]

/-- A load that ends now leaves the active scenarios, or what was loaded before. -/
theorem loadedSet_of_refreshed (h : u.engine.core.counted = d.engine.refreshed) :
    u.loadedSet = d.activeSet ∨ u.loadedSet = d.loadedSet := by
  rw [loadedSet, h, Scheduler.refreshed]
  split
  · next hask => exact .inl (Set.ext (Store.mem_counted_of_list (Scheduler.eq_of_ask hask)))
  · exact .inr rfl

/-- Where a digest can be taken, the scenarios can be listed. -/
theorem loadedSet_of_fingerprint {digest : String} (hprint : d.engine.fingerprint = .ok digest)
    (h : u.engine.core.counted = d.engine.refreshed) : u.loadedSet = d.activeSet := by
  rw [Scheduler.fingerprint] at hprint
  split at hprint
  · cases hprint
  · next hout =>
    have hlist : ∃ scenarios, d.engine.store.list true = .ok scenarios := by
      rw [Store.fingerprint] at hprint
      cases hlist : d.engine.store.list true with
      | ok scenarios => exact ⟨scenarios, rfl⟩
      | error fault => simp [hlist, Except.map] at hprint
    obtain ⟨scenarios, hlist⟩ := hlist
    have hask : d.engine.ask .list (d.engine.store.list true) = .ok scenarios := by
      rw [Scheduler.ask, if_neg, hlist]
      simp only [List.any_eq_true, not_exists, not_and] at hout
      exact fun hmem => hout _ (List.contains_iff_mem.mp hmem) rfl
    rw [loadedSet, h, Scheduler.refreshed, hask]
    exact Set.ext (Store.mem_counted_of_list hlist)

/-! ## What was seen and what is loaded -/

/-- In the course of events a daemon is up; the digest that its watcher saw last was that of the store at some
moment, and what is loaded, if anything, was active at some moment. -/
structure IsTraced (d₀ : Daemon) (es : List Event) : Prop where
  isUp : (d₀.afterAll es).IsUp
  seen : ∀ last, (d₀.afterAll es).watcher.last? = some last →
    ∃ ps, ps <+: es ∧ (d₀.afterAll ps).engine.fingerprint = .ok last
  loaded : (d₀.afterAll es).loadedSet = ∅ ∨
    ∃ qs, qs <+: es ∧ (d₀.afterAll es).loadedSet = (d₀.afterAll qs).activeSet

theorem IsTraced.snoc {d₀ : Daemon} {es : List Event} {e : Event} (h : IsTraced d₀ es)
    (hup : (d₀.afterAll (es ++ [e])).IsUp) (hstep : Step (d₀.afterAll es) (d₀.afterAll (es ++ [e]))) :
    IsTraced d₀ (es ++ [e]) := by
  have hbefore : es <+: es ++ [e] := List.prefix_append es [e]
  have hseen : (d₀.afterAll (es ++ [e])).watcher.last? = (d₀.afterAll es).watcher.last? →
      ∀ last, (d₀.afterAll (es ++ [e])).watcher.last? = some last →
        ∃ ps, ps <+: es ++ [e] ∧ (d₀.afterAll ps).engine.fingerprint = .ok last := fun hsame last hlast => by
    obtain ⟨ps, hps, hprint⟩ := h.seen last (hsame ▸ hlast)
    exact ⟨ps, hps.trans hbefore, hprint⟩
  have hloaded : (d₀.afterAll (es ++ [e])).engine.core.counted = (d₀.afterAll es).engine.core.counted →
      (d₀.afterAll (es ++ [e])).loadedSet = ∅ ∨ ∃ qs, qs <+: es ++ [e] ∧
        (d₀.afterAll (es ++ [e])).loadedSet = (d₀.afterAll qs).activeSet := fun hsame => by
    rw [loadedSet_congr hsame]
    exact h.loaded.imp id fun ⟨qs, hqs, hactive⟩ => ⟨qs, hqs.trans hbefore, hactive⟩
  cases hstep with
  | stays _ hwatcher hcounted _ => exact ⟨hup, hseen (by rw [hwatcher]), hloaded hcounted⟩
  | @sees last digest _ hprint _ hwatch hcounted _ =>
    refine ⟨hup, fun last' hlast => ⟨es, hbefore, ?_⟩, hloaded hcounted⟩
    have hdigest : digest = last' := by simpa [hwatch, Watcher.last?] using hlast
    rw [hprint, hdigest]
  | loads _ hwatcher _ hcounted _ _ =>
    refine ⟨hup, hseen (by rw [hwatcher]), ?_⟩
    rcases loadedSet_of_refreshed hcounted with hactive | hsame
    · exact .inr ⟨es, hbefore, hactive⟩
    · rw [hsame]
      exact h.loaded.imp id fun ⟨qs, hqs, hactive⟩ => ⟨qs, hqs.trans hbefore, hactive⟩
  | goesOn hresumes =>
    cases hresumes with
    | ends _ _ hdown => exact absurd hup hdown.not_isUp
    | waits hcore _ hwatcher _ => exact ⟨hup, hseen (by rw [hwatcher]), hloaded (congrArg _ hcore)⟩
    | serves hcore _ _ _ hwatch =>
      refine ⟨hup, fun last hlast => ⟨es ++ [e], List.prefix_rfl, ?_⟩, hloaded (congrArg _ hcore)⟩
      rcases hwatch with hwatch | ⟨digest, hprint, hwatch⟩
      · simp [hwatch, Watcher.last?] at hlast
      · have hdigest : digest = last := by simpa [hwatch, Watcher.last?] using hlast
        rw [hprint, hdigest]
    | looks hcore _ hwas _ hwatch => exact ⟨hup, hseen (by rw [hwas, hwatch]; rfl), hloaded (congrArg _ hcore)⟩

/-- What was seen last and what is loaded were there at some moments of the history, if not at the same ones. -/
theorem CanStart.traced {d₀ : Daemon} (h : d₀.CanStart) {es : List Event} (hes : ∀ e ∈ es, e.Fits) :
    (d₀.start.afterAll es).IsDown ∨ IsTraced d₀.start es := by
  induction es using List.reverseRecOn with
  | nil =>
    rcases h.start with hdown | ⟨hup, hcounted, hwatch⟩
    · exact .inl hdown
    refine .inr ⟨hup, fun last hlast => ?_, .inl ?_⟩
    · rcases hwatch with hwatch | ⟨digest, hprint, hwatch⟩
      · simp [afterAll, hwatch, Watcher.last?] at hlast
      · have hdigest : digest = last := by simpa [afterAll, hwatch, Watcher.last?] using hlast
        exact ⟨[], List.prefix_rfl, hdigest ▸ hprint⟩
    · rw [loadedSet, afterAll, List.foldl_nil, hcounted]
      simp
  | append_singleton es e ih =>
    have hfits : e.Fits := hes e (by simp)
    rw [afterAll_snoc]
    rcases ih fun e' he' => hes e' (List.mem_append_left _ he') with hdown | htraced
    · exact .inl (hdown.after e)
    · rcases htraced.isUp.after hfits with hdown | ⟨hup, hstep⟩
      · exact .inl hdown
      · rw [← afterAll_snoc] at hup hstep
        exact .inr (htraced.snoc hup hstep)

theorem CanStart.isUp {d₀ : Daemon} (h : d₀.CanStart) {es : List Event} (hes : ∀ e ∈ es, e.Fits)
    (hphase : (d₀.start.afterAll es).phase.isUp = true) : (d₀.start.afterAll es).IsUp := by
  rcases h.traced hes with hdown | htraced
  · cases hphase.symm.trans hdown.phase
  · exact htraced.isUp

/-- A watcher begins with the digest of the store as it is then, whatever was loaded before. -/
theorem CanStart.begins {d₀ : Daemon} (h : d₀.CanStart) (es : List Event) (hes : ∀ e ∈ es, e.Fits)
    (hphase : (d₀.start.afterAll es).phase = .starting n)
    (hwatcher : (d₀.start.afterAll (es ++ [.goOn])).watcher ≠ .absent) :
    ∃ last, (d₀.start.afterAll (es ++ [.goOn])).engine.fingerprint = .ok last ∧
      (d₀.start.afterAll (es ++ [.goOn])).watcher = .waiting last := by
  rw [afterAll_snoc] at hwatcher ⊢
  exact (h.isUp hes (by rw [hphase]; rfl)).begins hphase hwatcher

/-! ## Looks -/

/-- It is calm: the active scenarios count as a certain set, and the store can be read. (A digest takes a list of
the scenarios and the settings.) -/
structure IsCalm (active : Set (String × String × String)) (d : Daemon) : Prop where
  activeSet_eq : d.activeSet = active
  reads : ∃ digest, d.engine.fingerprint = .ok digest

/-- A look that has begun is over after some events; until then a reload is waited for, and it is calm. -/
inductive Concludes (active : Set (String × String × String)) : Daemon → Daemon → Prop
  | ends {d : Daemon} {last : String} : d.watcher = .waiting last → d.IsCalm active → Concludes active d d
  | goes {d u : Daemon} {e : Event} {call : Nat} {last : String} : d.watcher = .reloading call last →
      d.IsCalm active → e.Fits → Concludes active (d.after e) u → Concludes active d u

variable {active : Set (String × String × String)}

theorem Concludes.watches (h : Concludes active d u) : d.watcher ≠ .absent := by
  cases h with
  | ends hwatcher _ => simp [hwatcher]
  | goes hwatcher _ _ _ => simp [hwatcher]

theorem Concludes.isCalm (h : Concludes active d u) : u.IsCalm active := by
  induction h with
  | ends _ hcalm => exact hcalm
  | goes _ _ _ _ ih => exact ih

theorem Concludes.eq_of_waiting (h : Concludes active d u) (hwaits : d.watcher = .waiting last) : u = d := by
  cases h with
  | ends _ _ => rfl
  | goes hwatcher _ _ _ => cases hwaits.symm.trans hwatcher

/-- A reload that a watcher waits for has not changed what is loaded, or it has ended and left the active
scenarios. -/
def IsReloading (n : Nat) (before active : Set (String × String × String)) (d : Daemon) : Prop :=
  d.engine.core.IsOpen n ∧ d.loadedSet = before ∨ ¬d.engine.core.IsOpen n ∧ d.loadedSet = active

/-- A look that has asked for a reload leaves the active scenarios, unless the reload meets a fault. -/
theorem Concludes.of_reloading {before : Set (String × String × String)} (h : Concludes active d u) (hd : d.IsUp)
    (hwatcher : d.watcher = .reloading n last) (hreload : d.IsReloading n before active) :
    n ∈ u.engine.failed.map Prod.fst ∧ u.loadedSet = before ∨
      n ∉ u.engine.failed.map Prod.fst ∧ u.loadedSet = active := by
  induction h with
  | ends hwaits _ => cases hwaits.symm.trans hwatcher
  | @goes d u e call last' _ hcalm he hrest ih =>
    rcases hd.after he with hdown | ⟨hup, hstep⟩
    · exact absurd hdown.watcher hrest.watches
    have hstays : (d.after e).watcher = d.watcher → (d.after e).IsReloading n before active →
        n ∈ u.engine.failed.map Prod.fst ∧ u.loadedSet = before ∨
          n ∉ u.engine.failed.map Prod.fst ∧ u.loadedSet = active :=
      fun hsame => ih hup (hsame.trans hwatcher)
    cases hstep with
    | stays _ hwatcher' hcounted hopen =>
      refine hstays hwatcher' ?_
      rwa [IsReloading, hopen n, loadedSet_congr hcounted]
    | sees hwas _ _ _ _ _ => cases hwatcher.symm.trans hwas
    | @loads m _ hwatcher' hawaited hcounted _ hover =>
      obtain rfl : n = m := Option.some.inj ((hd.awaited_of_reloading hwatcher).symm.trans hawaited)
      obtain ⟨digest, hprint⟩ := hcalm.reads
      refine hstays hwatcher' (.inr ⟨hover, ?_⟩)
      exact (loadedSet_of_fingerprint hprint hcounted).trans hcalm.activeSet_eq
    | goesOn hresumes =>
      cases hresumes with
      | ends _ _ hdown => exact absurd hup hdown.not_isUp
      | waits hcore _ hwatcher' _ =>
        refine hstays hwatcher' ?_
        rwa [IsReloading, hcore, loadedSet_congr (congrArg _ hcore)]
      | serves _ _ hwas _ _ => cases (hd.serving (by simp [hwatcher])).symm.trans hwas
      | looks hcore _ _ _ hwatch =>
        -- nothing is under way any longer, so that what is open has met a fault
        have hfree := hup.awaited_of_waiting hwatch ▸ hup.attended
        have hopen : (d.after e).engine.core.IsOpen n ↔ n ∈ (d.after e).engine.failed.map Prod.fst :=
          hfree.isOpen_iff
        rw [hrest.eq_of_waiting hwatch, ← hopen, hcore, loadedSet_congr (congrArg _ hcore)]
        exact hreload

/-- When a look leaves the active scenarios loaded, by what the watcher saw last. -/
theorem IsUp.look_iff (h : d.IsUp) (hwaits : d.watcher = .waiting last) (hcalm : d.IsCalm active)
    (hlook : Concludes active (d.after (.alarm .inspection)) u) :
    u.loadedSet = active ↔
      d.engine.fingerprint ≠ .ok last ∧ d.engine.numbered ∉ u.engine.failed.map Prod.fst ∨
        d.loadedSet = active := by
  obtain ⟨hup, hcounted, hcases⟩ := h.look hwaits
  have hlook : Concludes active d.inspect u := hlook
  rcases hcases with ⟨hsame, -, hwaits', -, -⟩ | ⟨digest, hprint, hnew, hreloading, hopen⟩
  · -- with the digest that was seen last nothing is asked for
    obtain ⟨digest, hprint⟩ := hcalm.reads
    rw [hlook.eq_of_waiting (hwaits'.trans hwaits), hprint, hsame digest hprint, loadedSet_congr hcounted]
    simp
  · have hdiffers : d.engine.fingerprint ≠ .ok last := by
      rw [hprint]
      exact fun heq => hnew (Except.ok.inj heq)
    have hreload : d.inspect.IsReloading d.engine.numbered d.loadedSet active :=
      .inl ⟨hopen, loadedSet_congr hcounted⟩
    rcases hlook.of_reloading hup hreloading hreload with ⟨hfault, hloaded⟩ | ⟨hfault, hloaded⟩
    · rw [hloaded]
      exact ⟨.inr, fun hor => hor.resolve_left fun hnot => hnot.2 hfault⟩
    · exact ⟨fun _ => .inl ⟨hdiffers, hfault⟩, fun _ => hloaded⟩

/-- A look that shows the digest that was seen last is over at once. -/
theorem IsUp.concludes (h : d.IsUp) (hwaits : d.watcher = .waiting last) (hprint : d.engine.fingerprint = .ok last)
    (hcalm : d.IsCalm active) :
    Concludes active (d.after (.alarm .inspection)) (d.after (.alarm .inspection)) ∧
      (d.after (.alarm .inspection)).loadedSet = d.loadedSet := by
  obtain ⟨-, hcounted, ⟨-, -, hwaits', hcore, hsame⟩ | ⟨digest, hprint', hnew, -⟩⟩ := h.look hwaits
  · refine ⟨.ends (hwaits'.trans hwaits) ⟨?_, last, hsame.trans hprint⟩, loadedSet_congr hcounted⟩
    rw [← hcalm.activeSet_eq]
    exact congrArg (fun c : Scheduler.Core => {x | x ∈ c.store.counted}) hcore
  · exact absurd (Except.ok.inj (hprint'.symm.trans hprint)) hnew

/-- Once it is calm, the next look of the watcher leaves the active scenarios loaded iff the digest is another one
than the watcher saw last and the reload meets no fault, or they were loaded already. The digest that was seen
last is that of the store at some moment of the history, and what is loaded was active at some moment, but these
need not be the same. -/
theorem CanStart.catchesUp_iff {d₀ : Daemon} (h : d₀.CanStart) {es : List Event} (hes : ∀ e ∈ es, e.Fits)
    (hwaits : (d₀.start.afterAll es).watcher = .waiting last)
    (hcalm : (d₀.start.afterAll es).IsCalm active)
    (hlook : Concludes active ((d₀.start.afterAll es).after (.alarm .inspection)) u) :
    ∃ ps qs, ps <+: es ∧ qs <+: es ∧ (d₀.start.afterAll ps).engine.fingerprint = .ok last ∧
      ((d₀.start.afterAll es).loadedSet = ∅ ∨
        (d₀.start.afterAll es).loadedSet = (d₀.start.afterAll qs).activeSet) ∧
      (u.loadedSet = u.activeSet ↔
        (d₀.start.afterAll es).engine.fingerprint ≠ (d₀.start.afterAll ps).engine.fingerprint ∧
            (d₀.start.afterAll es).engine.numbered ∉ u.engine.failed.map Prod.fst ∨
          (d₀.start.afterAll es).loadedSet = (d₀.start.afterAll es).activeSet) := by
  have htraced : IsTraced d₀.start es := by
    refine (h.traced hes).resolve_left fun hdown => ?_
    cases hwaits.symm.trans hdown.watcher
  obtain ⟨ps, hps, hseen⟩ := htraced.seen last (by rw [hwaits]; rfl)
  obtain ⟨qs, hqs, hloaded⟩ : ∃ qs, qs <+: es ∧ ((d₀.start.afterAll es).loadedSet = ∅ ∨
      (d₀.start.afterAll es).loadedSet = (d₀.start.afterAll qs).activeSet) := by
    rcases htraced.loaded with hnone | ⟨qs, hqs, hactive⟩
    · exact ⟨[], List.nil_prefix, .inl hnone⟩
    · exact ⟨qs, hqs, .inr hactive⟩
  refine ⟨ps, qs, hps, hqs, hseen, hloaded, ?_⟩
  rw [hseen, hlook.isCalm.activeSet_eq, hcalm.activeSet_eq]
  exact htraced.isUp.look_iff hwaits hcalm hlook

/-- A store with one active scenario, which waits for a key. -/
def oneKey : Store :=
  { rows :=
      [{ id := "a", name := "Press", active := .int 1
         blocks := "[\x7b\"Type\":\"HotkeyTrigger\",\"Id\":\"t\",\"Parameters\":\x7b\"Key\":\"F1\"\x7d\x7d]" }] }

/-- A daemon over an empty store that is not started. -/
def desk : Daemon :=
  { config := {}, machine := default, engine := Scheduler.ofRows [] none, pidFile := "pid", statusFile := "status" }

theorem canStart_desk : desk.CanStart :=
  ⟨⟨rfl, rfl⟩, rfl, List.nodup_nil⟩

theorem isKeyed_oneKey : oneKey.IsKeyed :=
  List.nodup_singleton _

theorem isCalm_of_counted {kept : Store} {digest : String} (hprint : d.engine.fingerprint = .ok digest)
    (hcounted : d.engine.store.counted = kept.counted) : d.IsCalm {c | c ∈ kept.counted} :=
  ⟨congrArg (fun cs => {c | c ∈ cs}) hcounted, digest, hprint⟩

/-- The scenario is made before the scheduler has loaded. -/
def early : List Event :=
  [.store oneKey, .alarm (.call 0)] ++ [.goOn]

/-- The scenario is made when the scheduler has loaded and the watcher has not begun. -/
def late : List Event :=
  [.alarm (.call 0), .store oneKey] ++ [.goOn]

/-- A scenario that is made late is not loaded by the next look, although nothing was written since and every read
has succeeded. -/
theorem late_loses_change :
    desk.CanStart ∧ (∀ e ∈ late, e.Fits) ∧ (∃ last, (desk.start.afterAll late).watcher = .waiting last) ∧
      (desk.start.afterAll late).IsCalm {c | c ∈ oneKey.counted} ∧
      ∃ u, Concludes {c | c ∈ oneKey.counted} ((desk.start.afterAll late).after (.alarm .inspection)) u ∧
        u.loadedSet ≠ u.activeSet := by
  have hfits : ∀ e ∈ late, e.Fits := by simp [late, Event.Fits, isKeyed_oneKey]
  have hbegins := canStart_desk.begins (n := 0) [.alarm (.call 0), .store oneKey]
    (by simp [Event.Fits, isKeyed_oneKey]) (by decide +kernel) (by decide +kernel)
  have hup := canStart_desk.isUp hfits (by decide +kernel)
  have hloaded : (desk.start.afterAll late).engine.core.counted = [] := by decide +kernel
  have hactive : (desk.start.afterAll late).engine.store.counted = oneKey.counted := by decide +kernel
  rw [← late] at hbegins
  refine ⟨canStart_desk, hfits, ?_⟩
  generalize desk.start.afterAll late = d at hbegins hup hloaded hactive ⊢
  obtain ⟨last, hprint, hwaits⟩ := hbegins
  have hcalm := isCalm_of_counted hprint hactive
  obtain ⟨hover, hkept⟩ := hup.concludes hwaits hprint hcalm
  refine ⟨⟨last, hwaits⟩, hcalm, _, hover, fun hsame => ?_⟩
  have hsets : {c | c ∈ []} = {c | c ∈ oneKey.counted} := by
    rw [← hover.isCalm.activeSet_eq, ← hsame, hkept, loadedSet, hloaded]
  have hnone : ∀ c, c ∉ oneKey.counted := fun c hc => List.not_mem_nil ((Set.ext_iff.mp hsets c).mpr hc)
  exact hnone _ List.mem_cons_self

theorem catchesUp_early :
    ∃ u, Concludes {c | c ∈ oneKey.counted} ((desk.start.afterAll early).after (.alarm .inspection)) u ∧
      u.loadedSet = u.activeSet := by
  have hfits : ∀ e ∈ early, e.Fits := by simp [early, Event.Fits, isKeyed_oneKey]
  have hbegins := canStart_desk.begins (n := 0) [.store oneKey, .alarm (.call 0)]
    (by simp [Event.Fits, isKeyed_oneKey]) (by decide +kernel) (by decide +kernel)
  have hup := canStart_desk.isUp hfits (by decide +kernel)
  have hloaded : (desk.start.afterAll early).engine.core.counted = oneKey.counted := by decide +kernel
  have hactive : (desk.start.afterAll early).engine.store.counted = oneKey.counted := by decide +kernel
  rw [← early] at hbegins
  obtain ⟨last, hprint, hwaits⟩ := hbegins
  have hcalm := isCalm_of_counted hprint hactive
  have hover := (hup.concludes hwaits hprint hcalm).1
  obtain ⟨ps, qs, -, -, -, -, hiff⟩ := canStart_desk.catchesUp_iff hfits hwaits hcalm hover
  refine ⟨_, hover, hiff.mpr (.inr ?_)⟩
  rw [loadedSet, activeSet, hloaded, hactive]

end Daemon

end Deskhand
