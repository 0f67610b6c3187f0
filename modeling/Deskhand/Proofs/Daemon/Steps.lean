import Deskhand.Proofs.Daemon.History

/-!
# What an event does to a daemon

A daemon that is up, while its scheduler starts or it serves, has asked its scheduler for one load at most, and
waits for it (`IsUp`). An event lets it down, leaves what it is doing and what is loaded as they are, makes its
watcher see a new digest and ask for a reload, ends the load that it waits for, or lets it go on after that
(`Step`). Main statements:

* `IsUp.follow`: how a daemon goes on;
* `IsUp.look`: what a look of the watcher does;
* `IsUp.after`: what an event does to a daemon that is up;
* `IsDown.after`: a daemon that ends stays so;
* `CanStart.start`: a daemon that starts.
-/

namespace Deskhand

/-- Whether the scheduler starts or is served. -/
def Phase.isUp : Phase → Bool
  | .starting _ | .serving => true
  | _ => false

namespace Daemon

/-- The call that the daemon or its watcher waits for, while it is up. -/
def awaited (d : Daemon) : Option Nat :=
  match d.phase, d.watcher with
  | .starting n, _ => some n
  | .serving, .reloading n _ => some n
  | _, _ => none

/-- A daemon that ends or has ended watches nothing. -/
structure IsDown (d : Daemon) : Prop where
  phase : d.phase.isUp = false
  watcher : d.watcher = .absent

/-! ## Going on -/

/-- How a daemon that is up goes on with what waited for its scheduler. -/
inductive Resumes (d u : Daemon) : Prop
  /-- The scheduler has started, and the daemon was told to end meanwhile. -/
  | ends {n : Nat} : d.phase = .starting n → d.isOver n = true → u.IsDown → Resumes d u
  /-- It waits on. -/
  | waits : u.engine.core = d.engine.core → u.phase = d.phase → u.watcher = d.watcher →
      (∀ n, d.awaited = some n → d.isOver n = false) → Resumes d u
  /-- The scheduler has started: the watcher begins with the digest of then, if there is one. -/
  | serves {n : Nat} : u.engine.core = d.engine.core → u.phase = .serving → d.phase = .starting n →
      d.isOver n = true →
      (u.watcher = .absent ∨ ∃ digest, u.engine.fingerprint = .ok digest ∧ u.watcher = .waiting digest) →
      Resumes d u
  /-- A reload is over: the watcher waits for its next look. -/
  | looks {n : Nat} {last : String} : u.engine.core = d.engine.core → u.phase = d.phase →
      d.watcher = .reloading n last → d.isOver n = true → u.watcher = .waiting last → Resumes d u

variable {d : Daemon}

/-- Hearing of runs writes files, and does nothing else. -/
theorem foldl_hear (d : Daemon) (news : List Announcement) : ∃ m, news.foldl hear d = { d with machine := m } := by
  induction news generalizing d with
  | nil => exact ⟨d.machine, rfl⟩
  | cons a rest ih =>
    obtain ⟨m, hm⟩ := ih (d.hear a)
    refine ⟨m, ?_⟩
    rw [List.foldl_cons, hm, hear]
    split <;> rfl

theorem isDown_beginEnding (d : Daemon) : d.beginEnding.IsDown := by
  have hwatcher : d.endWatching.watcher = .absent := by
    rw [endWatching]
    split <;> rfl
  rw [beginEnding]
  dsimp only
  split <;> exact ⟨rfl, hwatcher⟩

theorem IsDown.followEnd (h : d.IsDown) : d.followEnd.IsDown := by
  rw [Daemon.followEnd]
  split
  · split
    · exact ⟨rfl, h.watcher⟩
    · exact h
  · exact h

theorem followReload_of_absent (h : d.watcher = .absent) : d.followReload = d := by
  simp only [followReload, h]

theorem followStart_of_serving (h : d.phase = .serving) : d.followStart = d := by
  simp only [followStart, h]

theorem followEnd_of_isUp (h : d.phase.isUp = true) : d.followEnd = d := by
  rw [followEnd]
  split
  · next hphase => simp [hphase, Phase.isUp] at h
  · rfl

theorem IsDown.follow (h : d.IsDown) : d.follow.IsDown := by
  obtain ⟨m, hm⟩ := foldl_hear { d with engine := { d.engine with announced := [] } } d.engine.announced
  rw [Daemon.follow, hm]
  generalize hd : ({ d with engine := { d.engine with announced := [] }, machine := m } : Daemon) = d'
  have hdown : d'.IsDown := hd ▸ ⟨h.phase, h.watcher⟩
  have hstart : d'.followStart = d' := by
    rw [followStart]
    split
    · next hphase => simpa [hphase, Phase.isUp] using hdown.phase
    · rfl
  rw [followReload_of_absent hdown.watcher, hstart]
  exact hdown.followEnd

theorem serve_resumes {n : Nat} (hphase : d.phase = .starting n) (hwatcher : d.watcher = .absent)
    (hover : d.isOver n = true) : Resumes d d.serve := by
  rw [serve]
  split
  · exact .ends hphase hover (isDown_beginEnding _)
  · rw [beginWatching]
    split
    · next digest hdigest => exact .serves rfl rfl hphase hover (.inr ⟨digest, hdigest, rfl⟩)
    · exact .serves rfl rfl hphase hover (.inl hwatcher)

theorem followReload_resumes {n : Nat} {last : String} (hwatcher : d.watcher = .reloading n last)
    (hover : d.isOver n = true) : Resumes d d.followReload := by
  simp only [followReload, hwatcher, hover, Bool.not_true, Bool.false_eq_true, if_false]
  split
  · exact .looks rfl rfl hwatcher hover rfl
  · exact .looks rfl rfl hwatcher hover rfl

theorem waits_self (hopen : ∀ n, d.awaited = some n → d.isOver n = false) : Resumes d d :=
  .waits rfl rfl rfl hopen

/-- What was heard makes no difference to how a daemon goes on. -/
theorem Resumes.of_heard {u : Daemon} {m : Machine} {news : List Announcement}
    (h : Resumes { d with engine := { d.engine with announced := news }, machine := m } u) : Resumes d u := by
  cases h with
  | ends hwas hover hdown => exact .ends hwas hover hdown
  | waits hcore hphase hwatcher hopen => exact .waits hcore hphase hwatcher hopen
  | serves hcore hphase hwas hover hwatcher => exact .serves hcore hphase hwas hover hwatcher
  | looks hcore hphase hwas hover hwatcher => exact .looks hcore hphase hwas hover hwatcher

theorem Resumes.followEnd {u : Daemon} (h : Resumes d u) (hup : d.phase.isUp = true) :
    Resumes d u.followEnd := by
  cases h with
  | ends hwas hover hdown => exact .ends hwas hover hdown.followEnd
  | waits hcore hphase hwatcher hopen =>
    rw [followEnd_of_isUp (hphase ▸ hup)]
    exact .waits hcore hphase hwatcher hopen
  | serves hcore hphase hwas hover hwatcher =>
    rw [followEnd_of_isUp (by rw [hphase]; rfl)]
    exact .serves hcore hphase hwas hover hwatcher
  | looks hcore hphase hwas hover hwatcher =>
    rw [followEnd_of_isUp (hphase ▸ hup)]
    exact .looks hcore hphase hwas hover hwatcher

theorem phase_followReload (d : Daemon) : d.followReload.phase = d.phase := by
  rw [followReload]
  split
  · split
    · rfl
    · split <;> rfl
  · rfl

theorem goOn_resumes (hup : d.phase.isUp = true) (halone : ∀ n, d.phase = .starting n → d.watcher = .absent) :
    Resumes d d.followReload.followStart.followEnd := by
  refine Resumes.followEnd ?_ hup
  cases hphase : d.phase with
  | idle => simp [hphase, Phase.isUp] at hup
  | ending call => simp [hphase, Phase.isUp] at hup
  | starting n =>
    have hwatcher := halone n hphase
    rw [followReload_of_absent hwatcher]
    simp only [followStart, hphase]
    split
    · next hover => exact serve_resumes hphase hwatcher hover
    · next hover =>
      refine waits_self fun m hm => ?_
      simp only [awaited, hphase, Option.some.injEq] at hm
      rw [← hm]
      simpa using hover
  | serving =>
    rw [followStart_of_serving ((phase_followReload d).trans hphase)]
    cases hwatcher : d.watcher with
    | reloading n last =>
      cases hover : d.isOver n with
      | true => exact followReload_resumes hwatcher hover
      | false =>
        simp only [followReload, hwatcher, hover, Bool.not_false, if_true]
        refine waits_self fun m hm => ?_
        simp only [awaited, hphase, hwatcher, Option.some.injEq] at hm
        rw [← hm, hover]
    | _ =>
      simp only [followReload, hwatcher]
      exact waits_self fun m hm => by simp [awaited, hphase, hwatcher] at hm

/-- How a daemon that is up goes on after an event. -/
theorem follow_resumes (hup : d.phase.isUp = true) (halone : ∀ n, d.phase = .starting n → d.watcher = .absent) :
    Resumes d d.follow := by
  obtain ⟨m, hm⟩ := foldl_hear { d with engine := { d.engine with announced := [] } } d.engine.announced
  rw [follow, hm]
  exact Resumes.of_heard
    (goOn_resumes (d := { d with engine := { d.engine with announced := [] }, machine := m }) hup halone)

/-! ## A daemon that is up -/

/-- A daemon is up, and has asked its scheduler for nothing but the load that it waits for, if for anything. -/
structure IsUp (d : Daemon) : Prop where
  phase : d.phase.isUp = true
  /-- There is no watcher before the scheduler has started. -/
  alone : ∀ n, d.phase = .starting n → d.watcher = .absent
  attended : d.engine.core.Attended d.awaited

/-- What an event does to a daemon that is up and stays so. -/
inductive Step (d u : Daemon) : Prop
  | stays : u.phase = d.phase → u.watcher = d.watcher → u.engine.core.counted = d.engine.core.counted →
      (∀ n, u.engine.core.IsOpen n ↔ d.engine.core.IsOpen n) → Step d u
  /-- The watcher sees a new digest and asks for a reload. -/
  | sees {last digest : String} : d.watcher = .waiting last → d.engine.fingerprint = .ok digest → digest ≠ last →
      u.watcher = .reloading d.engine.numbered digest → u.engine.core.counted = d.engine.core.counted →
      u.engine.core.IsOpen d.engine.numbered → Step d u
  /-- The load that is waited for ends, with what the store says then. -/
  | loads {n : Nat} : u.phase = d.phase → u.watcher = d.watcher → d.awaited = some n →
      u.engine.core.counted = d.engine.refreshed → d.engine.core.IsOpen n → ¬u.engine.core.IsOpen n → Step d u
  | goesOn : Resumes d u → Step d u

variable {u : Daemon} {n : Nat} {last : String}

theorem IsDown.not_isUp (h : d.IsDown) : ¬d.IsUp := fun hup => by
  have hphase := h.phase
  rw [hup.phase] at hphase
  cases hphase

theorem isOver_iff : d.isOver n = true ↔ ∀ call ∈ d.engine.calls, call.number ≠ n := by
  simp [isOver]

namespace IsUp

theorem serving (h : d.IsUp) (hwatcher : d.watcher ≠ .absent) : d.phase = .serving := by
  have hup := h.phase
  cases hphase : d.phase with
  | serving => rfl
  | starting n => exact absurd (h.alone n hphase) hwatcher
  | _ => simp [hphase, Phase.isUp] at hup

theorem awaited_of_reloading (h : d.IsUp) (hwatcher : d.watcher = .reloading n last) : d.awaited = some n := by
  rw [awaited, h.serving (by simp [hwatcher]), hwatcher]

theorem awaited_of_waiting (h : d.IsUp) (hwatcher : d.watcher = .waiting last) : d.awaited = none := by
  rw [awaited, h.serving (by simp [hwatcher]), hwatcher]

/-- A daemon that does what it did before is up as long as its scheduler is attended. -/
theorem congr (h : d.IsUp) (hphase : u.phase = d.phase) (hwatcher : u.watcher = d.watcher)
    (hatt : u.engine.core.Attended d.awaited) : u.IsUp := by
  have hawaited : u.awaited = d.awaited := by rw [awaited, awaited, hphase, hwatcher]
  refine ⟨hphase ▸ h.phase, fun n hn => ?_, hawaited ▸ hatt⟩
  rw [hwatcher]
  exact h.alone n (hphase ▸ hn)

theorem stays (h : d.IsUp) (hphase : u.phase = d.phase) (hwatcher : u.watcher = d.watcher)
    (hcore : u.engine.core = d.engine.core) : u.IsUp ∧ Step d u := by
  refine ⟨h.congr hphase hwatcher (hcore ▸ h.attended), .stays hphase hwatcher (congrArg _ hcore) fun n => ?_⟩
  rw [hcore]

/-- How a daemon that is up goes on. -/
theorem follow (h : d.IsUp) : d.follow.IsDown ∨ d.follow.IsUp ∧ Resumes d d.follow := by
  have hresumes := follow_resumes h.phase h.alone
  -- once the load that was waited for is over, nothing is
  have hserves : ∀ {n}, d.awaited = some n → d.isOver n = true → d.follow.engine.core = d.engine.core →
      d.follow.phase = .serving → d.follow.awaited = none → d.follow.IsUp := by
    intro n hawait hover hcore hphase hawaited
    have hcalls : d.engine.core.calls = [] := List.eq_nil_iff_forall_not_mem.mpr fun call hcall => by
      have hnumber := (h.attended.calls call hcall).2
      exact isOver_iff.mp hover call hcall (Option.some.inj (hnumber.symm.trans hawait))
    refine ⟨by rw [hphase]; rfl, fun n hn => (nomatch hphase.symm.trans hn), ?_⟩
    rw [hcore, hawaited]
    exact h.attended.of_calls_nil hcalls none
  have hkept := hresumes
  cases hresumes with
  | ends _ _ hdown => exact .inl hdown
  | waits hcore hphase hwatcher _ => exact .inr ⟨h.congr hphase hwatcher (hcore ▸ h.attended), hkept⟩
  | @serves n hcore hphase hwas hover hwatcher =>
    have hawaited : d.follow.awaited = none := by
      rcases hwatcher with hwatcher | ⟨digest, -, hwatcher⟩ <;> rw [awaited, hphase, hwatcher]
    exact .inr ⟨hserves (by rw [awaited, hwas]) hover hcore hphase hawaited, hkept⟩
  | @looks n last hcore hphase hwas hover hwatcher =>
    have hserving := hphase.trans (h.serving (by simp [hwas]))
    have hawaited : d.follow.awaited = none := by rw [awaited, hserving, hwatcher]
    exact .inr ⟨hserves (h.awaited_of_reloading hwas) hover hcore hserving hawaited, hkept⟩

/-- A watcher begins with the digest of the store as it is when the daemon goes on to serve. -/
theorem begins (h : d.IsUp) (hphase : d.phase = .starting n) (hwatcher : (d.after .goOn).watcher ≠ .absent) :
    ∃ digest, (d.after .goOn).engine.fingerprint = .ok digest ∧ (d.after .goOn).watcher = .waiting digest := by
  rcases h.follow with hdown | ⟨-, hresumes⟩
  · exact absurd hdown.watcher hwatcher
  cases hresumes with
  | ends _ _ hdown => exact absurd hdown.watcher hwatcher
  | waits _ _ hsame _ => exact absurd (hsame.trans (h.alone n hphase)) hwatcher
  | serves _ _ _ _ hwatch => exact hwatch.resolve_left hwatcher
  | looks _ _ hwas _ _ => cases (h.alone n hphase).symm.trans hwas

/-- What an event of the scheduler does to a daemon that is up. -/
theorem afterEngine (h : d.IsUp) {e : Scheduler.Event} (he : (∃ a, e = .alarm a) ∨ e.isInbound = true) :
    ({ d with engine := d.engine.after e } : Daemon).IsUp ∧ Step d { d with engine := d.engine.after e } := by
  rcases h.attended.after he with ⟨hatt, hcounted, hopen⟩ | ⟨n, hn, hatt, hwas, hopen, hcounted⟩
  · exact ⟨h.congr rfl rfl hatt, .stays rfl rfl hcounted hopen⟩
  · have hatt' := hatt.of_calls_nil hatt.calls_eq_nil d.awaited
    exact ⟨h.congr rfl rfl hatt', .loads rfl rfl hn hcounted hwas hopen⟩

/-- What a look of the watcher does: with the digest that was seen last, or without one, nothing, and with another
one it asks for a reload. -/
theorem look (h : d.IsUp) (hwatcher : d.watcher = .waiting last) :
    d.inspect.IsUp ∧ d.inspect.engine.core.counted = d.engine.core.counted ∧
      ((∀ digest, d.engine.fingerprint = .ok digest → digest = last) ∧ d.inspect.phase = d.phase ∧
          d.inspect.watcher = d.watcher ∧ d.inspect.engine.core = d.engine.core ∧
          d.inspect.engine.fingerprint = d.engine.fingerprint ∨
        ∃ digest, d.engine.fingerprint = .ok digest ∧ digest ≠ last ∧
          d.inspect.watcher = .reloading d.engine.numbered digest ∧
          d.inspect.engine.core.IsOpen d.engine.numbered) := by
  cases hprint : d.engine.fingerprint with
  | error fault =>
    have hinspect : d.inspect = d.failLook last := by simp only [inspect, hwatcher, hprint]
    rw [hinspect]
    exact ⟨h.congr rfl hwatcher.symm h.attended, rfl, .inl ⟨by simp, rfl, hwatcher.symm, rfl, hprint⟩⟩
  | ok digest =>
    by_cases hsame : digest = last
    · have hinspect : d.inspect = d.writeStatus.waitForLook last := by
        simp only [inspect, hwatcher, hprint, hsame, beq_self_eq_true, if_true]
      rw [hinspect]
      refine ⟨h.congr rfl hwatcher.symm h.attended, rfl,
        .inl ⟨fun digest' heq => ?_, rfl, hwatcher.symm, rfl, hprint⟩⟩
      rw [← Except.ok.inj heq, hsame]
    · have hinspect : d.inspect = { d with
          engine := d.engine.reload.2, watcher := .reloading d.engine.reload.1 digest } := by
        simp only [inspect, hwatcher, hprint, beq_eq_false_iff_ne.mpr hsame, Bool.false_eq_true, if_false]
      have hserving := h.serving (by simp [hwatcher])
      obtain ⟨hnumber, hatt, hcounted, hopen⟩ := (h.awaited_of_waiting hwatcher ▸ h.attended).reload
      rw [hinspect, hnumber]
      refine ⟨⟨h.phase, fun n hn => (nomatch hserving.symm.trans hn), ?_⟩, hcounted,
        .inr ⟨digest, rfl, hsame, rfl, hopen⟩⟩
      simpa only [awaited, hserving] using hatt

/-- What leaves the core, but for the store, as it is keeps a daemon up. -/
theorem withEngine (h : d.IsUp) {engine : Scheduler} {kept : Store} (hkept : kept.IsKeyed)
    (hcore : engine.core = { d.engine.core with store := kept }) :
    ({ d with engine := engine } : Daemon).IsUp ∧ Step d { d with engine := engine } := by
  have hatt : engine.core.Attended d.awaited := by
    rw [hcore]
    exact { h.attended with sound := { h.attended.sound with keyed := hkept } }
  refine ⟨h.congr rfl rfl hatt, .stays rfl rfl ?_ fun n => ?_⟩
  · show engine.core.counted = _
    rw [hcore]
    rfl
  · show engine.core.IsOpen n ↔ _
    rw [hcore]
    exact Iff.rfl

/-- Telling a daemon that is up to end lets it down once its scheduler has started. -/
theorem requestStop (h : d.IsUp) : d.requestStop.IsDown ∨ d.requestStop.IsUp ∧ Step d d.requestStop := by
  have hup := h.phase
  rw [Daemon.requestStop]
  split
  · next hphase => simp [hphase, Phase.isUp] at hup
  · exact .inl (isDown_beginEnding _)
  · exact .inr (h.stays rfl rfl rfl)

/-- What an event does to a daemon that is up. -/
theorem after (h : d.IsUp) {e : Event} (he : e.Fits) :
    (d.after e).IsDown ∨ (d.after e).IsUp ∧ Step d (d.after e) := by
  cases e with
  | alarm a =>
    cases a with
    | inspection =>
      cases hwatcher : d.watcher with
      | waiting last =>
        obtain ⟨hup, hcounted, ⟨-, hphase, hwaits, hcore, -⟩ | ⟨digest, hprint, hnew, hreloading, hopen⟩⟩ :=
          h.look hwatcher
        · exact .inr ⟨hup, .stays hphase hwaits hcounted fun n => hcore ▸ Iff.rfl⟩
        · exact .inr ⟨hup, .sees hwatcher hprint hnew hreloading hcounted hopen⟩
      | _ =>
        have hinspect : d.inspect = d := by simp only [inspect, hwatcher]
        rw [Daemon.after, handle, hinspect]
        exact .inr (h.stays rfl rfl rfl)
    | shutdown =>
      have hcut : d.cutOff = d := by
        rw [cutOff]
        split
        · next hphase => simpa [hphase, Phase.isUp] using h.phase
        · rfl
      rw [Daemon.after, handle, hcut]
      exact .inr (h.stays rfl rfl rfl)
    | signal => exact h.requestStop
    | _ => exact .inr (h.afterEngine (.inl ⟨_, rfl⟩))
  | goOn => exact h.follow.imp id fun ⟨hup, hresumes⟩ => ⟨hup, .goesOn hresumes⟩
  | told => exact h.requestStop
  | inbound e => exact .inr (h.afterEngine (.inr he))
  | store kept => exact .inr (h.withEngine he rfl)
  | scene scene => exact .inr (h.withEngine h.attended.sound.keyed rfl)
  | machine m => exact .inr (h.stays rfl rfl rfl)

end IsUp

/-- A daemon that ends or has ended stays so. -/
theorem IsDown.after (h : d.IsDown) (e : Event) : (d.after e).IsDown := by
  have hstop : d.requestStop.IsDown := by
    rw [requestStop]
    split
    · exact h
    · next hphase => simpa [hphase, Phase.isUp] using h.phase
    · exact ⟨h.phase, h.watcher⟩
  cases e with
  | alarm a =>
    cases a with
    | inspection =>
      have hinspect : d.inspect = d := by simp only [inspect, h.watcher]
      rw [Daemon.after, handle, hinspect]
      exact h
    | shutdown =>
      rw [Daemon.after, handle, cutOff]
      split
      · exact ⟨rfl, h.watcher⟩
      · exact h
    | signal => exact hstop
    | _ => exact ⟨h.phase, h.watcher⟩
  | goOn => exact h.follow
  | told => exact hstop
  | _ => exact ⟨h.phase, h.watcher⟩

/-! ## The start -/

/-- A daemon that does not run, nor does another one in its place. -/
structure CanStart (d : Daemon) : Prop where
  isDown : d.IsDown
  isFree : d.check.1 = false
  keyed : d.engine.store.IsKeyed

theorem engine_check (d : Daemon) : d.check.2.engine = d.engine ∧ d.check.2.watcher = d.watcher := by
  rw [check]
  split
  · exact ⟨rfl, rfl⟩
  · split <;> exact ⟨rfl, rfl⟩

theorem attended_build (c : Config) {e : Scheduler} (h : e.store.IsKeyed) (subscriber : Option String) :
    (build c e subscriber).core.Attended none :=
  { sound :=
      { keyed := h
        loopNumbers := List.nodup_nil
        loops_lt := by simp [build, Scheduler.core]
        callNumbers := List.nodup_nil
        calls_lt := by simp [build, Scheduler.core]
        runNumbers := List.nodup_nil
        runs_lt := by simp [build, Scheduler.core]
        scenarios := List.nodup_nil
        current := by simp [build, Scheduler.core]
        told := by simp [build, Scheduler.core]
        loaded := by simp [build, Scheduler.core]
        inside := by simp [build, Scheduler.core]
        kinds := by simp [build, Scheduler.core]
        quiet := by simp [build, Scheduler.core]
        settled := by simp [build, Scheduler.core] }
    calls := by simp [build, Scheduler.core]
    failed_lt := by simp [build, Scheduler.core]
    unfailed := by simp [build, Scheduler.core] }

/-- A daemon that starts asks a scheduler for a load of which nothing was asked before. -/
theorem CanStart.asks (h : d.CanStart) : ∃ (s : Scheduler) (v : Daemon), s.core.Attended none ∧
    s.core.counted = [] ∧ v.phase = .starting s.reload.1 ∧ v.watcher = .absent ∧ v.engine = s.reload.2 ∧
    d.start = v.follow := by
  obtain ⟨hengine, hwatcher⟩ := engine_check d
  obtain ⟨d₁, hcheck⟩ : ∃ d₁, d.check = (false, d₁) := ⟨d.check.2, Prod.ext h.isFree rfl⟩
  rw [hcheck] at hengine hwatcher
  have hkeyed : d₁.engine.store.IsKeyed := by
    rw [show d₁.engine = d.engine from hengine]
    exact h.keyed
  generalize hd₂ : ({ d₁ with isRunning := true, isTold := false, startTime := some d₁.engine.now
                              outcomes := d₁.outcomes ++ [none] } : Daemon).writePid = d₂
  have hengine₂ : d₂.engine = d₁.engine := by rw [← hd₂]; rfl
  have hwatcher₂ : d₂.watcher = .absent := by rw [← hd₂]; exact hwatcher.trans h.isDown.watcher
  obtain ⟨s, hs⟩ : ∃ s, s =
      ({ build d₂.config d₂.engine (some ownName) with isRunning := true } : Scheduler).subscribe.startHook :=
    ⟨_, rfl⟩
  have hcore : s.core = (build d₂.config d₂.engine (some ownName)).core := by
    rw [hs, Scheduler.core_startHook, Scheduler.core_subscribe]
    rfl
  refine ⟨s, { d₂ with engine := s.reload.2, isBuilt := true, phase := .starting s.reload.1 }, ?_, ?_, rfl,
    hwatcher₂, rfl, ?_⟩
  · rw [hcore]
    exact attended_build _ (hengine₂ ▸ hkeyed) _
  · rw [hcore]
    rfl
  · rw [Daemon.start, hcheck]
    dsimp only
    rw [hd₂, hs]
    rfl

/-- A daemon that starts has loaded nothing. -/
theorem CanStart.start (h : d.CanStart) :
    d.start.IsDown ∨ d.start.IsUp ∧ d.start.engine.core.counted = [] ∧
      (d.start.watcher = .absent ∨
        ∃ digest, d.start.engine.fingerprint = .ok digest ∧ d.start.watcher = .waiting digest) := by
  obtain ⟨s, v, hatt, hcounted, hphase, hwatcher, hengine, hstart⟩ := h.asks
  obtain ⟨hnumber, hatt', hcounted', -⟩ := hatt.reload
  have hup : v.IsUp :=
    { phase := by rw [hphase]; rfl
      alone := fun _ _ => hwatcher
      attended := by
        rw [awaited, hphase, hnumber, hengine]
        exact hatt' }
  have hloaded : v.engine.core.counted = [] := by rw [hengine, hcounted', hcounted]
  rw [hstart]
  refine hup.follow.imp id fun ⟨hup', hresumes⟩ => ⟨hup', ?_⟩
  cases hresumes with
  | ends _ _ hdown => exact absurd hup' hdown.not_isUp
  | waits hcore _ hwatcher' _ => exact ⟨by rw [hcore, hloaded], .inl (hwatcher'.trans hwatcher)⟩
  | serves hcore _ _ _ hwatch => exact ⟨by rw [hcore, hloaded], hwatch⟩
  | looks _ _ hwas _ _ => cases hwatcher.symm.trans hwas

end Daemon

end Deskhand
