import Deskhand.Daemon.Service
import Deskhand.Proofs.Schedule.Attended

/-!
# Histories of a daemon

An `Event` is one step of a daemon or of what lies around it: an alarm rings, the daemon goes on with what has
become possible (`Event.goOn`), it is told to end, something comes to its scheduler from outside, the store is
changed by someone else, or the clock, the outages of the store or the files change (`Event.scene`,
`Event.machine`). Anything may happen between an alarm and what the daemon does next, and an alarm may ring at any
time, so that the histories contain every order in which the steps of the daemon and changes of the store can
come. Main statements:

* `leads_advance`, `leads_serveOut`: letting time pass is a history.
-/

namespace Deskhand

namespace Daemon

/-- What happens to a daemon. -/
inductive Event where
  | alarm (a : Alarm)
  /-- It hears of runs, and goes on with what waited for the scheduler. -/
  | goOn
  | told
  | inbound (e : Scheduler.Event)
  /-- Someone else changes the store. -/
  | store (kept : Store)
  /-- What lies around the scheduler changes. -/
  | scene (scene : Scheduler)
  | machine (m : Machine)

/-- An event that can happen. -/
def Event.Fits : Event → Prop
  | .inbound e => e.isInbound = true
  | .store kept => kept.IsKeyed
  | _ => True

/-- The daemon after an event. -/
def after (d : Daemon) : Event → Daemon
  | .alarm a => d.handle a
  | .goOn => d.follow
  | .told => d.requestStop
  | .inbound e => { d with engine := d.engine.after e }
  | .store kept => { d with engine := { d.engine with store := kept } }
  | .scene scene => { d with engine := d.engine.inScene scene }
  | .machine m => { d with machine := m }

/-- The daemon after several events. -/
def afterAll (d : Daemon) (events : List Event) : Daemon :=
  events.foldl after d

theorem afterAll_snoc (d : Daemon) (events : List Event) (e : Event) :
    d.afterAll (events ++ [e]) = (d.afterAll events).after e := by
  rw [afterAll, List.foldl_append]
  rfl

/-- Events lead from one state to another. -/
def Leads (d u : Daemon) : Prop :=
  ∃ events : List Event, (∀ e ∈ events, e.Fits) ∧ d.afterAll events = u

theorem Leads.refl (d : Daemon) : Leads d d :=
  ⟨[], by simp, rfl⟩

theorem Leads.of_after {d : Daemon} {e : Event} (h : e.Fits) : Leads d (d.after e) :=
  ⟨[e], by simpa using h, rfl⟩

theorem Leads.trans {d u v : Daemon} (hdu : Leads d u) (huv : Leads u v) : Leads d v := by
  obtain ⟨es, hes, rfl⟩ := hdu
  obtain ⟨fs, hfs, rfl⟩ := huv
  refine ⟨es ++ fs, fun e he => ?_, List.foldl_append⟩
  exact (List.mem_append.mp he).elim (hes e) (hfs e)

/-! ## The passing of time -/

theorem leads_setElapsed (d : Daemon) (t : Float) : Leads d { d with engine := d.engine.setElapsed t } :=
  Leads.of_after (e := .scene (d.engine.setElapsed t)) trivial

theorem leads_nextAlarm? {d : Daemon} {engine : Scheduler} {limit : Float} {a : Alarm}
    (h : d.engine.nextAlarm? limit = some (a, engine)) : Leads d ({ d with engine := engine }.ring a) := by
  simp only [Scheduler.nextAlarm?, Option.map_eq_some_iff, Prod.mk.injEq] at h
  obtain ⟨⟨a', instant, agenda⟩, -, rfl, rfl⟩ := h
  have hscene : Leads d { d with engine := { d.engine with agenda := agenda }.setElapsed instant } :=
    Leads.of_after (e := .scene ({ d.engine with agenda := agenda }.setElapsed instant)) trivial
  exact (hscene.trans (.of_after (e := .alarm a') trivial)).trans (.of_after (e := .goOn) trivial)

theorem leads_advanceTo (fuel : Nat) (d : Daemon) (target : Float) : Leads d (advanceTo fuel d target) := by
  induction fuel generalizing d with
  | zero => exact leads_setElapsed d target
  | succ fuel ih =>
    rw [advanceTo]
    split
    · exact leads_setElapsed d target
    · next hnext => exact (leads_nextAlarm? hnext).trans (ih _)

/-- Letting some seconds pass is a history. -/
theorem leads_advance (d : Daemon) (seconds : Float) : Leads d (d.advance seconds) :=
  leads_advanceTo Scheduler.alarmLimit d _

/-- Serving until the daemon has ended is a history. -/
theorem leads_serveOut (fuel : Nat) (d : Daemon) : Leads d (serveOut fuel d) := by
  induction fuel generalizing d with
  | zero => exact .refl d
  | succ fuel ih =>
    rw [serveOut]
    split
    · exact .refl d
    · split
      · exact .refl d
      · next hnext => exact (leads_nextAlarm? hnext).trans (ih _)

end Daemon

end Deskhand
