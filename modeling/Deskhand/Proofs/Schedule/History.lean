import Deskhand.Proofs.Schedule.Core

/-!
# Histories of a scheduler

An `Event` is one thing that happens to a scheduler: it is asked for something, an alarm rings, a key or a
message comes, the store is changed by someone else, or what lies around it changes (`Event.scene`: the clock,
the desk, the chat, the alarms that are set, the store's outages). An alarm may ring at any time here, so the
histories contain every order in which the agenda lets alarms ring, and more. No event gives a call up where
it stands.

`Leads` says that events lead from one state to another, `Reachable` that they do so from a new scheduler. Main
statements:

* `Leads.trans`, `Reachable.leads`: histories go on;
* `leads_advance`, `leads_awaitCall`, `leads_awaitRun`: letting time pass is a history.
-/

namespace Deskhand

namespace Scheduler

/-- A scheduler in other surroundings and with other alarms. -/
def inScene (s scene : Scheduler) : Scheduler :=
  { s with
    times := scene.times, outage := scene.outage, around := scene.around, hook := scene.hook
    hookFails := scene.hookFails, board := scene.board, inbound := scene.inbound, jitter := scene.jitter
    agenda := scene.agenda, announced := scene.announced }

/-- What happens to a scheduler. -/
inductive Event where
  | start
  | reload
  | stop
  | alarm (a : Alarm)
  | run (id : String)
  | hotkey (key modifiers : String)
  | press (k : KeyPress) (injected : Bool)
  | release (k : KeyPress)
  | command (text : String)
  | message (text : String) (chat : Int)
  | paired (chat : Int)
  | report (directory : String) (r : ChangeReport)
  /-- Someone else changes the store. -/
  | store (kept : Store)
  /-- What lies around the scheduler changes. -/
  | scene (scene : Scheduler)

/-- An event that can happen: a store never has two rows with one id. -/
def Event.Fits : Event → Prop
  | .store kept => kept.IsKeyed
  | _ => True

/-- The scheduler after an event. -/
def after (s : Scheduler) : Event → Scheduler
  | .start => s.start.2
  | .reload => s.reload.2
  | .stop => s.stop.2
  | .alarm a => s.ring a
  | .run id => (s.runById id).2
  | .hotkey key modifiers => (s.onHotkey key modifiers).2
  | .press k injected => s.onPress k injected
  | .release k => s.onRelease k
  | .command text => (s.onCommand text).2
  | .message text chat => (s.onMessage text chat).2
  | .paired chat => s.onPaired chat
  | .report directory r => (s.onReport directory r).2
  | .store kept => { s with store := kept }
  | .scene scene => s.inScene scene

/-- The scheduler after several events. -/
def afterAll (s : Scheduler) (events : List Event) : Scheduler :=
  events.foldl after s

@[simp] theorem afterAll_nil (s : Scheduler) : s.afterAll [] = s := rfl

@[simp] theorem afterAll_cons (s : Scheduler) (e : Event) (events : List Event) :
    s.afterAll (e :: events) = (s.after e).afterAll events := rfl

theorem afterAll_append (s : Scheduler) (es fs : List Event) :
    s.afterAll (es ++ fs) = (s.afterAll es).afterAll fs :=
  List.foldl_append

/-- A scheduler of which nothing was asked yet. -/
structure IsNew (s : Scheduler) : Prop where
  core : s.core = { store := s.store }
  keyed : s.store.IsKeyed
  isRunning : s.isRunning = false
  token : s.token = ""
  pairingCode : s.pairingCode = ""

/-- A new scheduler over some rows, with a bot or without one, when the clock starts. -/
def ofRows (rows : List Row) (bot : Option ChatBot) : Scheduler :=
  { times := {}, store := { rows := rows }
    around := { clock := ⟨Clock.start, 0.0⟩, chat := bot.map ChatService.bot } }

theorem isNew_ofRows {rows : List Row} (h : (rows.map Row.id).Nodup) (bot : Option ChatBot) :
    IsNew (ofRows rows bot) :=
  ⟨rfl, h, rfl, rfl, rfl⟩

/-- Events lead from one state to another. -/
def Leads (s t : Scheduler) : Prop :=
  ∃ events : List Event, (∀ e ∈ events, e.Fits) ∧ s.afterAll events = t

/-- A state that a new scheduler can come to. -/
def Reachable (s : Scheduler) : Prop :=
  ∃ new, IsNew new ∧ Leads new s

theorem Leads.refl (s : Scheduler) : Leads s s :=
  ⟨[], by simp, rfl⟩

theorem Leads.of_after {s : Scheduler} {e : Event} (h : e.Fits) : Leads s (s.after e) :=
  ⟨[e], by simpa using h, rfl⟩

theorem Leads.trans {s t u : Scheduler} (hst : Leads s t) (htu : Leads t u) : Leads s u := by
  obtain ⟨es, hes, rfl⟩ := hst
  obtain ⟨fs, hfs, rfl⟩ := htu
  refine ⟨es ++ fs, fun e he => ?_, afterAll_append s es fs⟩
  exact (List.mem_append.mp he).elim (hes e) (hfs e)

/-- What holds at the start and is kept by every event holds wherever events lead to. -/
theorem Leads.induction {P : Scheduler → Prop} {s t : Scheduler} (h : Leads s t) (hs : P s)
    (hstep : ∀ u e, e.Fits → P u → P (u.after e)) : P t := by
  obtain ⟨es, hes, rfl⟩ := h
  induction es generalizing s with
  | nil => exact hs
  | cons e rest ih =>
    have he := hes e List.mem_cons_self
    exact ih (hstep s e he hs) fun e' he' => hes e' (List.mem_cons_of_mem _ he')

theorem IsNew.reachable {s : Scheduler} (h : IsNew s) : Reachable s :=
  ⟨s, h, .refl s⟩

theorem Reachable.leads {s t : Scheduler} (hs : Reachable s) (h : Leads s t) : Reachable t := by
  obtain ⟨new, hnew, hl⟩ := hs
  exact ⟨new, hnew, hl.trans h⟩

theorem Reachable.after {s : Scheduler} (hs : Reachable s) {e : Event} (he : e.Fits) :
    Reachable (s.after e) :=
  hs.leads (.of_after he)

/-! ## The passing of time -/

theorem leads_inScene (s scene : Scheduler) : Leads s (s.inScene scene) :=
  Leads.of_after (e := .scene scene) trivial

theorem leads_ring (s : Scheduler) (a : Alarm) : Leads s (s.ring a) :=
  Leads.of_after (e := .alarm a) trivial

theorem leads_setElapsed (s : Scheduler) (t : Float) : Leads s (s.setElapsed t) :=
  leads_inScene s (s.setElapsed t)

theorem leads_nextAlarm? {s t : Scheduler} {limit : Float} {a : Alarm}
    (h : s.nextAlarm? limit = some (a, t)) : Leads s t := by
  simp only [nextAlarm?, Option.map_eq_some_iff, Prod.mk.injEq] at h
  obtain ⟨⟨a', instant, agenda⟩, -, -, rfl⟩ := h
  exact leads_inScene s ({ s with agenda := agenda }.setElapsed instant)

/-- What every alarm that rings next keeps, and setting the time, holds when time has passed. -/
theorem advanceTo_induction {P : Scheduler → Prop} {target : Float}
    (hring : ∀ {s t limit a}, s.nextAlarm? limit = some (a, t) → P s → P (t.ring a))
    (htime : ∀ s, P s → P (s.setElapsed target)) (fuel : Nat) {s : Scheduler} (hs : P s) :
    P (advanceTo fuel s target) := by
  induction fuel generalizing s with
  | zero => exact htime s hs
  | succ fuel ih =>
    rw [advanceTo]
    split
    · exact htime s hs
    · next hnext => exact ih (hring hnext hs)

/-- What every alarm that rings next keeps holds when something is over. -/
theorem untilOver_induction {P : Scheduler → Prop}
    (hring : ∀ {s t limit a}, s.nextAlarm? limit = some (a, t) → P s → P (t.ring a))
    (isOver : Scheduler → Bool) (fuel : Nat) {s : Scheduler} (hs : P s) : P (untilOver isOver fuel s) := by
  induction fuel generalizing s with
  | zero => exact hs
  | succ fuel ih =>
    rw [untilOver]
    split
    · exact hs
    · split
      · exact hs
      · next hnext => exact ih (hring hnext hs)

theorem Leads.ring {s t u : Scheduler} {limit : Float} {a : Alarm} (hnext : t.nextAlarm? limit = some (a, u))
    (h : Leads s t) : Leads s (u.ring a) :=
  h.trans ((leads_nextAlarm? hnext).trans (leads_ring u a))

theorem leads_advanceTo (fuel : Nat) (s : Scheduler) (target : Float) :
    Leads s (advanceTo fuel s target) :=
  advanceTo_induction Leads.ring (fun t h => h.trans (leads_setElapsed t target)) fuel (.refl s)

theorem leads_untilOver (isOver : Scheduler → Bool) (fuel : Nat) (s : Scheduler) :
    Leads s (untilOver isOver fuel s) :=
  untilOver_induction Leads.ring isOver fuel (.refl s)

/-- Letting some seconds pass is a history. -/
theorem leads_advance (s : Scheduler) (seconds : Float) : Leads s (s.advance seconds) :=
  leads_advanceTo alarmLimit s _

/-- Waiting for a call is a history. -/
theorem leads_awaitCall (s : Scheduler) (n : Nat) : Leads s (s.awaitCall n) :=
  leads_untilOver _ alarmLimit s

/-- Waiting for a run is a history. -/
theorem leads_awaitRun (s : Scheduler) (n : Nat) : Leads s (s.awaitRun n).2 :=
  leads_untilOver (fun s => s.runs.all (·.number != n)) alarmLimit s

end Scheduler

end Deskhand
