import Deskhand.Proofs.Schedule.SingleRun

/-!
# When loops are woken

For each loop the agenda holds the times at which it is to take a turn (`Agenda.dues`). Alarms are told apart by their
place, so that the one that rings is the only one that is taken out. Runs, keys, messages and most stages of calls leave
the times of a loop, and whether it may run, as they are (`Leaves`). A call that ends what was loaded tells the loops to
end, which wakes them at once (`MayTell`). Main statements:

* `Agenda.dues_without`: what becomes of the times when an alarm rings;
* `leaves_wakeRun`, `leaves_onMessage`, `leaves_followClearing`: what leaves a loop waiting;
* `dues_clear`: loops that are told to end are woken at once;
* `mayTell_start`, `mayTell_stop`, `mayTell_wakeCall`: what calls do about loops.
-/

namespace Deskhand

namespace Agenda

/-! ## The times of a loop -/

/-- The times for which turns of a loop are set. -/
def dues (a : Agenda) (n : Nat) : List Float :=
  (a.appointments.filter (·.alarm == .loop n)).map Appointment.due

/-- Alarms are told apart by their place. -/
structure Numbered (a : Agenda) : Prop where
  nodup : (a.appointments.map Appointment.order).Nodup
  lt : ∀ p ∈ a.appointments, p.order < a.made

variable {a b : Agenda} {n : Nat}

theorem Numbered.set (h : a.Numbered) (due : Float) (rank : Rank) (alarm : Alarm) :
    (a.set due rank alarm).Numbered where
  nodup := by
    rw [Agenda.set, List.map_append, List.map_singleton, List.nodup_append']
    refine ⟨h.nodup, List.nodup_singleton _, fun order horder hnew => ?_⟩
    obtain ⟨p, hp, rfl⟩ := List.mem_map.mp horder
    exact absurd (List.mem_singleton.mp hnew) (Nat.ne_of_lt (h.lt p hp))
  lt p hp := by
    rcases List.mem_append.mp hp with hp | hp
    · exact Nat.lt_succ_of_lt (h.lt p hp)
    · rw [List.mem_singleton.mp hp]
      exact Nat.lt_succ_self _

theorem Numbered.filter (h : a.Numbered) (stays : Appointment → Bool) :
    Numbered { a with appointments := a.appointments.filter stays } where
  nodup := h.nodup.sublist (List.filter_sublist.map _)
  lt p hp := h.lt p (List.mem_of_mem_filter hp)

theorem dues_set (a : Agenda) (due : Float) (rank : Rank) (alarm : Alarm) (n : Nat) :
    (a.set due rank alarm).dues n = a.dues n ++ if alarm = .loop n then [due] else [] := by
  by_cases halarm : alarm = .loop n <;> simp [dues, Agenda.set, halarm]

theorem dues_keep {isWanted : Alarm → Bool} (h : isWanted (.loop n) = true) : (a.keep isWanted).dues n = a.dues n := by
  rw [dues, keep, List.filter_filter, dues]
  refine congrArg _ (List.filter_congr fun p _ => ?_)
  by_cases hp : p.alarm = .loop n <;> simp [hp, h]

/-- An alarm that is taken out takes no other one with it. If it is a turn of a loop, then its time was one of those of
the loop, and the others stay. -/
theorem dues_without (ha : a.Numbered) {p : Appointment} (hp : p ∈ a.appointments) (n : Nat) :
    (p.alarm ≠ .loop n → (a.without p.order).dues n = a.dues n) ∧
      (p.alarm = .loop n → ∃ front back, a.dues n = front ++ p.due :: back ∧
        (a.without p.order).dues n = front ++ back) := by
  obtain ⟨front, back, hsplit⟩ := List.append_of_mem hp
  have hnodup := ha.nodup
  rw [hsplit, List.map_append, List.map_cons, List.nodup_middle, List.nodup_cons, List.mem_append, not_or] at hnodup
  have hstay : ∀ l : List Appointment, p.order ∉ l.map Appointment.order →
      l.filter (fun q => q.order != p.order) = l := fun l hl =>
    List.filter_eq_self.mpr fun q hq => bne_iff_ne.mpr fun heq => hl (heq ▸ List.mem_map_of_mem hq)
  -- no other alarm has its place
  have hrest : (a.without p.order).appointments = front ++ back := by
    rw [without, hsplit, List.filter_append, List.filter_cons_of_neg (by simp), hstay front hnodup.1.1,
      hstay back hnodup.1.2]
  refine ⟨fun hother => ?_, fun hloop => ?_⟩
  · rw [dues, hrest, dues, hsplit, List.filter_append, List.filter_append,
      List.filter_cons_of_neg (by simpa using hother)]
  · refine ⟨(front.filter (·.alarm == .loop n)).map Appointment.due,
      (back.filter (·.alarm == .loop n)).map Appointment.due, ?_, ?_⟩
    · rw [dues, hsplit, List.filter_append, List.filter_cons_of_pos (by simpa using hloop), List.map_append,
        List.map_cons]
    · rw [dues, hrest, List.filter_append, List.map_append]

end Agenda

namespace Scheduler

/-- The times for which turns of a loop are set. -/
def dues (s : Scheduler) (n : Nat) : List Float :=
  s.agenda.dues n

/-! ## What leaves a loop waiting -/

/-- Two agendas have the same times of a loop. -/
structure KeepsDues (n : Nat) (a b : Agenda) : Prop where
  numbered : a.Numbered → b.Numbered
  dues : b.dues n = a.dues n

/-- What is done leaves a loop waiting as it was, or drops it: its times are the same, and so is the generation that may
run. -/
structure Leaves (n : Nat) (s t : Scheduler) : Prop where
  agenda : KeepsDues n s.agenda t.agenda
  loops : ∀ l ∈ t.loops, ∃ old ∈ s.loops, old.badge = l.badge
  generation : t.generation = s.generation
  numbered : s.numbered ≤ t.numbered

variable {n : Nat} {s t u : Scheduler}

theorem KeepsDues.refl (a : Agenda) : KeepsDues n a a :=
  ⟨id, rfl⟩

theorem KeepsDues.set (a : Agenda) (due : Float) (rank : Rank) {alarm : Alarm} (h : alarm ≠ .loop n) :
    KeepsDues n a (a.set due rank alarm) :=
  ⟨fun ha => ha.set due rank alarm, by rw [Agenda.dues_set, if_neg h, List.append_nil]⟩

theorem KeepsDues.keep (a : Agenda) {isWanted : Alarm → Bool} (h : isWanted (.loop n) = true) :
    KeepsDues n a (a.keep isWanted) :=
  ⟨fun ha => ha.filter _, Agenda.dues_keep h⟩

namespace Leaves

theorem of_core (hcore : t.core = s.core) (hagenda : KeepsDues n s.agenda t.agenda) : Leaves n s t where
  agenda := hagenda
  loops l hl := by
    have hloops : t.loops = s.loops := congrArg Core.loops hcore
    exact ⟨l, hloops ▸ hl, rfl⟩
  generation := congrArg Core.generation hcore
  numbered := Nat.le_of_eq (congrArg Core.numbered hcore).symm

theorem refl (s : Scheduler) : Leaves n s s :=
  of_core rfl (.refl _)

theorem trans (h : Leaves n s t) (h' : Leaves n t u) : Leaves n s u where
  agenda := ⟨h'.agenda.numbered ∘ h.agenda.numbered, h'.agenda.dues.trans h.agenda.dues⟩
  loops l hl := by
    obtain ⟨old, hold, hbadge⟩ := h'.loops l hl
    obtain ⟨older, holder, hbadge'⟩ := h.loops old hold
    exact ⟨older, holder, hbadge'.trans hbadge⟩
  generation := h'.generation.trans h.generation
  numbered := Nat.le_trans h.numbered h'.numbered

theorem foldl {α : Type} {step : Scheduler → α → Scheduler} (h : ∀ s a, Leaves n s (step s a)) (items : List α)
    (s : Scheduler) : Leaves n s (items.foldl step s) := by
  induction items generalizing s with
  | nil => exact refl s
  | cons a rest ih => exact (h s a).trans (ih _)

/-- What keeps the agenda, the generation and the badges of the loops, and gives out no number again. -/
theorem of_eq (hagenda : t.agenda = s.agenda) (hloops : t.loops = s.loops) (hgeneration : t.generation = s.generation)
    (hnumbered : s.numbered ≤ t.numbered) : Leaves n s t :=
  ⟨hagenda ▸ .refl _, fun l hl => ⟨l, hloops ▸ hl, rfl⟩, hgeneration, hnumbered⟩

/-- An alarm for something else is set. -/
theorem appoint (h : Leaves n s t) (seconds : Float) (rank : Rank) {alarm : Alarm} (halarm : alarm ≠ .loop n) :
    Leaves n s (t.appoint seconds rank alarm) :=
  h.trans (of_core rfl (.set _ _ _ halarm))

end Leaves

/-! ### Reports and the bot -/

theorem leaves_around (s : Scheduler) (around : Surroundings) : Leaves n s { s with around := around } :=
  .of_core rfl (.refl _)

theorem leaves_report (s : Scheduler) (level : LogLevel) (message : String) : Leaves n s (s.report level message) :=
  leaves_around s _

theorem leaves_reportBuild (s : Scheduler) (built : Bool) : Leaves n s (s.reportBuild built) := by
  rw [reportBuild]
  split
  · exact .refl s
  · exact leaves_around s _

theorem leaves_startPolling (s : Scheduler) (b : ChatBot) : Leaves n s (s.startPolling b) := by
  have hexpect : ∀ s : Scheduler, Leaves n s s.expectMessages := fun s =>
    .foldl (fun s _ => (Leaves.refl s).appoint _ _ (by simp)) s.inbound s
  rcases startPolling_cases s b with h | h | ⟨_, h⟩ <;> rw [h]
  · exact leaves_around s _
  · exact (leaves_around s _).trans (hexpect _)
  · exact leaves_around s _

theorem leaves_connect (s : Scheduler) (settings : Settings) : Leaves n s (s.connect settings) := by
  rcases connect_cases s settings with ⟨h, -⟩ | ⟨b, built, b', -, -, h⟩ <;> rw [h]
  · exact .refl s
  · refine Leaves.trans (t := { s with around := s.around.setBot b', connections := s.connections + 1 })
      (.of_eq rfl rfl rfl (Nat.le_refl _)) ?_
    cases built with
    | false => exact leaves_reportBuild _ false
    | true => exact leaves_startPolling _ b'

theorem leaves_bindChat (s : Scheduler) (settings : Settings) : Leaves n s (s.bindChat settings) := by
  rcases bindChat_cases s settings with ⟨h, -⟩ | ⟨_, -, -, h⟩ <;> rw [h]
  · exact .refl s
  · exact leaves_around s _

theorem leaves_followCode (s : Scheduler) (settings : Settings) : Leaves n s (s.followCode settings).2 := by
  rcases followCode_cases s settings with ⟨h, -⟩ | ⟨-, h⟩ | ⟨_, -, -, -, -, h⟩ <;> rw [h]
  · exact .refl s
  all_goals exact .of_eq rfl rfl rfl (Nat.le_refl _)

theorem leaves_publishMenu (s : Scheduler) : Leaves n s s.publishMenu := by
  rcases publishMenu_cases s with h | ⟨_, -, h⟩ <;> rw [h]
  · exact .refl s
  · exact leaves_around s _

theorem leaves_subscribe (s : Scheduler) : Leaves n s s.subscribe := by
  rw [subscribe]
  split <;> exact .of_eq rfl rfl rfl (Nat.le_refl _)

theorem leaves_startHook (s : Scheduler) : Leaves n s s.startHook := by
  rw [startHook]
  repeat' split
  all_goals exact .of_eq rfl rfl rfl (Nat.le_refl _)

/-! ### Runs -/

theorem leaves_spawn (s : Scheduler) (scenario : Scenario) (load : Option Nat) (bindings : List (String × Value)) :
    Leaves n s (s.spawn scenario load bindings).2 := by
  rw [spawn, draw]
  refine Leaves.appoint ?_ _ _ (by simp)
  exact .of_eq rfl rfl rfl (Nat.le_succ _)

theorem leaves_spawnLoaded (s : Scheduler) (id : String) (bindings : List (String × Value)) :
    Leaves n s (s.spawnLoaded id bindings) := by
  rw [spawnLoaded]
  split
  · exact leaves_spawn s _ _ _
  · exact .refl s

theorem leaves_startAll (s : Scheduler) (ids : List String) : Leaves n s (s.startAll ids) :=
  .foldl (fun s id => leaves_spawnLoaded s id []) ids s

theorem leaves_runById (s : Scheduler) (id : String) : Leaves n s (s.runById id).2 := by
  rw [runById]
  split
  · exact leaves_spawn s _ _ _
  · split
    · exact .refl s
    · exact leaves_report s _ _
    · exact leaves_spawn s _ _ _

theorem leaves_noteInStore (s : Scheduler) (scenario : Scenario) (time : Instant) :
    Leaves n s (s.noteInStore scenario time) := by
  rw [noteInStore]
  split
  · exact leaves_report s _ _
  · exact leaves_report s _ _
  · exact .of_eq rfl rfl rfl (Nat.le_refl _)

theorem leaves_conclude (s : Scheduler) (run : Run) : Leaves n s (s.conclude run) := by
  have hnote : Leaves n s (s.noteLoaded run s.now) := by
    rw [noteLoaded]
    split <;> exact .of_eq rfl rfl rfl (Nat.le_refl _)
  rw [conclude]
  exact (hnote.trans (leaves_noteInStore _ _ _)).trans (.of_eq rfl rfl rfl (Nat.le_refl _))

theorem leaves_proceed (s : Scheduler) (run : Run) (state : RunState) : Leaves n s (s.proceed run state) := by
  cases state with
  | ended success =>
    cases success with
    | false => exact .of_eq rfl rfl rfl (Nat.le_refl _)
    | true => exact leaves_conclude s run
  | waiting seconds rest =>
    rw [proceed]
    refine Leaves.appoint ?_ _ _ (by simp)
    exact .of_eq rfl rfl rfl (Nat.le_refl _)

theorem leaves_wakeRun (s : Scheduler) (m : Nat) : Leaves n s (s.wakeRun m) := by
  rw [wakeRun]
  split
  · exact .refl s
  · split
    · exact (leaves_around s _).trans (leaves_proceed _ _ _)
    · split
      · exact (leaves_around s _).trans (leaves_proceed _ _ _)
      · exact .of_eq rfl rfl rfl (Nat.le_refl _)

/-! ### Keys, messages and files -/

theorem leaves_onPress (s : Scheduler) (k : KeyPress) (injected : Bool) : Leaves n s (s.onPress k injected) := by
  rw [onPress]
  split
  · exact .refl s
  · dsimp only
    split
    · next c _ =>
      refine Leaves.trans ?_ (leaves_startAll { s with hook := _ } _)
      exact .of_eq rfl rfl rfl (Nat.le_refl _)
    · exact .of_eq rfl rfl rfl (Nat.le_refl _)

theorem leaves_onRelease (s : Scheduler) (k : KeyPress) : Leaves n s (s.onRelease k) := by
  rw [onRelease]
  split <;> exact .of_eq rfl rfl rfl (Nat.le_refl _)

theorem leaves_onPaired (s : Scheduler) (chat : Int) : Leaves n s (s.onPaired chat) := by
  rcases onPaired_cases s chat with ⟨_, h⟩ | ⟨_, h⟩ <;> rw [h]
  · exact .of_eq rfl rfl rfl (Nat.le_refl _)
  · exact leaves_report s _ _

theorem leaves_take (s : Scheduler) (d : Delivery) : Leaves n s (s.take d) := by
  rcases take_cases s d with h | ⟨_, h⟩ | ⟨chat, h⟩ <;> rw [h]
  · exact .refl s
  · exact leaves_startAll s _
  · exact leaves_onPaired s chat

theorem leaves_onMessage (s : Scheduler) (text : String) (chat : Int) : Leaves n s (s.onMessage text chat).2 := by
  rcases onMessage_cases s text chat with h | ⟨_, around, -, -, h⟩ <;> rw [h]
  · exact .refl s
  · exact (leaves_around s around).trans (.foldl leaves_take _ _)

theorem leaves_onFetched (s : Scheduler) (connection : Nat) (text : String) (chat : Int) :
    Leaves n s (s.onFetched connection text chat) := by
  rcases onFetched_cases s connection text chat with h | h <;> rw [h]
  · exact .refl s
  · exact leaves_onMessage s text chat

theorem leaves_onReport (s : Scheduler) (directory : String) (r : ChangeReport) :
    Leaves n s (s.onReport directory r).2 where
  agenda := .refl _
  loops _ hl := List.mem_map.mp (s.badges_onReport directory r ▸ List.mem_map_of_mem hl)
  generation := rfl
  numbered := Nat.le_refl _

/-! ### Calls -/

theorem leaves_release (s : Scheduler) : Leaves n s s.release := by
  simp only [release]
  split
  · refine Leaves.appoint ?_ _ _ (by simp)
    exact .of_eq rfl rfl rfl (Nat.le_refl _)
  · exact .of_eq rfl rfl rfl (Nat.le_refl _)

theorem leaves_setStage (s : Scheduler) (m : Nat) (stage : Stage) : Leaves n s (s.setStage m stage) :=
  .of_eq rfl rfl rfl (Nat.le_refl _)

theorem leaves_endCall (s : Scheduler) (m : Nat) : Leaves n s (s.endCall m) :=
  .of_eq rfl rfl rfl (Nat.le_refl _)

theorem leaves_beginDraining (s : Scheduler) (m : Nat) : Leaves n s (s.beginDraining m) := by
  rw [beginDraining]
  split
  · exact leaves_endCall s m
  · exact (leaves_setStage s m _).appoint _ _ (by simp)

theorem leaves_leaveClearing (s : Scheduler) (m : Nat) (kind : CallKind) : Leaves n s (s.leaveClearing m kind) := by
  have hdues : KeepsDues n s.agenda (s.agenda.keep (· != Alarm.call m)) := .keep _ (by simp)
  have hkeep : Leaves n s { s with agenda := s.agenda.keep (· != Alarm.call m) } := .of_core rfl hdues
  cases kind with
  | load => exact (hkeep.trans (leaves_setStage _ m _)).appoint _ _ (by simp)
  | stop => exact (hkeep.trans (leaves_release _)).trans (leaves_beginDraining _ m)

theorem leaves_followClearing (s : Scheduler) : Leaves n s s.followClearing := by
  rcases followClearing_cases s with h | ⟨_, -, -, h⟩ <;> rw [h]
  · exact .refl s
  · exact leaves_leaveClearing s _ _

theorem leaves_endDrained (s : Scheduler) : Leaves n s s.endDrained :=
  .of_eq rfl rfl rfl (Nat.le_refl _)

theorem leaves_addCall (s : Scheduler) (kind : CallKind) : Leaves n s (s.addCall kind).2 :=
  .of_eq rfl rfl rfl (Nat.le_succ _)

/-- Loops that are dropped leave the others waiting. -/
theorem leaves_dropLoops (s : Scheduler) (numbers : List Nat) : Leaves n s (s.dropLoops numbers) where
  agenda := .refl _
  loops l hl := ⟨l, List.mem_of_mem_filter hl, rfl⟩
  generation := rfl
  numbered := Nat.le_refl _

/-! ## Loops that are told to end -/

theorem agenda_foldl_appoint (loops : List PollingLoop) (s : Scheduler) :
    let t := loops.foldl (fun s l => s.appoint 0.0 .looks (.loop l.number)) s
    (s.agenda.Numbered → t.agenda.Numbered) ∧
      t.dues n = s.dues n ++ (loops.filter (·.number == n)).map fun _ => s.elapsed + 0.0 := by
  induction loops generalizing s with
  | nil => exact ⟨id, by simp⟩
  | cons l rest ih =>
    obtain ⟨hnumbered, hdues⟩ := ih (s.appoint 0.0 .looks (.loop l.number))
    refine ⟨fun h => hnumbered (h.set _ _ _), ?_⟩
    rw [List.foldl_cons, hdues]
    show (s.agenda.set _ _ _).dues n ++ _ = _
    rw [Agenda.dues_set, List.append_assoc, dues]
    by_cases hl : l.number = n
    · simp [hl, appoint, elapsed]
    · simp [hl, appoint, elapsed]

/-- The loops that may run are woken at once when they are told to end. -/
theorem dues_clear (s : Scheduler) (n : Nat) :
    s.clear.dues n = s.dues n ++ (s.current.filter (·.number == n)).map fun _ => s.elapsed + 0.0 :=
  (agenda_foldl_appoint s.current _).2

/-! ### What comes before -/

theorem elapsed_appoint (s : Scheduler) (seconds : Float) (rank : Rank) (alarm : Alarm) :
    (s.appoint seconds rank alarm).elapsed = s.elapsed := rfl

theorem elapsed_startPolling (s : Scheduler) (b : ChatBot) : (s.startPolling b).elapsed = s.elapsed := by
  rcases startPolling_cases s b with h | h | ⟨_, h⟩ <;> rw [h]
  · rfl
  · exact foldl_keep elapsed (fun s _ => elapsed_appoint s _ _ _) _ s.inbound
  · rfl

theorem elapsed_connect (s : Scheduler) (settings : Settings) : (s.connect settings).elapsed = s.elapsed := by
  rcases connect_cases s settings with ⟨h, -⟩ | ⟨_, built, _, -, -, h⟩ <;> rw [h]
  cases built with
  | false => rfl
  | true => exact elapsed_startPolling _ _

theorem elapsed_bindChat (s : Scheduler) (settings : Settings) : (s.bindChat settings).elapsed = s.elapsed := by
  rcases bindChat_cases s settings with ⟨h, -⟩ | ⟨_, -, -, h⟩ <;> rw [h]
  rfl

theorem elapsed_followCode (s : Scheduler) (settings : Settings) :
    (s.followCode settings).2.elapsed = s.elapsed := by
  rcases followCode_cases s settings with ⟨h, -⟩ | ⟨-, h⟩ | ⟨_, -, -, -, -, h⟩ <;> rw [h] <;> rfl

theorem elapsed_startHook (s : Scheduler) : s.startHook.elapsed = s.elapsed := by
  rw [startHook]
  repeat' split
  all_goals rfl

theorem elapsed_subscribe (s : Scheduler) : s.subscribe.elapsed = s.elapsed := by
  rw [subscribe]
  split <;> rfl

/-! ### Calls that end what was loaded -/

/-- What is done leaves a loop waiting, or tells the loops to end at once, and leaves it waiting before and after
that. -/
inductive MayTell (n : Nat) (s t : Scheduler) : Prop
  | leaves (h : Leaves n s t)
  | tells {u : Scheduler} (before : Leaves n s u) (time : u.elapsed = s.elapsed) (after : Leaves n u.clear t)

namespace MayTell

theorem of_before (before : Leaves n s u) (time : u.elapsed = s.elapsed) (h : MayTell n u t) : MayTell n s t := by
  cases h with
  | leaves h => exact .leaves (before.trans h)
  | tells before' time' after => exact .tells (before.trans before') (time'.trans time) after

theorem followed (h : MayTell n s u) (after : Leaves n u t) : MayTell n s t := by
  cases h with
  | leaves h => exact .leaves (h.trans after)
  | tells before time after' => exact .tells before time (after'.trans after)

end MayTell

theorem mayTell_beginClearing (s : Scheduler) (m : Nat) (kind : CallKind) : MayTell n s (s.beginClearing m kind) := by
  rcases beginClearing_cases s m kind with h | h <;> rw [h]
  · exact .tells (.refl s) rfl (leaves_leaveClearing _ m kind)
  · exact .tells (.refl s) rfl ((leaves_setStage _ m _).appoint _ _ (by simp))

theorem mayTell_finishSettings (s : Scheduler) (m : Nat) (settings : Settings) :
    MayTell n s (s.finishSettings m settings) := by
  refine .of_before (leaves_followCode s settings) (elapsed_followCode s settings) ?_
  rcases finishSettings_cases s m settings with h | ⟨_, h⟩ <;> rw [h]
  · exact mayTell_beginClearing _ m .load
  · refine .leaves (.trans ?_ (leaves_release _))
    exact .of_eq rfl rfl rfl (Nat.le_refl _)

theorem mayTell_connect (s : Scheduler) (m : Nat) (settings : Settings) :
    MayTell n s ((s.connect settings).finishSettings m settings) :=
  .of_before (leaves_connect s settings) (elapsed_connect s settings) (mayTell_finishSettings _ m settings)

theorem mayTell_reconnect (s : Scheduler) (m : Nat) (settings : Settings) (b : ChatBot) :
    MayTell n s (s.reconnect m settings b) :=
  .of_before (leaves_around s (s.around.setBot b.disconnect)) rfl (mayTell_connect _ m settings)

theorem mayTell_followToken (s : Scheduler) (m : Nat) (settings : Settings) (b : ChatBot) :
    MayTell n s (s.followToken m settings b) := by
  rw [followToken]
  split
  · exact .of_before (leaves_bindChat s settings) (elapsed_bindChat s settings) (mayTell_finishSettings _ m settings)
  · dsimp only
    refine .of_before (u := { s with token := settings.wantedToken, pairingCode := "" })
      (.of_eq rfl rfl rfl (Nat.le_refl _)) rfl ?_
    split
    · exact mayTell_connect _ m settings
    · split
      · refine .leaves (Leaves.appoint ?_ _ _ (by simp))
        exact .of_eq rfl rfl rfl (Nat.le_refl _)
      · exact mayTell_reconnect _ m settings _

theorem mayTell_followSettings (s : Scheduler) (m : Nat) : MayTell n s (s.followSettings m) := by
  rw [followSettings]
  split
  · exact .of_before (leaves_report s _ _) rfl (mayTell_beginClearing _ m .load)
  · next settings _ =>
    dsimp only
    refine .of_before (leaves_around s { s.around with settings := some settings }) rfl ?_
    split
    · exact mayTell_followToken _ m settings _
    · exact mayTell_beginClearing _ m .load

theorem mayTell_begin (s : Scheduler) (c : Call) : MayTell n s (s.begin c) := by
  rw [begin]
  split
  · exact mayTell_followSettings s _
  · exact mayTell_beginClearing s _ .stop

theorem mayTell_enqueue (s : Scheduler) (c : Call) : MayTell n s (s.enqueue c) := by
  simp only [enqueue]
  refine .of_before (u := { s with lock := s.lock ++ [c.number] }.setStage c.number .queued)
    (.of_eq rfl rfl rfl (Nat.le_refl _)) rfl ?_
  split
  · exact mayTell_begin _ c
  · exact .leaves (.refl _)

theorem mayTell_leaveBot (s : Scheduler) (c : Call) : MayTell n s (s.leaveBot c) :=
  .of_before (u := { s with hook := s.hook.map KeyboardHook.stop }) (.of_eq rfl rfl rfl (Nat.le_refl _)) rfl
    (mayTell_enqueue _ c)

theorem mayTell_reload (s : Scheduler) : MayTell n s s.reload.2 :=
  .of_before (leaves_addCall s .load) rfl (mayTell_enqueue _ _)

theorem mayTell_start (s : Scheduler) : MayTell n s s.start.2 := by
  rw [start]
  split
  · exact .leaves (.refl s)
  · refine .of_before (u := { s with isRunning := true }.subscribe.startHook) ?_ ?_ (mayTell_reload _)
    · refine Leaves.trans ?_ ((leaves_subscribe { s with isRunning := true }).trans (leaves_startHook _))
      exact .of_eq rfl rfl rfl (Nat.le_refl _)
    · exact (elapsed_startHook _).trans (elapsed_subscribe _)

theorem mayTell_closeBot (s : Scheduler) (c : Call) : MayTell n s (s.closeBot c) := by
  rw [closeBot]
  split
  · exact mayTell_leaveBot s c
  · dsimp only
    split
    · refine .leaves (Leaves.appoint ?_ _ _ (by simp))
      exact .of_eq rfl rfl rfl (Nat.le_refl _)
    · refine .of_before (leaves_around s _) ?_ (mayTell_leaveBot _ c)
      rfl

theorem mayTell_stop (s : Scheduler) : MayTell n s s.stop.2 := by
  rw [stop]
  split
  · exact .leaves (.refl s)
  · refine .of_before (u := ({ s with isRunning := false }.addCall .stop).2) ?_ rfl (mayTell_closeBot _ _)
    exact .of_eq rfl rfl rfl (Nat.le_succ _)

/-- A call that goes on leaves a loop waiting or tells the loops to end, unless it is about to load. -/
theorem mayTell_wakeCall {m : Nat} (h : ∀ c ∈ s.calls, c.number = m → c.stage ≠ .settling) :
    MayTell n s (s.wakeCall m) := by
  rw [wakeCall]
  split
  · exact .leaves (.refl s)
  · next c hfind =>
    have hstage := h c (List.mem_of_find?_eq_some hfind) (by simpa using List.find?_some hfind)
    split
    · split
      · exact mayTell_begin s c
      · exact .leaves (.refl s)
    · split
      · exact mayTell_reconnect s m _ _
      · exact mayTell_finishSettings s m _
    · exact .leaves ((leaves_dropLoops s _).trans (leaves_leaveClearing _ m _))
    · next hsettling => exact absurd hsettling hstage
    · split
      · refine .of_before (leaves_around s _) ?_ (mayTell_leaveBot _ c)
        rfl
      · exact mayTell_leaveBot s c
    · exact .leaves (.of_eq rfl rfl rfl (Nat.le_refl _))

end Scheduler

end Deskhand
