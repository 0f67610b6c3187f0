import Deskhand.Proofs.Schedule.Operations
import Deskhand.Proofs.Store.Keys

/-!
# The core of a scheduler

The `Core` of a scheduler is what decides which scenarios wait for what: the store, the generation, the loaded
scenarios, the roster, the loops, the runs and the calls. The rest of a scheduler is its surroundings and its
agenda. Reports, alarms, the connection of the bot and the keyboard hook leave the core as it is, which the
simp lemmas of this module say; the steps that change it are the `Move`s of the next one.
-/

namespace Deskhand

namespace Scheduler

/-- The part of a scheduler that decides which scenarios wait for what. -/
structure Core where
  store : Store
  generation : Option Nat := none
  generations : Nat := 0
  loaded : Entries String Scenario := []
  loads : Nat := 0
  roster : Roster := {}
  loops : List PollingLoop := []
  runs : List Run := []
  results : List (Nat × Bool) := []
  calls : List Call := []
  lock : List Nat := []
  failed : List (Nat × Fault) := []
  numbered : Nat := 0

/-- The core of a scheduler. -/
def core (s : Scheduler) : Core :=
  { store := s.store, generation := s.generation, generations := s.generations, loaded := s.loaded
    loads := s.loads, roster := s.roster, loops := s.loops, runs := s.runs, results := s.results
    calls := s.calls, lock := s.lock, failed := s.failed, numbered := s.numbered }

variable (s : Scheduler)

/-! ## What leaves the core as it is -/

@[simp] theorem core_report (level : LogLevel) (message : String) :
    (s.report level message).core = s.core := rfl

@[simp] theorem core_appoint (seconds : Float) (rank : Rank) (alarm : Alarm) :
    (s.appoint seconds rank alarm).core = s.core := rfl

@[simp] theorem core_around (around : Surroundings) : { s with around := around }.core = s.core := rfl

@[simp] theorem core_agenda (agenda : Agenda) : { s with agenda := agenda }.core = s.core := rfl

@[simp] theorem core_hook (hook : Option KeyboardHook) : { s with hook := hook }.core = s.core := rfl

@[simp] theorem core_setElapsed (t : Float) : (s.setElapsed t).core = s.core := rfl

@[simp] theorem core_announce (scenario : String) (time : Instant) :
    (s.announce scenario time).core = s.core := rfl

@[simp] theorem core_reportBuild (built : Bool) : (s.reportBuild built).core = s.core := by
  rw [reportBuild]
  split <;> rfl

@[simp] theorem core_expectMessages : s.expectMessages.core = s.core :=
  foldl_keep core (fun s _ => core_appoint s _ _ _) s s.inbound

@[simp] theorem core_startPolling (b : ChatBot) : (s.startPolling b).core = s.core := by
  rcases startPolling_cases s b with h | h | ⟨_, h⟩ <;> rw [h]
  · rfl
  · rw [core_expectMessages, core_around]
  · rfl

@[simp] theorem core_connect (settings : Settings) : (s.connect settings).core = s.core := by
  rcases connect_cases s settings with ⟨h, -⟩ | ⟨_, built, _, -, -, h⟩ <;> rw [h]
  cases built with
  | false => exact core_reportBuild _ false
  | true => exact core_startPolling _ _

@[simp] theorem core_bindChat (settings : Settings) : (s.bindChat settings).core = s.core := by
  rcases bindChat_cases s settings with ⟨h, -⟩ | ⟨_, -, -, h⟩ <;> rw [h]
  rfl

@[simp] theorem core_followCode (settings : Settings) : (s.followCode settings).2.core = s.core := by
  rcases followCode_cases s settings with ⟨h, -⟩ | ⟨-, h⟩ | ⟨_, -, -, -, -, h⟩ <;> rw [h] <;> rfl

@[simp] theorem core_reportIdle (name : String) (why : Idleness) :
    (s.reportIdle name why).core = s.core := by
  cases why <;> rfl

@[simp] theorem core_publishMenu : s.publishMenu.core = s.core := by
  rcases publishMenu_cases s with h | ⟨_, -, h⟩ <;> rw [h]
  rfl

@[simp] theorem core_subscribe : s.subscribe.core = s.core := by
  rw [subscribe]
  split <;> rfl

@[simp] theorem core_startHook : s.startHook.core = s.core := by
  rw [startHook]
  repeat' split
  all_goals rfl

end Scheduler

end Deskhand
