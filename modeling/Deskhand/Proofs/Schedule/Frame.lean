import Deskhand.Proofs.Schedule.Placement

/-!
# What loops, keys and loading leave alone

The `Frame` of a scheduler is what is neither about its loops, roster and runs under way nor about its alarms, its log
and its keyboard hook: whether it runs, the chat, the calls, the store, and what came of runs. Every view of a
scheduler that is made of the frame alone is kept wherever the frame is, which is said here once for the operations
that keep it.
-/

namespace Deskhand

namespace Scheduler

/-- What of a scheduler its loops, keys and loading leave alone. -/
structure Frame where
  isRunning : Bool
  chat : Option ChatService
  token : String
  pairingCode : String
  calls : List Call
  store : Store
  loaded : Entries String Scenario
  loads : Nat
  executed : Nat
  results : List (Nat × Bool)
  board : NoticeBoard
  announced : List Announcement

/-- The frame of a scheduler. -/
def frame (s : Scheduler) : Frame :=
  { isRunning := s.isRunning, chat := s.around.chat, token := s.token, pairingCode := s.pairingCode
    calls := s.calls, store := s.store, loaded := s.loaded, loads := s.loads, executed := s.executed
    results := s.results, board := s.board, announced := s.announced }

variable (s : Scheduler)

theorem frame_around {around : Surroundings} (h : around.chat = s.around.chat) :
    { s with around := around }.frame = s.frame := by
  simp only [frame, h]

/-! ## Reports and alarms -/

theorem frame_appoint (seconds : Float) (rank : Rank) (alarm : Alarm) :
    (s.appoint seconds rank alarm).frame = s.frame := rfl

theorem frame_reportBuild (built : Bool) : (s.reportBuild built).frame = s.frame := by
  rw [reportBuild]
  split <;> rfl

theorem frame_expectMessages : s.expectMessages.frame = s.frame :=
  foldl_keep frame (fun s _ => frame_appoint s _ _ _) s s.inbound

theorem frame_startHook : s.startHook.frame = s.frame := by
  rw [startHook]
  repeat' split
  all_goals rfl

theorem frame_release : s.release.frame = s.frame := by
  simp only [release]
  split <;> rfl

theorem frame_clear : s.clear.frame = s.frame :=
  foldl_keep frame (fun s _ => frame_appoint s _ _ _) _ s.current

/-! ## Scenarios that are taken in -/

theorem frame_settle (generation : Nat) (scenario : Scenario) (p : Place) :
    (s.settle generation scenario p).frame = s.frame := by
  cases p with
  | idle why => cases why <;> rfl
  | _ => rfl

theorem frame_setUp (generation : Nat) (scenario : Scenario) :
    (setUp generation s scenario).frame = s.frame := by
  have hchat := (Execution.chat_blocksOf scenario s.around).1
  rw [setUp]
  split
  all_goals
    next around hblocks =>
      rw [hblocks] at hchat
      first
      | exact (frame_settle _ _ _ _).trans (frame_around s hchat)
      | exact frame_around s hchat

/-! ## Loops, runs that start, and keys -/

theorem frame_spawnLoaded (id : String) (bindings : List (String × Value)) :
    (s.spawnLoaded id bindings).frame = s.frame := by
  rw [spawnLoaded]
  split <;> rfl

theorem frame_startAll (ids : List String) : (s.startAll ids).frame = s.frame :=
  foldl_keep frame (fun s id => frame_spawnLoaded s id []) s ids

theorem frame_follow (l : PollingLoop) (turn : Turn) : (s.follow l turn).frame = s.frame := by
  cases turn with
  | fires bindings => exact frame_spawnLoaded s _ bindings
  | declines => rfl
  | raises fault => rfl

theorem frame_wakeLoop (n : Nat) : (s.wakeLoop n).frame = s.frame := by
  rw [wakeLoop]
  split
  · rfl
  · split
    · exact frame_follow _ _ _
    · rfl

theorem frame_runById (id : String) : (s.runById id).2.frame = s.frame := by
  rw [runById]
  split
  · rfl
  · split <;> rfl

theorem frame_onPress (k : KeyPress) (injected : Bool) : (s.onPress k injected).frame = s.frame := by
  rw [onPress]
  split
  · rfl
  · dsimp only
    split
    · exact frame_startAll _ _
    · rfl

theorem frame_onRelease (k : KeyPress) : (s.onRelease k).frame = s.frame := by
  rw [onRelease]
  split <;> rfl

/-- An event of a key or a file, or one that asks for runs. -/
def Event.IsOfRuns : Event → Prop
  | .run _ | .hotkey _ _ | .press _ _ | .release _ | .command _ | .report _ _ => True
  | _ => False

theorem frame_after {e : Event} (h : e.IsOfRuns) : (s.after e).frame = s.frame := by
  cases e with
  | run id => exact frame_runById s id
  | hotkey key modifiers => exact frame_startAll s _
  | press k injected => exact frame_onPress s k injected
  | release k => exact frame_onRelease s k
  | command text => exact frame_startAll s _
  | report directory r => rfl
  | _ => exact h.elim

end Scheduler

end Deskhand
