import Deskhand.Proofs.Chat.Command
import Deskhand.Proofs.Chat.Pairing
import Mathlib.Data.List.Induction

/-!
# What a bot remembers of its messages

A bot keeps the messages that it took as commands for a minute, measured against the newest one. What is dropped
is taken from the front, and only when a message comes; since messages come in the order of their times, just those
are left that are not too old. Main statements:

* `Recent.ofMessages_eq`: what is kept of messages that were taken one after the other;
* `Recent.hasSince_ofMessages`: dropping old ones changes no answer about what came within the minute;
* `ChatBot.recent_performAll`: only messages that are taken change what is kept;
* `ChatBot.kept_lately`: what is kept, and what is answered, after any operations on a bot.
-/

namespace Deskhand

namespace Recent

/-- Where whatever stands before a dropped element is dropped as well, the front is all there is to drop. -/
theorem dropWhile_eq_filter {α : Type} {drop : α → Bool} {l : List α}
    (h : l.Pairwise fun a b => drop b = true → drop a = true) : l.dropWhile drop = l.filter fun a => !drop a := by
  induction l with
  | nil => rfl
  | cons a rest ih =>
    obtain ⟨ha, hrest⟩ := List.pairwise_cons.mp h
    by_cases hdrop : drop a = true
    · rw [List.dropWhile_cons_of_pos hdrop, List.filter_cons_of_neg (by simp [hdrop]), ih hrest]
    · rw [List.dropWhile_cons_of_neg hdrop, List.filter_eq_self.mpr]
      refine List.forall_mem_cons.mpr ⟨by simpa using hdrop, fun b hb => ?_⟩
      simpa using fun hb' => hdrop (ha b hb hb')

/-- A message with the instant at which it came, as it is kept. -/
def entry (m : String × Instant) : String × Instant :=
  (Chat.normalCommand m.1, m.2)

/-- What is kept of messages that were taken one after the other. -/
def ofMessages (messages : List (String × Instant)) : Recent :=
  messages.foldl (fun recent m => recent.add m.1 m.2) []

/-- Whether messages came in the order of their times. -/
def AreInOrder (messages : List (String × Instant)) : Prop :=
  messages.Pairwise fun m n => m.2 ≤ n.2

/-- The messages that came at most a minute before the last one of them. -/
def lately (messages : List (String × Instant)) : List (String × Instant) :=
  messages.filter fun m => messages.getLast?.all fun last => last.2.micros ≤ m.2.micros + lifetime

instance (messages : List (String × Instant)) : Decidable (AreInOrder messages) :=
  inferInstanceAs (Decidable (messages.Pairwise fun m n => m.2 ≤ n.2))

theorem mem_lately_of_getLast {messages : List (String × Instant)} {m : String × Instant}
    (h : messages.getLast? = some m) : m ∈ lately messages := by
  refine List.mem_filter.mpr ⟨List.mem_of_getLast? h, ?_⟩
  rw [h, Option.all_some, decide_eq_true_iff]
  exact Nat.le_add_right _ _

theorem lately_snoc (messages : List (String × Instant)) (m : String × Instant) :
    lately (messages ++ [m]) = (messages ++ [m]).filter fun n => !isOld m.2 (entry n) := by
  rw [lately, List.getLast?_concat]
  refine List.filter_congr fun n _ => ?_
  rw [Option.all_some, isOld, ← decide_not]
  exact decide_eq_decide.mpr Nat.not_lt.symm

/-- What is too old for a message is so for a later one. -/
theorem isOld_mono {m n : Instant} (h : m ≤ n) {e : String × Instant} (hold : isOld m e = true) :
    isOld n e = true := by
  rw [isOld, decide_eq_true_iff] at hold ⊢
  exact lt_of_lt_of_le hold h

/-- What came at most a minute before a later message came so before an earlier one. -/
theorem filter_lately {messages : List (String × Instant)} {m : String × Instant}
    (h : AreInOrder (messages ++ [m])) :
    ((lately messages).filter fun n => !isOld m.2 (entry n)) = messages.filter fun n => !isOld m.2 (entry n) := by
  rw [lately, List.filter_filter]
  refine List.filter_congr fun n _ => Bool.and_eq_left_iff_imp.mpr fun hnew => ?_
  rw [Option.all_eq_true]
  intro last hlast
  have hle : last.2 ≤ m.2 := (List.pairwise_append.mp h).2.2 last (List.mem_of_getLast? hlast) m List.mem_cons_self
  have hlately : ¬isOld last.2 (entry n) = true := fun hold => by simp [isOld_mono hle hold] at hnew
  exact decide_eq_true (Nat.not_lt.mp fun hold => hlately (decide_eq_true hold))

/-- Of messages that came in the order of their times those are kept that came within the minute before the last. -/
theorem ofMessages_eq {messages : List (String × Instant)} (h : AreInOrder messages) :
    ofMessages messages = (lately messages).map entry := by
  induction messages using List.reverseRecOn with
  | nil => rfl
  | append_singleton messages m ih =>
    have hfront : AreInOrder messages := (List.pairwise_append.mp h).1
    have hkept : (lately messages ++ [m]).Pairwise fun a b =>
        isOld m.2 (entry b) = true → isOld m.2 (entry a) = true := by
      refine (List.Pairwise.sublist ?_ h).imp fun hab => ?_
      · exact List.filter_sublist.append_right _
      · rw [isOld, isOld, decide_eq_true_iff, decide_eq_true_iff]
        exact lt_of_le_of_lt (Nat.add_le_add_right hab _)
    calc ofMessages (messages ++ [m])
        = ((lately messages ++ [m]).map entry).dropWhile (isOld m.2) := by
          rw [ofMessages, List.foldl_append, ← ofMessages, ih hfront, List.map_append]
          rfl
      _ = ((lately messages ++ [m]).dropWhile fun n => isOld m.2 (entry n)).map entry := List.dropWhile_map ..
      _ = ((lately messages ++ [m]).filter fun n => !isOld m.2 (entry n)).map entry := by
          rw [dropWhile_eq_filter hkept]
      _ = (lately (messages ++ [m])).map entry := by
          rw [List.filter_append, filter_lately h, ← List.filter_append, ← lately_snoc]

/-- Who asks for a command is told whether one of the messages of the last minute asks for it and came later. -/
theorem hasSince_ofMessages_iff {messages : List (String × Instant)} (h : AreInOrder messages) {command : String}
    {since : Instant} :
    (ofMessages messages).hasSince command since = true ↔
      ∃ m ∈ lately messages, Chat.normalCommand m.1 = Chat.normalCommand command ∧ since < m.2 := by
  rw [ofMessages_eq h, hasSince, List.any_map, List.any_eq_true]
  refine exists_congr fun m => and_congr_right fun _ => ?_
  rw [Function.comp_apply, Bool.and_eq_true, beq_iff_eq, decide_eq_true_iff]
  rfl

/-- Dropping what is old changes no answer about what came since an instant of the last minute. -/
theorem hasSince_ofMessages {messages : List (String × Instant)} (h : AreInOrder messages) {since : Instant}
    (hsince : ∀ last ∈ messages.getLast?, last.2.micros ≤ since.micros + lifetime) (command : String) :
    (ofMessages messages).hasSince command since = true ↔
      ∃ m ∈ messages, Chat.normalCommand m.1 = Chat.normalCommand command ∧ since < m.2 := by
  rw [hasSince_ofMessages_iff h]
  refine ⟨fun ⟨m, hm, hfound⟩ => ⟨m, List.mem_of_mem_filter hm, hfound⟩, fun ⟨m, hm, hfound⟩ => ⟨m, ?_, hfound⟩⟩
  refine List.mem_filter.mpr ⟨hm, (Option.all_eq_true _ _).mpr fun last hlast => ?_⟩
  exact decide_eq_true ((hsince last hlast).trans (Nat.add_le_add_right (Nat.le_of_lt hfound.2) _))

end Recent

namespace ChatBot

/-! ## Operations on a bot -/

/-- What can be done with a bot. -/
inductive Operation where
  /-- A message of a chat comes while the clock shows `clock`, and counts as coming at `now`. -/
  | message (network : ChatNetwork) (clock now : Instant) (text : String) (chat : Int)
  | startPairing (now : Instant) (given : Option String)
  | stopPairing
  | build (network : ChatNetwork) (token : String) (chat : Option Int)
  | startPolling (network : ChatNetwork)
  | beginStop
  | finishStop
  | stopWithin (network : ChatNetwork) (limit : Option Float)
  | disconnect
  /-- The chat is set to that of the settings. -/
  | bind (chat : Option Int)
  | publish (network : ChatNetwork) (commands : ChatMenu)
  | subscribe (name : String)
  | unsubscribe (name : String)
  | onPaired (name : String)

variable {b : ChatBot} {ops : List Operation}

/-- The bot after an operation. -/
def perform (b : ChatBot) : Operation → ChatBot
  | .message network clock now text chat => (b.receive network clock now text chat).bot
  | .startPairing now given => (b.startPairing now given).2
  | .stopPairing => b.stopPairing
  | .build network token chat => (b.build network token chat).2
  | .startPolling network => (b.startPolling network).2
  | .beginStop => b.beginStop
  | .finishStop => b.finishStop
  | .stopWithin network limit => (b.stopWithin network limit).2
  | .disconnect => b.disconnect
  | .bind chat => { b with chatId := chat }
  | .publish network commands => (b.publish network commands).2.1
  | .subscribe name => b.subscribe name
  | .unsubscribe name => b.unsubscribe name
  | .onPaired name => b.onPaired name

/-- The message that an operation takes as a command, with the instant at which it came. -/
def taken? (b : ChatBot) : Operation → Option (String × Instant)
  | .message network clock now text chat =>
    if (b.receive network clock now text chat).accepted then some (text, now) else none
  | _ => none

/-- The bot after several operations. -/
def performAll (b : ChatBot) (ops : List Operation) : ChatBot :=
  ops.foldl perform b

/-- The messages that are taken as commands in the course of several operations. -/
def taken (b : ChatBot) : List Operation → List (String × Instant)
  | [] => []
  | op :: rest => (b.taken? op).toList ++ (b.perform op).taken rest

/-- A message that is taken is kept, and no other one. -/
theorem recent_receive (b : ChatBot) (network : ChatNetwork) (clock now : Instant) (text : String) (chat : Int) :
    (b.receive network clock now text chat).bot.recent =
      if (b.receive network clock now text chat).accepted then b.recent.add text now else b.recent := by
  simp only [receive]
  split
  · rfl
  · split
    · rfl
    · split
      · rfl
      · simp only [Recent.add, Chat.normalCommand_trim, if_true]

/-- An operation adds the message that it takes, if it takes one, to what is kept. -/
theorem recent_perform (b : ChatBot) (op : Operation) :
    (b.perform op).recent = (b.taken? op).toList.foldl (fun recent m => recent.add m.1 m.2) b.recent := by
  cases op with
  | message network clock now text chat =>
    rw [perform, recent_receive, taken?]
    by_cases h : (b.receive network clock now text chat).accepted = true
    · rw [if_pos h, if_pos h, Option.toList_some, List.foldl_cons, List.foldl_nil]
    · rw [if_neg h, if_neg h, Option.toList_none, List.foldl_nil]
  | startPairing now given => exact (Scene.startPairing_frame b now given).2
  | build network token chat =>
    simp only [perform, build]
    split
    · rfl
    · split <;> rfl
  | startPolling network =>
    simp only [perform, startPolling]
    repeat' split
    all_goals rfl
  | beginStop =>
    simp only [perform, beginStop]
    split <;> rfl
  | stopWithin network limit =>
    simp only [perform, stopWithin, beginStop]
    repeat' split
    all_goals rfl
  | publish network commands =>
    simp only [perform, publish]
    repeat' split
    all_goals rfl
  | subscribe name =>
    simp only [perform, subscribe]
    split <;> rfl
  | onPaired name =>
    simp only [perform, onPaired]
    split <;> rfl
  | stopPairing | finishStop | disconnect | bind | unsubscribe => rfl

/-- After any operations a bot keeps what it kept before, with the messages that were taken added in turn. -/
theorem recent_performAll (b : ChatBot) (ops : List Operation) :
    (b.performAll ops).recent = (b.taken ops).foldl (fun recent m => recent.add m.1 m.2) b.recent := by
  induction ops generalizing b with
  | nil => rfl
  | cons op rest ih => rw [performAll, List.foldl_cons, ← performAll, ih, recent_perform, taken, List.foldl_append]

/-- What a new bot keeps. -/
theorem recent_of_new (hnew : b.recent = []) (ops : List Operation) :
    (b.performAll ops).recent = Recent.ofMessages (b.taken ops) := by
  rw [recent_performAll, hnew, Recent.ofMessages]

/-! ## What is answered -/

/-- The instant that a command must come after: the one that is given, or else the start of the window before now. -/
def cutoff? (b : ChatBot) (since : Option Instant) (now : Instant) : Option Instant :=
  since.or (now.shift? (-(b.windowSeconds * Span.second)))

theorem hasCommandSince_of_cutoff {since : Option Instant} {now cutoff : Instant}
    (h : b.cutoff? since now = some cutoff) (command : String) :
    b.hasCommandSince command since now = .ok (b.recent.hasSince command cutoff) := by
  rw [cutoff?] at h
  cases since with
  | some t => rw [hasCommandSince, ← Option.some.inj h]
  | none =>
    rw [Option.none_or] at h
    simp only [hasCommandSince, h]

/-- After any operations on a bot that kept nothing, where the messages that it took came in the order of their
times: it keeps just those of them that came at most a minute before the last one, in their order and in normal
form; and asked for a command since an instant of that minute, it answers whether one of all the messages that it
took asks for that command and came after the instant. -/
theorem kept_lately (hnew : b.recent = []) (hordered : Recent.AreInOrder (b.taken ops)) :
    (b.performAll ops).recent =
        ((b.taken ops).filter fun m =>
          (b.taken ops).getLast?.all fun last => last.2.micros ≤ m.2.micros + Recent.lifetime).map
            (fun m => (Chat.normalCommand m.1, m.2)) ∧
      ∀ command since now cutoff, (b.performAll ops).cutoff? since now = some cutoff →
        (∀ last ∈ (b.taken ops).getLast?, last.2.micros ≤ cutoff.micros + Recent.lifetime) →
        ∃ found, (b.performAll ops).hasCommandSince command since now = .ok found ∧
          (found = true ↔
            ∃ m ∈ b.taken ops, Chat.normalCommand m.1 = Chat.normalCommand command ∧ cutoff < m.2) := by
  refine ⟨?_, fun command since now cutoff hcutoff hlate => ⟨_, hasCommandSince_of_cutoff hcutoff command, ?_⟩⟩
  · rw [recent_of_new hnew, Recent.ofMessages_eq hordered, Recent.lately]
    rfl
  · rw [recent_of_new hnew]
    exact Recent.hasSince_ofMessages hordered hlate command

/-- A new bot that is bound to a chat. -/
def bound : ChatBot :=
  { chatId := some 5 }

/-- The instant so many microseconds after the start of the clock. -/
def tick (micros : Nat) : Instant :=
  ⟨Clock.start.micros + micros⟩

/-- A command, one of a stranger, the list of commands, a second command just a minute after the first, and a third
one a microsecond later. -/
def visit : List Operation :=
  [.message {} (tick 0) (tick 0) " /go@desk" 5, .message {} (tick 0) (tick 0) "/stop" 7,
    .message {} (tick 0) (tick 0) "/Commands" 5, .startPairing (tick 0) (some "abc"),
    .message {} (tick 0) (tick 60000000) "/go now" 5, .message {} (tick 0) (tick 60000001) "Status/" 5]

theorem kept_lately_visit :
    bound.recent = [] ∧ Recent.AreInOrder (bound.taken visit) ∧
      (bound.performAll visit).recent = [("go now", tick 60000000), ("status", tick 60000001)] ∧
      (bound.performAll visit).cutoff? none (tick 60000002) = some (tick 50000002) ∧
      ∃ found, (bound.performAll visit).hasCommandSince "/GO now" none (tick 60000002) = .ok found ∧
        found = true := by
  have hordered : Recent.AreInOrder (bound.taken visit) := by decide +kernel
  have hcutoff : (bound.performAll visit).cutoff? none (tick 60000002) = some (tick 50000002) := by decide +kernel
  have hnew : bound.recent = [] := rfl
  obtain ⟨hkept, hanswers⟩ := kept_lately hnew hordered
  obtain ⟨found, hanswer, hfound⟩ := hanswers "/GO now" none _ _ hcutoff (by decide +kernel)
  exact ⟨hnew, hordered, hkept.trans (by decide +kernel), hcutoff, found, hanswer, hfound.mpr (by decide +kernel)⟩

end ChatBot

end Deskhand
