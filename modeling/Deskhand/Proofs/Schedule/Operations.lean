import Deskhand.Schedule.Clockwork
import Mathlib.Data.List.Basic

/-!
# What operations come to

For each operation of a scheduler that goes different ways, one lemma says what it may come to, with what is known
where it does. What a view of the scheduler, an invariant or a relation between two states makes of an operation is a
case for each of these ways. Main statements:

* `foldl_keep`: what every step keeps, a fold of them keeps;
* `connect_cases`, `bindChat_cases`, `followCode_cases`, `publishMenu_cases`: the bot;
* `onPaired_cases`, `take_cases`, `onMessage_cases`: messages;
* `beginClearing_cases`, `followClearing_cases`, `finishSettings_cases`: the stages of calls.
-/

namespace Deskhand

/-- What every step keeps of a state is the same after a fold of them. -/
theorem foldl_keep {α β σ : Type} (get : σ → β) {step : σ → α → σ} (h : ∀ s a, get (step s a) = get s) (s : σ)
    (items : List α) : get (items.foldl step s) = get s := by
  have hhom : items.foldl (fun b _ => b) (get s) = get (items.foldl step s) :=
    List.foldl_hom get fun s a => (h s a).symm
  rw [← hhom, List.foldl_fixed]

namespace Scheduler

variable (s : Scheduler)

/-! ## The store -/

variable {s} in
/-- The store answers only what it holds. -/
theorem eq_of_ask {call : StoreCall} {α : Type} {answer : Except Fault α} {a : α} (h : s.ask call answer = .ok a) :
    answer = .ok a := by
  rw [ask] at h
  split at h
  · cases h
  · exact h

variable {s} in
theorem eq_of_keep {t : Scheduler} {settings : Settings} (h : s.keep settings = .ok t) :
    t = { s with store := (s.store.save settings).2 } := by
  rw [keep] at h
  split at h
  · next hsave =>
    rw [hsave]
    exact (Except.ok.inj (eq_of_ask h)).symm
  · cases eq_of_ask h

/-! ## The bot -/

theorem startPolling_cases (b : ChatBot) :
    let t : Scheduler := { s with around := s.around.setBot (b.startPolling s.around.network).2 }
    s.startPolling b = t ∨ s.startPolling b = t.expectMessages ∨
      ∃ message, s.startPolling b = t.report .error message := by
  rw [startPolling]
  split
  · next started b' hpolls =>
    rw [hpolls]
    cases started with
    | false => exact .inl rfl
    | true => exact .inr (.inl rfl)
  · next fault b' hpolls =>
    rw [hpolls]
    exact .inr (.inr ⟨_, rfl⟩)

/-- Connecting does something only if there is a bot and a token: what it builds is polled. -/
theorem connect_cases (settings : Settings) :
    s.connect settings = s ∧ (s.around.bot? = none ∨ s.token = "") ∨
      ∃ b built b', s.around.bot? = some b ∧ b.build s.around.network s.token settings.chatId = (built, b') ∧
        s.connect settings =
          let t : Scheduler := { s with around := s.around.setBot b', connections := s.connections + 1 }
          if built then t.startPolling b' else t.reportBuild false := by
  rw [connect]
  split
  · next hb => exact .inl ⟨rfl, .inl hb⟩
  · next b hb =>
    split
    · next htoken => exact .inl ⟨rfl, .inr (beq_iff_eq.mp htoken)⟩
    · rcases hbuild : b.build s.around.network s.token settings.chatId with ⟨built, b'⟩
      refine .inr ⟨b, built, b', hb, hbuild, ?_⟩
      cases built <;> rfl

/-- A bot that is configured is bound to the chat of the settings. -/
theorem bindChat_cases (settings : Settings) :
    (s.bindChat settings = s ∧
        ∀ b, s.around.bot? = some b → b.isConfigured = true → b.chatId = settings.chatId) ∨
      ∃ b, s.around.bot? = some b ∧ b.isConfigured = true ∧
        s.bindChat settings = { s with around := s.around.setBot { b with chatId := settings.chatId } } := by
  rw [bindChat]
  split
  · next hb => exact .inl ⟨rfl, fun b hb' => by cases hb.symm.trans hb'⟩
  · next b hb =>
    split
    · next hbinds => exact .inr ⟨b, hb, (Bool.and_eq_true_iff.mp hbinds).1, rfl⟩
    · next hkeeps =>
      refine .inl ⟨rfl, fun b' hb' hconfigured => ?_⟩
      obtain rfl := Option.some.inj (hb.symm.trans hb')
      simpa [hconfigured] using hkeeps

/-- Pairing starts for a code that is new, if there is a bot that is configured; an empty code is only noted. -/
theorem followCode_cases (settings : Settings) :
    ((s.followCode settings).2 = s ∧
        ∀ b, s.around.bot? = some b → b.isConfigured = true → settings.wantedCode = s.pairingCode) ∨
      (settings.wantedCode = "" ∧ (s.followCode settings).2 = { s with pairingCode := "" }) ∨
        ∃ b, s.around.bot? = some b ∧ b.isConfigured = true ∧ settings.wantedCode ≠ "" ∧
          settings.wantedCode ≠ s.pairingCode ∧
          (s.followCode settings).2 =
            { s with
              pairingCode := settings.wantedCode
              around := s.around.setBot (b.startPairing s.now (some settings.wantedCode)).2 } := by
  rw [followCode]
  dsimp only
  split
  · next hb => exact .inl ⟨rfl, fun b hb' => by cases hb.symm.trans hb'⟩
  · next b hb =>
    split
    · next hempty => exact .inr (.inl ⟨beq_iff_eq.mp hempty, rfl⟩)
    · next hcode =>
      split
      · next hpairs =>
        obtain ⟨hnew, hconfigured⟩ := Bool.and_eq_true_iff.mp hpairs
        exact .inr (.inr ⟨b, hb, hconfigured, by simpa using hcode, by simpa using hnew, rfl⟩)
      · next hkept =>
        refine .inl ⟨rfl, fun b' hb' hconfigured => ?_⟩
        obtain rfl := Option.some.inj (hb.symm.trans hb')
        simpa [hconfigured] using hkept

theorem publishMenu_cases :
    s.publishMenu = s ∨
      ∃ b, s.around.bot? = some b ∧
        s.publishMenu =
          let r := b.publish s.around.network s.roster.menu
          { s with around := { s.around with network := r.2.2 }.setBot r.2.1 } := by
  rw [publishMenu]
  split
  · exact .inl rfl
  · next b hb =>
    split
    · exact .inr ⟨b, hb, rfl⟩
    · exact .inl rfl

/-! ## Messages -/

/-- The chat that was bound is kept in the settings, or there is a report that it could not be. -/
theorem onPaired_cases (chat : Int) :
    (∃ settings, s.onPaired chat = { s with store := (s.store.save settings).2 }) ∨
      ∃ message, s.onPaired chat = s.report .error message := by
  rw [onPaired]
  split
  · next t h =>
    cases hask : s.ask .settings (.ok s.store.settings) with
    | ok settings =>
      rw [hask] at h
      exact .inl ⟨_, eq_of_keep h⟩
    | error fault =>
      rw [hask] at h
      cases h
  · exact .inr ⟨_, rfl⟩

theorem take_cases (d : Delivery) :
    s.take d = s ∨ (∃ text, s.take d = (s.onCommand text).2) ∨ ∃ chat, s.take d = s.onPaired chat := by
  cases d with
  | command name text chat =>
    rw [take]
    split
    · exact .inr (.inl ⟨text, rfl⟩)
    · exact .inl rfl
  | paired name chat =>
    rw [take]
    split
    · exact .inr (.inr ⟨chat, rfl⟩)
    · exact .inl rfl

/-- If there is a bot, it takes the message, and what it delivers is taken one after the other. -/
theorem onMessage_cases (text : String) (chat : Int) :
    (s.onMessage text chat).2 = s ∨
      ∃ b around, s.around.bot? = some b ∧
        around.chat = (s.around.setBot (b.receive s.around.network s.now s.now text chat).bot).chat ∧
        (s.onMessage text chat).2 =
          (b.receive s.around.network s.now s.now text chat).deliveries.foldl take { s with around := around } := by
  rw [onMessage]
  split
  · exact .inl rfl
  · next b hb =>
    refine .inr ⟨b, _, hb, ?_, rfl⟩
    split <;> rfl

theorem onFetched_cases (connection : Nat) (text : String) (chat : Int) :
    s.onFetched connection text chat = s ∨ s.onFetched connection text chat = (s.onMessage text chat).2 := by
  simp only [onFetched]
  split
  · exact .inr rfl
  · exact .inl rfl

/-! ## Calls -/

/-- What was loaded ends, and the call goes on at once or waits for the loops. -/
theorem beginClearing_cases (n : Nat) (kind : CallKind) :
    s.beginClearing n kind = s.clear.leaveClearing n kind ∨
      s.beginClearing n kind =
        (s.clear.setStage n (.clearing (s.current.map (·.number)))).appoint s.clear.times.drain .givesUp (.call n) := by
  simp only [beginClearing]
  split
  · exact .inl rfl
  · exact .inr rfl

theorem followClearing_cases :
    s.followClearing = s ∨
      ∃ c ∈ s.calls, s.isCleared c = true ∧ s.followClearing = s.leaveClearing c.number c.kind := by
  rw [followClearing]
  split
  · next c hfind => exact .inr ⟨c, List.mem_of_find?_eq_some hfind, List.find?_some hfind, rfl⟩
  · exact .inl rfl

/-- Once pairing follows the settings, what was loaded ends; a load whose code cannot be followed fails. -/
theorem finishSettings_cases (n : Nat) (settings : Settings) :
    let t : Scheduler := (s.followCode settings).2
    s.finishSettings n settings = t.beginClearing n .load ∨
      ∃ fault, s.finishSettings n settings = ({ t with failed := t.failed ++ [(n, fault)] }.endCall n).release := by
  rw [finishSettings]
  split
  · next hfollow =>
    rw [hfollow]
    exact .inl rfl
  · next hfollow =>
    rw [hfollow]
    exact .inr ⟨_, rfl⟩

end Scheduler

end Deskhand
