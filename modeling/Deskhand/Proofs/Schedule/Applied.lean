import Deskhand.Proofs.Schedule.Following

/-!
# The settings that are applied

The settings that a load read are applied at its turn or, where the bot had to stop first, when the load goes on
(`Applies`). From then on the bot is `Settled`: its token and its code are remembered, and only other settings make it
pair again. Main statements:

* `isUsed_afterAll`: a bot is configured only for a token that is not blank;
* `Settled.after`: what an event leaves of a bot that is settled;
* `Applies.bot`, `EntersPairing.applies`, `Applies.calm`: the bot once settings are applied;
* `IsNew.follows_settings`: all that, over every history.
-/

namespace Deskhand

/-- Whether settings ask of the bot what others do. -/
structure Settings.AskTheSame (read settings : Settings) : Prop where
  botToken : read.botToken = settings.botToken
  chatEnabled : read.chatEnabled = settings.chatEnabled
  pairingCode : read.pairingCode = settings.pairingCode

theorem Settings.AskTheSame.wanted {read settings : Settings} (h : read.AskTheSame settings) :
    read.wantedToken = settings.wantedToken ∧ read.wantedCode = settings.wantedCode := by
  rw [wantedToken, wantedCode, h.botToken, h.chatEnabled, h.pairingCode]
  exact ⟨rfl, rfl⟩

/-- A token is wanted only where the chat is enabled with one that is not blank. -/
theorem Settings.of_wantedToken {settings : Settings} (h : Text.isBlankText settings.wantedToken = false) :
    settings.chatEnabled = true ∧ Text.isBlankText settings.botToken = false ∧
      settings.wantedToken = Text.trim settings.botToken := by
  rw [wantedToken] at h ⊢
  split at h
  · next henabled =>
    rw [Text.isBlankText_trim] at h
    exact ⟨henabled, h, if_pos henabled⟩
  · cases h

/-- Nothing is dialled for a token that is blank. -/
theorem BotLine.not_blank_of_dialled {line : BotLine} {network : ChatNetwork} {token : String}
    (hbare : line.isConfigured = false) (h : (line.dialled network token).isConfigured = true) :
    Text.isBlankText token = false := by
  rw [BotLine.dialled] at h
  split at h
  · cases hbare.symm.trans h
  · next hblank => exact eq_false_of_ne_true hblank

namespace Scheduler

variable {s : Scheduler} {e : Event} {n : Nat} {settings : Settings}

/-! ## The token of a bot that is configured -/

/-- A bot that is configured, and that no load waits for, is so for a token that is not blank. -/
def Link.IsUsed (l : Link) : Prop :=
  ∀ line, l.line = some line → line.isConfigured = true → (∀ n, n ∉ l.waiting) → Text.isBlankText l.token = false

/-- A bot that is connected anew is configured only for a token that is not blank. -/
theorem not_blank_of_renewed {line : BotLine} {network : ChatNetwork} {token : String}
    (h : (line.renewed network token).isConfigured = true) : Text.isBlankText token = false := by
  rw [BotLine.renewed] at h
  split at h
  · exact BotLine.not_blank_of_dialled rfl h
  · next hbare => exact BotLine.not_blank_of_dialled (eq_false_of_ne_true hbare) h

theorem Link.Step.isUsed (hs : s.core.Sound) (h : s.link.IsUsed) {l : Link} (hstep : Link.Step s e l) : l.IsUsed := by
  cases hstep with
  | keeps => exact h
  | hangsUp _ =>
    intro line hline hconfigured hnone
    obtain ⟨old, hold, rfl⟩ := Option.map_eq_some_iff.mp hline
    refine h old hold ?_ hnone
    rw [BotLine.hungUp] at hconfigured
    split at hconfigured <;> exact hconfigured
  | @heeds n _ _ hturn hheeds =>
    cases hheeds with
    | keeps _ => rwa [Link.without_of_not_mem (hturn.not_waiting hs n)]
    | renews _ _ =>
      intro line hline hconfigured _
      obtain rfl := Option.some.inj hline
      exact not_blank_of_renewed hconfigured
    | waits _ _ _ => exact fun _ _ _ hnone => absurd (Set.mem_insert n _) (hnone n)
  | redials _ _ =>
    intro line hline hconfigured _
    obtain ⟨old, -, rfl⟩ := Option.map_eq_some_iff.mp hline
    exact BotLine.not_blank_of_dialled rfl hconfigured

theorem isUsed_afterAll {es : List Event} (hs : s.core.Sound) (h : s.link.IsUsed) (hes : ∀ e ∈ es, e.Fits)
    (hkeeps : KeepsLine s es) : (s.afterAll es).link.IsUsed :=
  hkeeps.induction (P := fun u => u.link.IsUsed) hs hes h fun _ _ hu hkept hused => (link_after hu hkept).isUsed hu hused

/-- A bot that was not connected is not configured. -/
theorem isUsed_of_off {new : Scheduler} (hoff : ∀ b, new.around.bot? = some b → b.line = .off) : new.link.IsUsed := by
  intro line hline hconfigured
  obtain ⟨b, hb, rfl⟩ := Option.map_eq_some_iff.mp hline
  rw [hoff b hb] at hconfigured
  cases hconfigured

/-! ## A bot that has followed the settings -/

/-- The settings that a load read are all applied: their token and, if the bot is configured, their code are
remembered. -/
structure Settled (settings : Settings) (s : Scheduler) : Prop where
  idle : ∀ m, m ∉ s.link.waiting
  token : ∀ line, s.link.line = some line → s.token = settings.wantedToken
  code : ∀ line, s.link.line = some line → line.isConfigured = true → s.pairingCode = settings.wantedCode

/-- The bot is given a pairing that it did not have. -/
def EntersPairing (s : Scheduler) (e : Event) (p : Pairing) : Prop :=
  (∃ b, (s.after e).around.bot? = some b ∧ b.pairing = some p) ∧ ∀ b, s.around.bot? = some b → b.pairing ≠ some p

theorem EntersPairing.enters {p : Pairing} (h : s.EntersPairing e p) : s.tie.Enters (s.after e).tie p := by
  obtain ⟨⟨b, hb, hp⟩, hnew⟩ := h
  refine ⟨⟨b.binding, binding_of_bot hb, hp⟩, fun b' hb' => ?_⟩
  obtain ⟨old, hold, rfl⟩ := Option.map_eq_some_iff.mp hb'
  exact hnew old hold

/-- The bot is bound to something if it has a line. -/
theorem binding_of_line {line : BotLine} (h : s.link.line = some line) :
    ∃ b, s.tie.binding = some b ∧ b.isConfigured = line.isConfigured := by
  obtain ⟨b, hb, rfl⟩ := Option.map_eq_some_iff.mp h
  exact ⟨b.binding, binding_of_bot hb, rfl⟩

theorem Settled.congr (h : s.Settled settings) {t : Scheduler} (hlink : t.link = s.link)
    (hcode : t.pairingCode = s.pairingCode) : t.Settled settings := by
  refine ⟨hlink ▸ h.idle, fun line hline => ?_, fun line hline hconfigured => ?_⟩
  · exact (congrArg Link.token hlink).trans (h.token line (hlink ▸ hline))
  · exact hcode.trans (h.code line (hlink ▸ hline) hconfigured)

/-- Hanging up changes nothing of what is remembered. -/
theorem Settled.hungUp (h : s.Settled settings) {t : Scheduler}
    (hlink : t.link = s.link.withLine (s.link.line.map BotLine.hungUp)) (hcode : t.pairingCode = s.pairingCode) :
    t.Settled settings := by
  have hold : ∀ line, t.link.line = some line → ∃ old, s.link.line = some old ∧
      old.isConfigured = line.isConfigured := by
    intro line hline
    rw [hlink] at hline
    obtain ⟨old, hold, rfl⟩ := Option.map_eq_some_iff.mp hline
    refine ⟨old, hold, ?_⟩
    rw [BotLine.hungUp]
    split <;> rfl
  refine ⟨fun m hm => h.idle m ?_, fun line hline => ?_, fun line hline hconfigured => ?_⟩
  · rwa [hlink] at hm
  · obtain ⟨old, hline, -⟩ := hold line hline
    exact (show t.token = s.token from congrArg Link.token hlink).trans (h.token old hline)
  · obtain ⟨old, hline, hsame⟩ := hold line hline
    exact hcode.trans (h.code old hline (hsame.trans hconfigured))

/-- A load that reads settings which ask for the same leaves the bot as it is. -/
theorem Settled.reads (h : s.Settled settings) (hs : s.core.Sound) {read : Settings} (hreads : s.Reads e n read)
    (hsame : read.AskTheSame settings) {line : BotLine} (hline : s.link.line = some line) :
    (s.after e).Settled settings ∧ ∀ p, ¬s.tie.Enters (s.after e).tie p := by
  obtain ⟨htoken, hcode⟩ := hsame.wanted
  have hwanted : read.wantedToken = s.token := htoken.trans (h.token line hline).symm
  have hlink : (s.after e).link = s.link := by
    have hheeds := hreads.turn.heeds hs hreads.running hreads.read hline
    generalize (s.after e).link = l at hheeds
    cases hheeds with
    | keeps _ => exact Link.without_of_not_mem (h.idle n)
    | renews hother _ => exact absurd hwanted hother
    | waits hother _ _ => exact absurd hwanted hother
  rcases hreads.cases hs hline with ⟨hwaits, -⟩ | ⟨-, hheeds⟩
  · exact absurd (hlink ▸ hwaits) (h.idle n)
  refine ⟨⟨hlink ▸ h.idle, fun line' hline' => ?_, fun line' hline' hconfigured => ?_⟩, fun p henters => ?_⟩
  · exact (congrArg Link.token hlink).trans (h.token line' (hlink ▸ hline'))
  · obtain ⟨b, hb, hsame⟩ := binding_of_line hline'
    exact (hheeds.code_eq hb (hsame.trans hconfigured)).trans hcode
  · cases hheeds with
    | keeps _ hfollows =>
      obtain ⟨⟨b, hb, hconfigured⟩, -, hother, -⟩ := hfollows.of_enters (henters.onBot_boundTo read.chatId)
      obtain ⟨b', hb', hsame⟩ := binding_of_line hline
      rw [Tie.onBot_of_some hb'] at hb
      obtain rfl := Option.some.inj hb
      rw [Tie.isConfigured_boundTo, hsame] at hconfigured
      exact hother (hcode.trans (h.code line hline hconfigured).symm)
    | renews hor _ _ _ _ => exact hor.elim (fun hother => hother hwanted) (h.idle n)

/-- While the store asks for the same, the bot stays settled, and only what lies around may make it pair. -/
theorem Settled.after (h : s.Settled settings) (hs : s.core.Sound) (hkeeps : e.KeepsLine s)
    (hstore : s.store.settings.AskTheSame settings) :
    (s.after e).Settled settings ∧ ((∀ scene, e ≠ .scene scene) → ∀ p, ¬s.tie.Enters (s.after e).tie p) := by
  by_cases hturn : ∃ n, s.TakesTurn e n
  · obtain ⟨n, hturn⟩ := hturn
    rcases hturn.idle_or_reads hs with ⟨hlink, htie⟩ | ⟨read, line, hreads, hline⟩
    · exact ⟨h.congr hlink (congrArg Tie.code htie), fun _ p => Tie.not_enters (congrArg Tie.binding htie)⟩
    · obtain ⟨hsettled, hcalm⟩ := h.reads hs hreads (hreads.eq_settings ▸ hstore) hline
      exact ⟨hsettled, fun _ => hcalm⟩
  · have hturn : ∀ n, ¬s.TakesTurn e n := fun n hn => hturn ⟨n, hn⟩
    have hhears : (∀ scene, e ≠ .scene scene) → s.tie.Hears (s.after e).tie := fun hscene =>
      hears_after hs hscene hturn fun n _ => h.idle n
    have hcode : (s.after e).pairingCode = s.pairingCode := by
      cases e with
      | scene scene => rfl
      | _ => exact (hhears fun scene => nofun).code_eq
    refine ⟨?_, fun hscene p => (hhears hscene).not_enters⟩
    have hstep := link_after hs hkeeps
    generalize hl : (s.after e).link = l at hstep
    cases hstep with
    | keeps => exact h.congr hl hcode
    | hangsUp _ => exact h.hungUp hl hcode
    | heeds hn _ => exact (hturn _ hn).elim
    | redials _ hwaits => exact absurd hwaits (h.idle _)

theorem Settled.afterAll {later : List Event} (h : s.Settled settings) (hs : s.core.Sound)
    (hfits : ∀ e ∈ later, e.Fits) (hkeeps : KeepsLine s later)
    (hstore : ∀ first e rest, later = first ++ e :: rest → (s.afterAll first).store.settings.AskTheSame settings) :
    (s.afterAll later).Settled settings := by
  induction later generalizing s with
  | nil => exact h
  | cons e rest ih =>
    refine ih (h.after hs hkeeps.1 (hstore [] e rest rfl)).1 (sound_after hs (hfits e List.mem_cons_self))
      (fun e' he' => hfits e' (List.mem_cons_of_mem _ he')) hkeeps.2 fun first e' rest' heq => ?_
    exact hstore (e :: first) e' rest' (congrArg (e :: ·) heq)

/-- A bot that is settled is not made to pair, but by what lies around, while the store asks for the same. -/
theorem Settled.calm (h : s.Settled settings) (hs : s.core.Sound) {first rest : List Event}
    (hfits : ∀ e' ∈ first ++ e :: rest, e'.Fits) (hkeeps : KeepsLine s (first ++ e :: rest))
    (hstore : ∀ f g r, first ++ e :: rest = f ++ g :: r → (s.afterAll f).store.settings.AskTheSame settings)
    (hscene : ∀ scene, e ≠ .scene scene) (p : Pairing) : ¬(s.afterAll first).EntersPairing e p := by
  have hfirst : ∀ f ∈ first, f.Fits := fun f hf => hfits f (List.mem_append_left _ hf)
  obtain ⟨hkept, hlast, -⟩ := hkeeps.append
  have hsettled := h.afterAll hs hfirst hkept fun f g r hf => hstore f g (r ++ e :: rest) (by simp [hf])
  have hcalm := (hsettled.after (sound_afterAll hs hfirst) hlast (hstore first e rest rfl)).2 hscene p
  exact fun henters => hcalm henters.enters

/-! ## Settings that are applied -/

/-- At an event, after others, the settings are applied that a load read: at its turn, or, where the load had to wait
for the bot to stop, when it goes on. -/
inductive Applies (new : Scheduler) (before : List Event) : Event → Nat → Settings → Prop
  | now {e : Event} {n : Nat} {settings : Settings} :
      (new.afterAll before).Reads e n settings → n ∉ ((new.afterAll before).after e).link.waiting →
      Applies new before e n settings
  | later {first wait : List Event} {turn : Event} {n : Nat} {settings : Settings} :
      before = first ++ turn :: wait → (new.afterAll first).Reads turn n settings →
      n ∈ (new.afterAll before).link.waiting → Applies new before (.alarm (.call n)) n settings

/-- A load that waits for the bot to stop has read settings before. -/
theorem IsNew.reads_of_waiting {new : Scheduler} (hnew : IsNew new) {before : List Event}
    (hfits : ∀ e ∈ before, e.Fits) (hkeeps : KeepsLine new before) (hn : n ∈ (new.afterAll before).link.waiting) :
    ∃ first turn wait settings, before = first ++ turn :: wait ∧ (new.afterAll first).Reads turn n settings := by
  induction before using List.reverseRecOn with
  | nil =>
    obtain ⟨call, hcall, -⟩ := hn
    rw [show (new.afterAll []).calls = [] from congrArg Core.calls hnew.core] at hcall
    cases hcall
  | append_singleton es e ih =>
    have hes : ∀ e' ∈ es, e'.Fits := fun e' he' => hfits e' (List.mem_append_left _ he')
    obtain ⟨hkeeps, hlast⟩ := hkeeps.append
    rw [afterAll_append] at hn
    by_cases hold : n ∈ (new.afterAll es).link.waiting
    · obtain ⟨first, turn, wait, settings, rfl, hreads⟩ := ih hes hkeeps hold
      exact ⟨first, turn, wait ++ [e], settings, by simp, hreads⟩
    · have hs := sound_afterAll hnew.sound hes
      have hturn := (link_after hs hlast.1).takesTurn hn hold
      rcases hturn.idle_or_reads hs with ⟨hsame, -⟩ | ⟨settings, -, hreads, -⟩
      · exact absurd (hsame ▸ hn) hold
      · exact ⟨es, e, [], settings, rfl, hreads⟩

section Applied

variable {new : Scheduler} {before : List Event}

/-- What a load carries that waited for the bot is what it read at its turn. -/
theorem carries_of_reads (hnew : IsNew new) {first wait : List Event} {turn : Event}
    (hfits : ∀ e ∈ first ++ turn :: wait, e.Fits) (hkeeps : KeepsLine new (first ++ turn :: wait))
    (hreads : (new.afterAll first).Reads turn n settings) :
    (new.afterAll (first ++ turn :: wait)).Carries n settings := by
  have hfirst := sound_afterAll hnew.sound fun e he => hfits e (List.mem_append_left _ he)
  have hrest : ∀ e ∈ turn :: wait, e.Fits := fun e he => hfits e (List.mem_append_right _ he)
  rw [afterAll_append]
  exact (hreads.carries hfirst).afterAll (sound_after hfirst (hrest turn List.mem_cons_self))
    (fun e he => hrest e (List.mem_cons_of_mem _ he)) hkeeps.append.2.2

/-- Settings that are applied are heeded by the bot, if there is one. -/
theorem Applies.heeds (h : Applies new before e n settings) (hnew : IsNew new) (hfits : ∀ e ∈ before, e.Fits)
    (hkeeps : KeepsLine new before) {line : BotLine} (hline : (new.afterAll before).link.line = some line) :
    (new.afterAll before).tie.Heeds (new.afterAll before).link n settings ((new.afterAll before).after e).tie := by
  have hbefore := sound_afterAll hnew.sound hfits
  cases h with
  | now hreads hdone =>
    rcases hreads.cases hbefore hline with ⟨hwaits, -⟩ | ⟨-, hheeds⟩
    · exact absurd hwaits hdone
    · exact hheeds
  | later heq hreads hwaits =>
    subst heq
    obtain ⟨b, hb, -⟩ := Option.map_eq_some_iff.mp hline
    obtain ⟨call, hcall, rfl, hstage⟩ := (carries_of_reads hnew hfits hkeeps hreads).exists_call hwaits
    rw [after, ring, tie_endDrained, tie_followClearing]
    exact heeds_wakeCall hbefore hcall hstage hb

/-- No load waits for the bot once settings are applied, and their token is the one that is remembered. -/
theorem Applies.token_eq (h : Applies new before e n settings) (hnew : IsNew new) (hfits : ∀ e ∈ before, e.Fits)
    (hkeeps : KeepsLine new before) :
    (∀ m, m ∉ ((new.afterAll before).after e).link.waiting) ∧
      ∀ line, ((new.afterAll before).after e).link.line = some line →
        ((new.afterAll before).after e).token = settings.wantedToken := by
  have hbefore := sound_afterAll hnew.sound hfits
  cases h with
  | now hreads hdone =>
    have hnone := hreads.turn.not_waiting hbefore
    rcases hreads.link_cases hbefore with ⟨hsame, hline⟩ | hheeds
    · rw [hsame]
      exact ⟨hnone, fun line hsome => by cases hline.symm.trans hsome⟩
    · generalize hl : ((new.afterAll before).after e).link = l at hheeds hdone
      have htoken : ((new.afterAll before).after e).token = l.token := congrArg Link.token hl
      cases hheeds with
      | keeps hsame => exact ⟨fun m hm => hnone m hm.1, fun _ _ => htoken.trans hsame.symm⟩
      | renews _ _ => exact ⟨fun m hm => hnone m hm.1, fun _ _ => htoken⟩
      | waits _ _ _ => exact absurd (Set.mem_insert n _) hdone
  | later heq hreads hwaits =>
    subst heq
    have hcarries := carries_of_reads hnew hfits hkeeps hreads
    obtain ⟨call, hcall, rfl, hstage⟩ := hcarries.exists_call hwaits
    have hlink := (link_ring hbefore (.call call.number)).trans (link_wakeCall_of_hangingUp hbefore hcall hstage)
    refine ⟨fun m hm => ?_, fun line _ => (congrArg Link.token hlink).trans (hcarries.token hwaits)⟩
    rw [after, hlink] at hm
    exact hm.2 (eq_of_waiting hbefore hm.1 hwaits)

/-- Once settings are applied the bot is settled. -/
theorem Applies.settled (h : Applies new before e n settings) (hnew : IsNew new) (hfits : ∀ e ∈ before, e.Fits)
    (hkeeps : KeepsLine new (before ++ [e])) : ((new.afterAll before).after e).Settled settings := by
  obtain ⟨hbefore, hlast⟩ := hkeeps.append
  obtain ⟨hidle, htoken⟩ := h.token_eq hnew hfits hbefore
  refine ⟨hidle, htoken, fun line hline hconfigured => ?_⟩
  obtain ⟨old, hold⟩ := exists_line_before (sound_afterAll hnew.sound hfits) hlast.1 hline
  obtain ⟨b, hb, hsame⟩ := binding_of_line hline
  exact (h.heeds hnew hfits hbefore hold).code_eq hb (hsame.trans hconfigured)

/-- The bot once settings are applied, if it was not connected at first: it is configured only where they enable the
chat with a token that is not blank, and then it is so for that token and bound to their chat. -/
theorem Applies.bot (h : Applies new before e n settings) (hnew : IsNew new)
    (hoff : ∀ b, new.around.bot? = some b → b.line = .off) (hfits : ∀ e' ∈ before ++ [e], e'.Fits)
    (hkeeps : KeepsLine new (before ++ [e])) {b : ChatBot}
    (hb : ((new.afterAll before).after e).around.bot? = some b) (hconfigured : b.isConfigured = true) :
    settings.chatEnabled = true ∧ Text.isBlankText settings.botToken = false ∧
      b.application.map (·.token) = some (Text.trim settings.botToken) ∧ b.chatId = settings.chatId := by
  have hbefore : ∀ e' ∈ before, e'.Fits := fun e' he' => hfits e' (List.mem_append_left _ he')
  obtain ⟨hkept, hlast⟩ := hkeeps.append
  have hsettled := h.settled hnew hbefore hkeeps
  have hline := line_of_bot hb
  have htoken : ((new.afterAll before).after e).token = settings.wantedToken := hsettled.token _ hline
  -- what holds of the link at any time
  have hcoherent := isCoherent_afterAll hnew.sound (hnew.isCoherent hoff) hfits hkeeps
  have hused := isUsed_afterAll hnew.sound (isUsed_of_off hoff) hfits hkeeps
  rw [afterAll_append] at hcoherent hused
  have hwanted := hused _ hline hconfigured hsettled.idle
  rw [show ((new.afterAll before).afterAll [e]).link.token = _ from htoken] at hwanted
  obtain ⟨henabled, hblank, htrim⟩ := Settings.of_wantedToken hwanted
  refine ⟨henabled, hblank, ?_, ?_⟩
  · have hfit := hcoherent _ hline
    obtain ⟨token, hsome⟩ := Option.isSome_iff_exists.mp (hfit.configured.symm.trans hconfigured)
    have heq := hfit.token hsettled.idle token hsome
    rw [show ((new.afterAll before).afterAll [e]).link.token = _ from htoken, htrim, Text.trim_trim] at heq
    exact hsome.trans (congrArg some heq)
  · obtain ⟨old, hold⟩ := exists_line_before (sound_afterAll hnew.sound hbefore) hlast.1 hline
    exact (h.heeds hnew hbefore hkept hold).chatId_eq (binding_of_bot hb) hconfigured

/-- An event that makes the bot pair applies settings, and pairs for their code. -/
theorem EntersPairing.applies {p : Pairing} (h : (new.afterAll before).EntersPairing e p) (hnew : IsNew new)
    (hfits : ∀ e' ∈ before, e'.Fits) (hkeeps : KeepsLine new (before ++ [e])) (hscene : ∀ scene, e ≠ .scene scene) :
    ∃ n settings, Applies new before e n settings ∧ Text.isBlankText settings.pairingCode = false ∧
      p.code = Text.upper (Text.trim settings.pairingCode) := by
  obtain ⟨hkept, hlast⟩ := hkeeps.append
  have hs := sound_afterAll hnew.sound hfits
  have henters := h.enters
  have happlied : ∀ {n settings line}, Applies new before e n settings →
      (new.afterAll before).link.line = some line → ∃ n settings, Applies new before e n settings ∧
        Text.isBlankText settings.pairingCode = false ∧ p.code = Text.upper (Text.trim settings.pairingCode) := by
    intro n settings line happlies hline
    obtain ⟨hcode, hupper⟩ := (happlies.heeds hnew hfits hkept hline).of_enters henters
    exact ⟨n, settings, happlies, eq_false_of_ne_true fun hblank => hcode (Text.trim_eq_empty_iff.mpr hblank), hupper⟩
  by_cases hturn : ∃ n, (new.afterAll before).TakesTurn e n
  · obtain ⟨n, hturn⟩ := hturn
    rcases hturn.idle_or_reads hs with ⟨-, htie⟩ | ⟨settings, line, hreads, hline⟩
    · exact (Tie.not_enters (congrArg Tie.binding htie) henters).elim
    · rcases hreads.cases hs hline with ⟨-, -, -, htie⟩ | ⟨hdone, -⟩
      · exact (Tie.not_enters (congrArg Tie.binding htie) henters).elim
      · exact happlied (.now hreads hdone) hline
  · have hturn : ∀ n, ¬(new.afterAll before).TakesTurn e n := fun n hn => hturn ⟨n, hn⟩
    by_cases hwaits : ∃ n, e = .alarm (.call n) ∧ n ∈ (new.afterAll before).link.waiting
    · obtain ⟨n, rfl, hwaits⟩ := hwaits
      obtain ⟨first, turn, wait, settings, rfl, hreads⟩ := hnew.reads_of_waiting hfits hkept hwaits
      obtain ⟨⟨b, hb, -⟩, -⟩ := h
      obtain ⟨line, hline⟩ := exists_line_before hs hlast.1 (line_of_bot hb)
      exact happlied (.later rfl hreads hwaits) hline
    · have hwaits : ∀ n, e = .alarm (.call n) → n ∉ (new.afterAll before).link.waiting :=
        fun n he hn => hwaits ⟨n, he, hn⟩
      exact ((hears_after hs hscene hturn hwaits).not_enters henters).elim

/-- Once settings are applied nothing makes the bot pair while the store asks for the same, but what lies around. -/
theorem Applies.calm (h : Applies new before e n settings) (hnew : IsNew new) {later : List Event}
    (hfits : ∀ e' ∈ before ++ e :: later, e'.Fits) (hkeeps : KeepsLine new (before ++ e :: later))
    (hstore : ∀ first e' rest, later = first ++ e' :: rest →
      (new.afterAll (before ++ e :: first)).store.settings.AskTheSame settings)
    {first rest : List Event} {e' : Event} (heq : later = first ++ e' :: rest) (hscene : ∀ scene, e' ≠ .scene scene)
    (p : Pairing) : ¬(new.afterAll (before ++ e :: first)).EntersPairing e' p := by
  subst heq
  have hbefore : ∀ f ∈ before, f.Fits := fun f hf => hfits f (List.mem_append_left _ hf)
  have hafter : ∀ f ∈ e :: (first ++ e' :: rest), f.Fits := fun f hf => hfits f (List.mem_append_right _ hf)
  have hsplit : before ++ e :: (first ++ e' :: rest) = (before ++ [e]) ++ (first ++ e' :: rest) := by simp
  have hsettled := h.settled hnew hbefore (hsplit ▸ hkeeps).append.1
  rw [afterAll_append]
  exact hsettled.calm (sound_after (sound_afterAll hnew.sound hbefore) (hafter e List.mem_cons_self))
    (fun f hf => hafter f (List.mem_cons_of_mem _ hf)) hkeeps.append.2.2
    (fun f g r hf => afterAll_append new before (e :: f) ▸ hstore f g r hf) hscene p

end Applied

/-- In every history of a new scheduler whose bot was not connected at first, whatever the settings, the messages, the
passing of time and the failures of the network: once settings are applied the bot is configured only if they enable
the chat with a token that is not blank, and then for that token and bound to their chat; the scheduler makes the bot
pair only where it applies settings with a code that is not blank, for that code; and it does so no more while the
store keeps asking for the same. -/
theorem IsNew.follows_settings {new : Scheduler} (hnew : IsNew new)
    (hoff : ∀ b, new.around.bot? = some b → b.line = .off) {before later : List Event} {e : Event}
    (hfits : ∀ e' ∈ before ++ e :: later, e'.Fits) (hkeeps : KeepsLine new (before ++ e :: later)) :
    (∀ n settings b, Applies new before e n settings → ((new.afterAll before).after e).around.bot? = some b →
      (b.isConfigured = true → settings.chatEnabled = true ∧ Text.isBlankText settings.botToken = false ∧
        b.application.map (·.token) = some (Text.trim settings.botToken) ∧ b.chatId = settings.chatId) ∧
      (settings.chatEnabled = false ∨ Text.isBlankText settings.botToken = true → b.isConfigured = false)) ∧
    (∀ p, (∀ scene, e ≠ .scene scene) → (new.afterAll before).EntersPairing e p →
      ∃ n settings, Applies new before e n settings ∧ Text.isBlankText settings.pairingCode = false ∧
        p.code = Text.upper (Text.trim settings.pairingCode)) ∧
    ∀ n settings, Applies new before e n settings →
      (∀ first e' rest, later = first ++ e' :: rest →
        (new.afterAll (before ++ e :: first)).store.settings.AskTheSame settings) →
      ∀ first e' rest, later = first ++ e' :: rest → (∀ scene, e' ≠ .scene scene) →
        ∀ p, ¬(new.afterAll (before ++ e :: first)).EntersPairing e' p := by
  have hsplit : before ++ e :: later = (before ++ [e]) ++ later := by simp
  have hfits' : ∀ e' ∈ before ++ [e], e'.Fits := fun e' he' =>
    hfits e' (hsplit ▸ List.mem_append_left later he')
  have hkeeps' : KeepsLine new (before ++ [e]) := (hsplit ▸ hkeeps).append.1
  have hbefore : ∀ e' ∈ before, e'.Fits := fun e' he' => hfits e' (List.mem_append_left _ he')
  refine ⟨fun n settings b h hb => ?_, fun p hscene h => h.applies hnew hbefore hkeeps' hscene,
    fun n settings h hstore first e' rest heq hscene => h.calm hnew hfits hkeeps hstore heq hscene⟩
  have hbot := h.bot hnew hoff hfits' hkeeps' hb
  refine ⟨hbot, fun hidle => eq_false_of_ne_true fun hconfigured => ?_⟩
  obtain ⟨henabled, hblank, -⟩ := hbot hconfigured
  rcases hidle with hdisabled | hempty
  · cases henabled.symm.trans hdisabled
  · cases hblank.symm.trans hempty

/-- Settings with a token, a chat and a pairing code. -/
def codedSettings : Settings :=
  { botToken := " 123:abc ", chatEnabled := true, chatId := some 5, pairingCode := " abc-234 " }

/-- A new scheduler with a bot, and settings for it. -/
def withCode : Scheduler :=
  { ofRows [] (some {}) with store := { saved := some codedSettings } }

theorem follows_settings_withCode :
    (∃ b, (withCode.after .start).around.bot? = some b ∧ b.isConfigured = true ∧
      b.application.map (·.token) = some "123:abc" ∧ b.chatId = some 5) ∧
      ∀ p, ¬(withCode.afterAll [.start, .alarm (.call 0)]).EntersPairing .reload p := by
  have hnew : IsNew withCode := ⟨rfl, (isNew_ofRows (by simp) none).keyed, rfl, rfl, rfl⟩
  have hoff : ∀ b, withCode.around.bot? = some b → b.line = .off := by
    rintro b hb
    obtain rfl := Option.some.inj hb
    rfl
  have hdone : 0 ∉ ((withCode.afterAll []).after .start).link.waiting := by
    rintro ⟨call, hcall, -, hstage⟩
    have hgoes : ∀ call ∈ (withCode.after .start).calls, call.stage.isHangingUp = false := by decide +kernel
    cases (hgoes call hcall).symm.trans hstage
  have happlies : Applies withCode [] .start 0 codedSettings := .now ⟨.start rfl rfl, .inl rfl, rfl⟩ hdone
  obtain ⟨hbot, -, hcalm⟩ := @IsNew.follows_settings withCode hnew hoff [] [.alarm (.call 0), .reload] .start
    (by simp [Event.Fits]) (by simp [KeepsLine, Event.KeepsLine])
  have htrim : Text.trim " 123:abc " = "123:abc" := by decide +kernel
  have hscene : ∀ scene, Event.reload ≠ .scene scene := by
    intro scene h
    cases h
  refine ⟨?_, hcalm 0 codedSettings happlies (fun first e' rest heq => ?_) [.alarm (.call 0)] .reload [] rfl hscene⟩
  · have hconfigured : ((withCode.after .start).around.bot?.map (·.isConfigured)) = some true := by decide +kernel
    obtain ⟨b, hb, hconfigured⟩ := Option.map_eq_some_iff.mp hconfigured
    obtain ⟨-, -, htoken, hchat⟩ := (hbot 0 codedSettings b happlies hb).1 hconfigured
    exact ⟨b, hb, hconfigured, htoken.trans (congrArg some htrim), hchat⟩
  · rcases first with _ | ⟨f, _ | ⟨g, more⟩⟩
    · exact ⟨by decide +kernel, by decide +kernel, by decide +kernel⟩
    · obtain ⟨rfl, -⟩ := List.cons.inj heq
      exact ⟨by decide +kernel, by decide +kernel, by decide +kernel⟩
    · simp at heq

end Scheduler

end Deskhand
