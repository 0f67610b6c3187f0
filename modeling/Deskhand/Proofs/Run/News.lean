import Deskhand.Proofs.Block.Bare
import Deskhand.Proofs.Run.Course

/-!
# New videos are told once

A chain of a trigger, a check of a channel and a message that asks for what the check found (`NewsChain`) tells
of each new video of the channel once, and is silent otherwise. Three things have to agree for it: the check has
no value when nothing is new or the request fails, a template that asks for the last value has nothing to say
when there is none, and an address in a template cannot be taken for a reference. Main statements:

* `mem_withReferences`: a character that no reference holds stays when references are resolved;
* `render_address`: a template that asks for the last value says something once an address was recorded;
* `run_on`: what one forced run sends, and what it leaves noted of the channel;
* `told_once`: what each of a number of forced runs sends.
-/

namespace Deskhand

/-! ## Templates that ask for an address -/

/-- A character outside the marked stretches stays, and so does one that the texts in their places have. -/
theorem mem_substitute {marked? : List Char → Option (Nat × List Char)} {c : Char}
    (hmarked : ∀ cs size new, marked? cs = some (size, new) → 0 < size ∧ (c ∈ cs.take size → c ∈ new))
    {n : Nat} {cs : List Char} (h : c ∈ cs.drop n) : c ∈ substitute marked? n cs := by
  induction cs generalizing n with
  | nil => simp at h
  | cons d rest ih =>
    cases n with
    | succ n => exact ih (by simpa using h)
    | zero =>
      simp only [List.drop_zero] at h
      simp only [substitute]
      cases hm : marked? (d :: rest) with
      | none =>
        rcases List.mem_cons.mp h with rfl | hrest
        · exact List.mem_cons_self
        · exact List.mem_cons_of_mem _ (ih (by simpa using hrest))
      | some m =>
        obtain ⟨size, new⟩ := m
        obtain ⟨hpos, hnew⟩ := hmarked _ _ _ hm
        obtain ⟨k, rfl⟩ : ∃ k, size = k + 1 := ⟨size - 1, by omega⟩
        -- a stretch takes its own characters away; the rest of the list is gone through further
        rw [← List.take_append_drop (k + 1) (d :: rest)] at h
        rcases List.mem_append.mp h with hin | hafter
        · exact List.mem_append_left _ (hnew hin)
        · exact List.mem_append_right _ (ih (by simpa using hafter))

namespace Template

/-- The stretch of a reference: braces around characters that a reference may have. -/
theorem take_of_referenceAt? {cs inner : List Char} (h : referenceAt? cs = some inner) :
    cs.take (referenceLength + 2) = '{' :: inner ++ ['}'] ∧ inner.all inReference = true := by
  rw [referenceAt?.eq_def] at h
  split at h
  · next cs =>
    dsimp only at h
    split at h
    · next hcond =>
      obtain rfl := Option.some.inj h
      simp only [Bool.and_eq_true, beq_iff_eq] at hcond
      obtain ⟨⟨-, hall⟩, hclose⟩ := hcond
      refine ⟨?_, hall⟩
      have htake : cs.take (referenceLength + 1) = cs.take referenceLength ++ ['}'] := by
        rw [List.take_add_one, hclose, Option.toList_some]
      rw [show referenceLength + 2 = (referenceLength + 1) + 1 from rfl, List.take_succ_cons, htake,
        List.cons_append]
    · cases h
  · cases h

/-- Whether a character stands in no reference. -/
def isOutside (c : Char) : Bool :=
  !inReference c && c != '{' && c != '}'

/-- A character that no reference holds stays when references are resolved. -/
theorem mem_withReferences (value : String → String) {template : String} {c : Char}
    (hout : isOutside c = true) (h : c ∈ template.toList) : c ∈ (withReferences value template).toList := by
  simp only [isOutside, Bool.and_eq_true, bne_iff_ne, Bool.not_eq_true'] at hout
  obtain ⟨⟨hc, hopen⟩, hclose⟩ := hout
  rw [withReferences, String.toList_ofList]
  refine mem_substitute (fun cs size new hm => ?_) (by simpa using h)
  obtain ⟨inner, hinner, hm⟩ := Option.map_eq_some_iff.mp hm
  obtain ⟨htake, hall⟩ := take_of_referenceAt? hinner
  have hsize : size = referenceLength + 2 := by
    split at hm <;> exact (congrArg Prod.fst hm).symm
  subst hsize
  refine ⟨by decide, fun hmem => ?_⟩
  rw [htake] at hmem
  have hmem : c ∈ inner := by simpa [hopen, hclose] using hmem
  exact absurd (List.all_eq_true.mp hall c hmem) (by simp [hc])

/-- The value recorded last is put into a template that asks for it. -/
theorem mem_withLast {new template : String} {c : Char} (hasks : asksForLast template = true)
    (h : c ∈ new.toList) : c ∈ (withLast new template).toList := by
  rw [withLast, String.toList_ofList]
  rw [asksForLast] at hasks
  generalize template.toList = cs at hasks
  induction cs with
  | nil => cases hasks
  | cons d rest ih =>
    simp only [substitute, lastAt?]
    cases hm : Text.afterChars? lastMarker (d :: rest) with
    | some after => exact List.mem_append_left _ h
    | none =>
      simp only [Text.occursIn, hm, Option.isSome_none, Bool.false_or] at hasks
      exact List.mem_cons_of_mem _ (ih hasks)

/-- A template that asks for the last value has nothing to say when there is none. -/
theorem render_nothing {template : String} (hasks : asksForLast template = true) (format : ListFormat) :
    render template {} format = .skip := by
  rw [render, hasks]
  rfl

/-- A template that asks for the last value says something once an address was recorded. -/
theorem render_address {template : String} (hasks : asksForLast template = true) (format : ListFormat)
    (c : Context) (name : String) (id : Value) :
    ∃ text, render template (c.record name (.text (Videos.address id))) format = .text text ∧
      Text.isBlankText text = false := by
  rw [render, hasks]
  refine ⟨_, rfl, ?_⟩
  have hfront : ∀ front back : String, 'h' ∈ front.toList → 'h' ∈ (front ++ back).toList := by
    intro front back h
    rw [String.toList_append]
    exact List.mem_append_left _ h
  have hin : 'h' ∈ (Videos.address id).toList := hfront _ _ (by simp)
  have hlast : 'h' ∈ (withLast (Videos.address id) template).toList := mem_withLast hasks hin
  have hout : isOutside 'h' = true := by decide +kernel
  refine Bool.eq_false_iff.mpr fun hblank => ?_
  have hblank := List.all_eq_true.mp hblank 'h' (mem_withReferences _ hout hlast)
  exact absurd hblank (by decide +kernel)

end Template

/-! ## One check -/

namespace Videos

/-- The id that a check of a channel fetches; nothing when no video is listed or the request fails. -/
def fetched? (web : Web) (channel key : String) : Option Value :=
  match latest (web.send (request channel key)).1 with
  | .ok id => id
  | .error _ => none

/-- Whether an id that was fetched is new after the one that was seen last. -/
def isNews (last id : Option Value) : Bool :=
  id.any fun id => !last.any (·.equal id)

/-- The id that counts as seen last once another one was fetched. An id equal to the last one is no other. -/
def seen (last id : Option Value) : Option Value :=
  if isNews last id then id else last

/-- What a check that meets no fault answers, and what it leaves noted of the channel. -/
theorem check_spec {web : Web} {memory : VideoMemory} {channel key : String} (hchannel : isChannel channel = true)
    (hok : ∀ fault, (check web memory channel key).1 ≠ .error fault) :
    let last := memory.find? channel
    let id := fetched? web channel key
    (check web memory channel key).1 = .ok (if isNews last id then id.map address else none) ∧
      (check web memory channel key).2.2.find? channel = seen last id := by
  rcases hlatest : latest (web.send (request channel key)).1 with fault | (_ | id)
  · have hfailed : fault.isFailedRequest = true := by
      cases hfailed : fault.isFailedRequest with
      | true => rfl
      | false => exact absurd (by simp [check, hchannel, hlatest, hfailed]) (hok fault)
    simp [check, hchannel, fetched?, hlatest, hfailed, isNews, seen]
  · simp [check, hchannel, fetched?, hlatest, isNews, seen]
  · simp only [check, hchannel, ↓reduceIte, fetched?, hlatest, commit, isNews, seen, Option.any_some]
    cases (memory.find? channel).any fun last => last.equal id with
    | true => simp
    | false => simp [Entries.find?_put]

/-- What counts as seen last after some ids were fetched. -/
def lastSeen (last : Option Value) (ids : List (Option Value)) : Option Value :=
  ids.foldl seen last

/-- The last id that was fetched, or the one before all of them. -/
def lastFetched (last : Option Value) (ids : List (Option Value)) : Option Value :=
  ids.foldl (fun last id => id.or last) last

/-- Whether an id is a text, if there is one. -/
def IsText (id : Option Value) : Prop :=
  ∀ v, id = some v → ∃ s, v = .text s

/-- Only a text equals a text, and only itself. -/
theorem equal_text {s : String} {v : Value} : (Value.text s).equal v = true ↔ v = .text s := by
  cases v with
  | text t => exact beq_iff_eq.trans ⟨fun h => h ▸ rfl, fun h => (Value.text.inj h).symm⟩
  | _ => simp [Value.equal, Value.scalarEqual, Value.ratio?]

/-- Of texts, a new id is one that differs from the last one. -/
theorem isNews_text {last id : Option Value} (hlast : IsText last) :
    isNews last id = true ↔ ∃ v, id = some v ∧ last ≠ some v := by
  cases id with
  | none => simp [isNews]
  | some v =>
    cases last with
    | none => simp [isNews]
    | some l =>
      obtain ⟨s, rfl⟩ := hlast l rfl
      have hne : (Value.text s).equal v = false ↔ ¬ .text s = v := by
        rw [← Bool.not_eq_true, equal_text]
        exact not_congr eq_comm
      simp [isNews, hne]

theorem seen_text {last id : Option Value} (hlast : IsText last) : seen last id = id.or last := by
  cases id with
  | none => simp [seen, isNews]
  | some v =>
    rw [seen]
    split
    · rfl
    · next hold =>
      rw [isNews_text hlast] at hold
      have hsame : last = some v := by simpa using hold
      rw [hsame]
      rfl

/-- Of texts, the id seen last is the last one that was fetched. -/
theorem lastSeen_text {last : Option Value} {ids : List (Option Value)} (hlast : IsText last)
    (hids : ∀ id ∈ ids, IsText id) : lastSeen last ids = lastFetched last ids ∧ IsText (lastSeen last ids) := by
  induction ids generalizing last with
  | nil => exact ⟨rfl, hlast⟩
  | cons id rest ih =>
    have hor : IsText (id.or last) := by
      cases id with
      | none => exact hlast
      | some v => exact hids _ List.mem_cons_self
    rw [lastSeen, lastFetched, List.foldl_cons, List.foldl_cons, seen_text hlast]
    exact ih hor fun id hid => hids id (List.mem_cons_of_mem _ hid)

end Videos

/-- A chain that tells of new videos: a trigger, a check of a channel, and a message that asks for what the
check found. -/
structure NewsChain where
  trigger : Block
  check : Block
  message : Block
  channel : String
  template : String
  isTrigger : trigger.isTrigger = true
  isCheck : check.kind = .videoCheck
  hasChannel : check.param? "ChannelId" = some channel
  isChannel : Videos.isChannel channel = true
  isMessage : message.kind = .chatSend
  hasTemplate : message.param? "Message" = some template
  asksForLast : Template.asksForLast template = true

namespace NewsChain

/-- The blocks of the chain. -/
def blocks (n : NewsChain) : List Block :=
  [n.trigger, n.check, n.message]

/-- The same chain with other ids of its blocks. -/
def withIds (n : NewsChain) (a b c : String) : NewsChain :=
  { n with
    trigger := { n.trigger with id := a }
    check := { n.check with id := b }
    message := { n.message with id := c } }

/-- How the items of a list stand in the message. -/
def format (n : NewsChain) : ListFormat :=
  .ofName (n.message.param "ListFormat" "NewLine")

theorem isRunnable (n : NewsChain) : Chain.IsRunnable n.blocks := by
  refine ⟨n.trigger, [n.check, n.message], rfl, n.isTrigger, fun b hb => ?_⟩
  rcases List.mem_cons.mp hb with rfl | hb
  · rw [Block.isTrigger, n.isCheck]
    rfl
  · rw [List.mem_singleton.mp hb, Block.isTrigger, n.isMessage]
    rfl

/-- Whatever ids are drawn, a text that holds the chain holds it but for its ids. -/
theorem read_again {n : NewsChain} {ids ids' : IdSupply} {text : String}
    (hread : Chain.read ids text = .ok (n.blocks, ids')) (supply : IdSupply) :
    ∃ a b c rest, Chain.read supply text = .ok ((n.withIds a b c).blocks, rest) := by
  have hbare := Chain.bare_read supply ids text
  rw [hread] at hbare
  cases h : Chain.read supply text with
  | error refusal => simp [h, Except.map] at hbare
  | ok r =>
    obtain ⟨blocks, rest⟩ := r
    simp only [h, Except.map, Except.ok.injEq, NewsChain.blocks, List.map_cons, List.map_nil] at hbare
    obtain ⟨t, blocks, rfl, ht, hbare⟩ := List.map_eq_cons_iff.mp hbare
    obtain ⟨y, blocks, rfl, hy, hbare⟩ := List.map_eq_cons_iff.mp hbare
    obtain ⟨m, blocks, rfl, hm, hbare⟩ := List.map_eq_cons_iff.mp hbare
    obtain rfl := List.map_eq_nil_iff.mp hbare
    have hid : ∀ b b' : Block, b.bare = b'.bare → b = { b' with id := b.id } := by
      intro b b' hb
      simp only [Block.bare, Block.mk.injEq, true_and] at hb
      rw [← hb.1, ← hb.2]
    refine ⟨t.id, y.id, m.id, rest, ?_⟩
    have hblocks : (n.withIds t.id y.id m.id).blocks =
        [{ n.trigger with id := t.id }, { n.check with id := y.id }, { n.message with id := m.id }] := rfl
    rw [hblocks, ← hid t _ ht, ← hid y _ hy, ← hid m _ hm]

end NewsChain

/-! ## One run -/

/-- What the catalogue of videos has noted of a channel. -/
def Surroundings.noted (w : Surroundings) (channel : String) : Option Value :=
  match w.videos with
  | some (.live _ memory) => memory.find? channel
  | _ => none

/-- Surroundings in which a check of the channel has a key and meets no fault, and a message can be sent. -/
structure Occasion (n : NewsChain) where
  surroundings : Surroundings
  web : Web
  memory : VideoMemory
  key : String
  bot : ChatBot
  chat : Int
  isLive : surroundings.videos = some (.live web memory)
  hasKey : Action.catalogueKey? n.check surroundings Settings.videoKey = some key
  isAnswered : ∀ fault, (Videos.check web memory n.channel key).1 ≠ .error fault
  isBot : surroundings.chat = some (.bot bot)
  isConfigured : bot.isConfigured = true
  isPaired : bot.chatId = some chat
  isSending : surroundings.network.fails .send = false

namespace Occasion

variable {n : NewsChain}

/-- The id that the check of a run on this occasion fetches, if it fetches one. -/
def fetched? (o : Occasion n) : Option Value :=
  Videos.fetched? o.web n.channel o.key

/-- The address that the check reports, if it reports one. -/
def address? (o : Occasion n) : Option String :=
  if Videos.isNews (o.surroundings.noted n.channel) o.fetched? then o.fetched?.map Videos.address else none

/-- What the occasion is when the chain has other ids of its blocks and was read. -/
def afterReading (o : Occasion n) (s : Scenario) (ids : IdSupply) (a b c : String) :
    Occasion (n.withIds a b c) where
  surroundings := Execution.afterReading s ids o.surroundings
  web := o.web
  memory := o.memory
  key := o.key
  bot := o.bot
  chat := o.chat
  isLive := by
    rw [Execution.afterReading, Execution.reportText]
    split <;> exact o.isLive
  hasKey := by
    rw [Execution.afterReading, Execution.reportText]
    split <;> exact o.hasKey
  isAnswered := o.isAnswered
  isBot := by
    rw [Execution.afterReading, Execution.reportText]
    split <;> exact o.isBot
  isConfigured := o.isConfigured
  isPaired := o.isPaired
  isSending := by
    rw [Execution.afterReading, Execution.reportText]
    split <;> exact o.isSending

theorem noted_eq (o : Occasion n) : o.surroundings.noted n.channel = o.memory.find? n.channel := by
  rw [Surroundings.noted, o.isLive]

/-- The check reports the address of a new video and records it, or has no value. It leaves the chat as it is. -/
theorem perform_check (o : Occasion n) (c : Context) :
    ∃ w, w.chat = o.surroundings.chat ∧ w.network = o.surroundings.network ∧
      w.noted n.channel = Videos.seen (o.surroundings.noted n.channel) o.fetched? ∧
      Action.perform n.check c o.surroundings =
        match o.address? with
        | none => ⟨.finished (.ok .null), c, w⟩
        | some url => ⟨.finished (.ok (.text url)), c.record n.check.id (.text url), w⟩ := by
  obtain ⟨hfound, hnoted⟩ := Videos.check_spec n.isChannel o.isAnswered
  rw [← o.noted_eq] at hfound hnoted
  rcases hcheck : Videos.check o.web o.memory n.channel o.key with ⟨outcome, web, memory⟩
  rw [hcheck] at hfound hnoted
  obtain rfl : outcome = .ok o.address? := hfound
  refine ⟨{ o.surroundings with videos := some (.live web memory) }, rfl, rfl, hnoted, ?_⟩
  simp only [Action.perform, n.isCheck, Action.checkVideo, n.hasChannel, o.hasKey, o.isLive, Surroundings.checkVideos,
    hcheck, Except.map]
  cases o.address? <;> rfl

end Occasion

namespace NewsChain

/-- The message says nothing when nothing was recorded. -/
theorem perform_message_nothing (n : NewsChain) (w : Surroundings) :
    Action.perform n.message {} w = ⟨.finished (.ok .null), {}, w⟩ := by
  simp only [Action.perform, n.isMessage, Action.sendChat, n.hasTemplate, Template.render_nothing n.asksForLast]

/-- The message that is sent once the address of a video was recorded. -/
theorem perform_message (n : NewsChain) (c : Context) (id : Value) {w : Surroundings} {bot : ChatBot} {chat : Int}
    (hbot : w.chat = some (.bot bot)) (hconfigured : bot.isConfigured = true) (hpaired : bot.chatId = some chat)
    (hsending : w.network.fails .send = false) :
    ∃ text, Template.render n.template (c.record n.check.id (.text (Videos.address id))) n.format = .text text ∧
      Action.perform n.message (c.record n.check.id (.text (Videos.address id))) w =
        ⟨.finished (.ok .null), c.record n.check.id (.text (Videos.address id)),
          { w with network := { w.network with sent := w.network.sent ++ [⟨chat, text, none⟩] } }⟩ := by
  obtain ⟨text, hrender, hblank⟩ :=
    Template.render_address n.asksForLast n.format c n.check.id id
  refine ⟨text, hrender, ?_⟩
  rw [NewsChain.format] at hrender
  simp [Action.perform, n.isMessage, Action.sendChat, n.hasTemplate, hrender, hblank, hbot, hconfigured,
    Surroundings.sendChat, ChatBot.send, hpaired, hsending]

end NewsChain

namespace Execution

/-- What a run of the chain tells on an occasion, when it goes from one state of the surroundings to another:
one message to the bound chat if the id that was fetched is new, and none otherwise. -/
structure Tells {n : NewsChain} (o : Occasion n) (w w' : Surroundings) : Prop where
  /-- The id counts as seen from now on. -/
  noted : w'.noted n.channel = Videos.seen (w.noted n.channel) o.fetched?
  silent : Videos.isNews (w.noted n.channel) o.fetched? = false → w'.network.sent = w.network.sent
  told : ∀ id, o.fetched? = some id → Videos.isNews (w.noted n.channel) (some id) = true → ∃ name text,
    Template.render n.template (Context.record {} name (.text (Videos.address id))) n.format = .text text ∧
    w'.network.sent = w.network.sent ++ [⟨o.chat, text, none⟩]

/-- Two actions that are performed at once. -/
theorem perform_two {a b : Block} {v v' : Value} {name : String} {c c₁ c₂ : Context} {w w₁ w₂ : Surroundings}
    (ha : Action.perform a c w = ⟨.finished (.ok v), c₁, w₁⟩)
    (hb : Action.perform b c₁ w₁ = ⟨.finished (.ok v'), c₂, w₂⟩) :
    perform name [a, b] c w = (.ended true, w₂.report .info source (about name " executed")) := by
  rw [perform_cons_done (congrArg Performance.progress ha), ha,
    perform_cons_done (congrArg Performance.progress hb), hb]
  rfl

/-- The two actions of the chain. -/
theorem perform_on {n : NewsChain} (o : Occasion n) (name : String) :
    ∃ w, perform name [n.check, n.message] {} o.surroundings = (.ended true, w) ∧ Tells o o.surroundings w := by
  obtain ⟨w, hchat, hnetwork, hnoted, hcheck⟩ := o.perform_check {}
  rcases hnews : Videos.isNews (o.surroundings.noted n.channel) o.fetched? with _ | _
  · -- nothing new: the check has no value, and the message nothing to say
    have haddress : o.address? = none := by
      rw [Occasion.address?, hnews]
      rfl
    rw [haddress] at hcheck
    refine ⟨_, perform_two hcheck (n.perform_message_nothing w), hnoted, fun _ => by rw [← hnetwork]; rfl, ?_⟩
    intro id hid hnew
    rw [hid, hnew] at hnews
    cases hnews
  · obtain ⟨id, hid⟩ : ∃ id, o.fetched? = some id := by
      cases hid : o.fetched? with
      | none => simp [hid, Videos.isNews] at hnews
      | some id => exact ⟨id, rfl⟩
    have hsending : w.network.fails .send = false := hnetwork ▸ o.isSending
    obtain ⟨text, hrender, hmessage⟩ :=
      n.perform_message {} id (hchat.trans o.isBot) o.isConfigured o.isPaired hsending
    have haddress : o.address? = some (Videos.address id) := by
      rw [Occasion.address?, hnews, hid]
      rfl
    rw [haddress] at hcheck
    refine ⟨_, perform_two hcheck hmessage, hnoted, ?_, ?_⟩
    · intro hold
      rw [hnews] at hold
      cases hold
    · intro id' hid' _
      obtain rfl := Option.some.inj (hid.symm.trans hid')
      exact ⟨n.check.id, text, hrender, by rw [← hnetwork]; rfl⟩

/-- What a forced run of the chain does on an occasion. -/
theorem run_on {s : Scenario} {n : NewsChain} {ids ids' : IdSupply}
    (hread : Chain.read ids s.blocks = .ok (n.blocks, ids')) (o : Occasion n) :
    (runToEnd s true [] o.surroundings).1 = .ok true ∧
      Tells o o.surroundings (runToEnd s true [] o.surroundings).2 := by
  obtain ⟨a, b, c, rest, hread⟩ := NewsChain.read_again hread o.surroundings.ids
  obtain ⟨w, hperform, hnoted, hsilent, htold⟩ := perform_on (o.afterReading s rest a b c) s.name
  have hstart : start s true [] o.surroundings = (.ok (.ended true), w) := by
    rw [start_of_runnable true [] hread (NewsChain.isRunnable _)]
    simp only [mayStart, ↓reduceIte]
    exact congrArg (fun p => (Except.ok p.1, p.2)) hperform
  have hrun := runToEnd_of_ended (congrArg Prod.fst hstart)
  rw [hstart] at hrun
  have hlast : (o.afterReading s rest a b c).surroundings.noted (n.withIds a b c).channel =
      o.surroundings.noted n.channel :=
    (o.afterReading s rest a b c).noted_eq.trans o.noted_eq.symm
  have hsent : (o.afterReading s rest a b c).surroundings.network.sent = o.surroundings.network.sent := by
    simp only [Occasion.afterReading, afterReading, reportText]
    split <;> rfl
  rw [hlast] at hnoted hsilent htold
  rw [hsent] at hsilent htold
  rw [hrun]
  exact ⟨rfl, hnoted, hsilent, htold⟩

/-! ## Runs one after the other -/

/-- Occasions one after the other. What is noted of the channel on each of them is what a forced run on the one
before it left; anything else may change in between. -/
inductive Follow (s : Scenario) {n : NewsChain} : Option Value → List (Occasion n) → Prop
  | nil {last : Option Value} : Follow s last []
  | cons {o : Occasion n} {rest : List (Occasion n)} :
      Follow s ((runToEnd s true [] o.surroundings).2.noted n.channel) rest →
      Follow s (o.surroundings.noted n.channel) (o :: rest)

/-- What is noted of the channel on an occasion is the id that was seen last on those before it. -/
theorem noted_of_follow {s : Scenario} {n : NewsChain} {ids ids' : IdSupply}
    (hread : Chain.read ids s.blocks = .ok (n.blocks, ids')) {last : Option Value} {occasions : List (Occasion n)}
    (h : Follow s last occasions) {k : Nat} {o : Occasion n} (hk : occasions[k]? = some o) :
    o.surroundings.noted n.channel = Videos.lastSeen last ((occasions.take k).map (·.fetched?)) := by
  induction h generalizing k with
  | nil => cases hk
  | @cons first rest _ ih =>
    cases k with
    | zero =>
      obtain rfl := Option.some.inj hk
      rfl
    | succ k =>
      rw [ih (by simpa using hk), (run_on hread first).2.noted]
      rfl

/-- Forced runs of a chain that tells of new videos, one after the other. Every one of them succeeds. It sends
one message, made from the template and the address of the video, if its check fetches an id that is new after
the one seen last, and no message if that id is an old one, no video is listed or the request fails. Where ids
are texts, the new ones are those that differ from the last one that was fetched. -/
theorem told_once {s : Scenario} {n : NewsChain} {ids ids' : IdSupply}
    (hread : Chain.read ids s.blocks = .ok (n.blocks, ids')) {last : Option Value} {occasions : List (Occasion n)}
    (h : Follow s last occasions) {k : Nat} {o : Occasion n} (hk : occasions[k]? = some o) :
    let r := runToEnd s true [] o.surroundings
    let fetched := (occasions.take k).map (·.fetched?)
    r.1 = .ok true ∧
    (∀ id, o.fetched? = some id → Videos.isNews (Videos.lastSeen last fetched) (some id) = true → ∃ name text,
      Template.render n.template (Context.record {} name (.text (Videos.address id))) n.format = .text text ∧
      r.2.network.sent = o.surroundings.network.sent ++ [⟨o.chat, text, none⟩]) ∧
    (Videos.isNews (Videos.lastSeen last fetched) o.fetched? = false →
      r.2.network.sent = o.surroundings.network.sent) ∧
    (Videos.IsText last → (∀ id ∈ fetched, Videos.IsText id) →
      (Videos.isNews (Videos.lastSeen last fetched) o.fetched? = true ↔
        ∃ id, o.fetched? = some id ∧ Videos.lastFetched last fetched ≠ some id)) := by
  intro r fetched
  obtain ⟨hok, -, hsilent, htold⟩ := run_on hread o
  rw [noted_of_follow hread h hk] at hsilent htold
  refine ⟨hok, htold, hsilent, fun hlast hids => ?_⟩
  obtain ⟨hsame, htext⟩ := Videos.lastSeen_text hlast hids
  rw [← hsame]
  exact Videos.isNews_text htext

/-- A time of day that starts a check, and a message about what it found. -/
def tellingChain : NewsChain where
  trigger := ⟨.timeTrigger, "t", []⟩
  check := ⟨.videoCheck, "y", [("ChannelId", "UCa"), ("ApiKey", "k")]⟩
  message := ⟨.chatSend, "m", [("Message", "New: \x7bLastResult\x7d")]⟩
  channel := "UCa"
  template := "New: \x7bLastResult\x7d"
  isTrigger := rfl
  isCheck := rfl
  hasChannel := by decide +kernel
  isChannel := by decide +kernel
  isMessage := rfl
  hasTemplate := by decide +kernel
  asksForLast := by decide +kernel

/-- The scenario of that chain. -/
def telling : Scenario :=
  { id := "s"
    name := "Telling"
    blocks :=
      "[\x7b\"Type\":\"TimeTrigger\",\"Id\":\"t\"\x7d,\x7b\"Type\":\"YouTubeCheck\",\"Id\":\"y\"," ++
        "\"Parameters\":\x7b\"ChannelId\":\"UCa\",\"ApiKey\":\"k\"\x7d\x7d," ++
        "\x7b\"Type\":\"TelegramSend\",\"Id\":\"m\"," ++
        "\"Parameters\":\x7b\"Message\":\"New: \x7bLastResult\x7d\"\x7d\x7d]" }

theorem read_telling : Chain.read {} telling.blocks = .ok (tellingChain.blocks, {}) := by
  have h : (Chain.read {} telling.blocks).toOption = some (tellingChain.blocks, {}) := by decide +kernel
  exact eq_ok_of_toOption h

/-- An answer that lists one video. -/
def listing : Answer :=
  .reply 200 ("\x7b\"items\":[\x7b\"snippet\":\x7b\"resourceId\":" ++
    "\x7b\"videoId\":\"v\"\x7d\x7d\x7d]\x7d")

theorem latest_listing : Videos.latest listing = .ok (some (.text "v")) := by
  have h : (Videos.latest listing).toOption.any (·.any (Value.text "v").equal) = true := by decide +kernel
  cases hlatest : Videos.latest listing with
  | error fault => simp [hlatest, Except.toOption] at h
  | ok id =>
    cases id with
    | none => simp [hlatest, Except.toOption] at h
    | some v =>
      rw [hlatest] at h
      rw [Videos.equal_text.mp h]

/-- An occasion on which the catalogue lists that video. -/
def listed (memory : VideoMemory) : Occasion tellingChain where
  surroundings :=
    { clock := ⟨Clock.start, 0.0⟩
      chat := some (.bot { isConfigured := true, chatId := some 5 })
      videos := some (.live ⟨[listing], []⟩ memory) }
  web := ⟨[listing], []⟩
  memory := memory
  key := "k"
  bot := { isConfigured := true, chatId := some 5 }
  chat := 5
  isLive := rfl
  hasKey := by
    rw [Action.catalogueKey?, show tellingChain.check.param? "ApiKey" = some "k" by decide +kernel]
    rfl
  isAnswered := by
    simp [Videos.check, tellingChain.isChannel, Web.send, latest_listing]
  isBot := rfl
  isConfigured := rfl
  isPaired := rfl
  isSending := rfl

theorem fetched?_listed (memory : VideoMemory) : (listed memory).fetched? = some (.text "v") := by
  simp [Occasion.fetched?, Videos.fetched?, listed, Web.send, latest_listing]

/-- A video that is listed twice is told of the first time. -/
theorem told_once_listed :
    (∃ text, (runToEnd telling true [] (listed []).surroundings).2.network.sent = [⟨5, text, none⟩]) ∧
      (runToEnd telling true [] (listed [("UCa", .text "v")]).surroundings).1 = .ok true ∧
      (runToEnd telling true [] (listed [("UCa", .text "v")]).surroundings).2.network.sent = [] := by
  have hnoted : (runToEnd telling true [] (listed []).surroundings).2.noted tellingChain.channel =
      (listed [("UCa", .text "v")]).surroundings.noted tellingChain.channel := by
    rw [(run_on read_telling (listed [])).2.noted, fetched?_listed]
    rfl
  have hfollow : Follow telling none [listed [], listed [("UCa", .text "v")]] := by
    have hlast : (none : Option Value) = (listed []).surroundings.noted tellingChain.channel := rfl
    rw [hlast]
    refine .cons ?_
    rw [hnoted]
    exact .cons .nil
  obtain ⟨-, htold, -⟩ := told_once read_telling hfollow (k := 0) rfl
  obtain ⟨hok, -, hsilent, -⟩ := told_once read_telling hfollow (k := 1) rfl
  refine ⟨?_, hok, hsilent ?_⟩
  · obtain ⟨-, text, -, hsent⟩ := htold _ (fetched?_listed []) rfl
    exact ⟨text, hsent⟩
  · simp [fetched?_listed, Videos.lastSeen, Videos.seen, Videos.isNews, Videos.equal_text]

end Execution

end Deskhand
