import Deskhand.CommandLine.Perform
import Deskhand.Proofs.CommandLine.Errands
import Deskhand.Proofs.Daemon.Steps
import Mathlib.Logic.Function.Basic

/-!
# Settings that are rewritten by two

Whoever changes a setting reads all of them, edits what was read and keeps all of it. A `SettingsWriter` is one
that does so: a command that changes a setting, forgets the chat or waits for one, or the scheduler whose bot
was bound to a chat. Nothing keeps two of them from reading and writing in any order (`Interleaves`,
`Race.play`). Main statements:

* `SettingsWriter.finish_spec`: a writer that succeeds keeps what it read, with its own values in it;
* `SettingsWriter.finish_change` and those after it: one writer alone is the command, or the scheduler;
* `orders_of_interleaves`: the orders in which two writers read and write;
* `Race.settings_of_play`: what is in the settings after two writers of different fields, and what is lost;
* `Race.key_lost`: a change that is lost though it succeeds.
-/

namespace Deskhand

/-! ## Writers -/

/-- Whoever reads the settings, edits what was read and keeps all of it. -/
inductive SettingsWriter where
  /-- A command changes a setting. -/
  | change (c : Console) (name value : String)
  /-- A command forgets the chat. -/
  | disconnection (c : Console)
  /-- A command waits for a chat to send a code. -/
  | pairing (c : Console) (code : String) (seconds : Int)
  /-- The bot of a scheduler was bound to a chat. -/
  | binding (s : Scheduler) (chat : Int)

/-- The values that are given to settings. -/
abbrev SettingsEdit := SettingName → Option Value

namespace SettingsEdit

/-- A chat was bound. -/
def bound (chat : Int) : SettingsEdit
  | .chatId => some (.int chat)
  | .pairingCode => some (.text "")
  | _ => none

/-- A chat was bound, and it is to be used. -/
def paired (chat : Int) : SettingsEdit
  | .chatEnabled => some (.bool true)
  | f => bound chat f

/-- The chat was forgotten. -/
def disconnected : SettingsEdit
  | .botToken | .pairingCode => some (.text "")
  | .chatId => some .null
  | .chatEnabled => some (.bool false)
  | _ => none

/-- One setting was changed. -/
def changed (field : SettingName) (v : Value) : SettingsEdit :=
  fun f => if f = field then some v else none

/-- The settings are others after an edit: those that it gives a value have this value, and the rest is as it was. -/
def Turns (edit : SettingsEdit) (before after : Settings) : Prop :=
  ∀ f, after.get f = (edit f).getD (before.get f)

/-- The settings have the values of an edit. -/
def Holds (edit : SettingsEdit) (settings : Settings) : Prop :=
  ∀ f v, edit f = some v → settings.get f = v

variable {edit : SettingsEdit} {before after : Settings}

theorem Turns.holds (h : edit.Turns before after) : edit.Holds after := by
  intro f v hv
  rw [h f, hv]
  rfl

theorem Turns.get_of_none {f : SettingName} (h : edit.Turns before after) (hf : edit f = none) :
    after.get f = before.get f := by
  rw [h f, hf]
  rfl

end SettingsEdit

/-- The same console over another store. -/
def Console.over (c : Console) (store : Store) : Console :=
  { c with engine := { c.engine with store := store } }

namespace SettingsWriter

/-- The settings as a writer reads them, unless the store is out of order. -/
def read (store : Store) : SettingsWriter → Option Settings
  | change _ _ _ | disconnection _ | pairing _ _ _ => some store.settings
  | binding s _ => (s.ask .settings (.ok store.settings)).toOption

/-- The rest of a command, once the settings were read: whether it succeeds, and the store that it leaves. -/
def finishErrand (errand : Errand Errand.Exit) (c : Console) : Bool × Store :=
  (Errand.exit? (errand c) == some 0, (Errand.left (errand c)).engine.store)

/-- What a writer does with the settings that it read: whether it succeeds, and the store that it leaves. -/
def finish (settings : Settings) (store : Store) : SettingsWriter → Bool × Store
  | change c name value => finishErrand (Errand.keepChange name value settings) (c.over store)
  | disconnection c => finishErrand (Errand.keepDisconnected settings) (c.over store)
  | pairing c code seconds => finishErrand (Errand.awaitCode settings code seconds) (c.over store)
  | binding s chat =>
    match { s with store := store }.keep (settings.bound chat) with
    | .ok s => (true, s.store)
    | .error _ => (false, store)

/-- The settings that a writer gives a value. -/
def fields : SettingsWriter → List SettingName
  | change _ name _ => (SettingName.ofName? name).toList
  | disconnection _ => [.botToken, .chatId, .pairingCode, .chatEnabled]
  | pairing _ _ _ => [.chatId, .pairingCode, .chatEnabled]
  | binding _ _ => [.chatId, .pairingCode]

/-- The values that a writer gives them when it has read these settings, if it gets as far as that. -/
def edit? (settings : Settings) : SettingsWriter → Option SettingsEdit
  | change _ name value =>
    (SettingName.ofName? name).bind fun field =>
      (settings.change field value).toOption.map fun new => .changed field (new.get field)
  | disconnection _ => some .disconnected
  | pairing c code seconds =>
    match (c.engine.awaitPairing settings.botToken code seconds).1 with
    | .ok (some chat) => some (.paired chat)
    | _ => none
  | binding _ chat => some (.bound chat)

end SettingsWriter

/-! ## What a writer does -/

namespace Store

theorem settings_of_save {s s' : Store} {settings : Settings} {outcome : Unit}
    (h : s.save settings = (.ok outcome, s')) : s'.settings = settings ∧ s'.rows = s.rows := by
  rw [save] at h
  split at h
  · obtain ⟨-, rfl⟩ := Prod.mk.inj h
    exact ⟨rfl, rfl⟩
  · cases (Prod.mk.inj h).1

end Store

/-- Settings that a scheduler has kept. -/
theorem Scheduler.store_of_keep {s s' : Scheduler} {settings : Settings} (h : s.keep settings = .ok s') :
    s'.store.settings = settings ∧ s'.store.rows = s.store.rows := by
  rcases hsave : s.store.save settings with ⟨outcome, store⟩
  rw [keep, hsave] at h
  cases outcome with
  | error fault =>
    simp only [ask] at h
    split at h <;> cases h
  | ok _ =>
    simp only [ask] at h
    split at h
    · cases h
    · obtain rfl := Except.ok.inj h
      exact Store.settings_of_save hsave

namespace Errand

/-- A success after settings were kept. -/
theorem store_of_kept {settings : Settings} {fs : Fields} {c : Console}
    (h : exit? ((do saveSettings settings; succeed fs : Errand Exit) c) = some 0) :
    let store := (left ((do saveSettings settings; succeed fs : Errand Exit) c)).engine.store
    store.settings = settings ∧ store.rows = c.engine.store.rows := by
  have hsave := saveSettings_apply settings c
  rcases hkept : c.engine.store.save settings with ⟨outcome, store⟩
  rw [hkept] at hsave
  cases outcome with
  | error fault =>
    rw [bind_of_error hsave] at h
    cases h
  | ok _ =>
    rw [bind_of_ok hsave]
    exact Store.settings_of_save hkept

end Errand

theorem Settings.turns_change {settings new : Settings} {field : SettingName} {value : String}
    (h : settings.change field value = .ok new) : (SettingsEdit.changed field (new.get field)).Turns settings new := by
  intro f
  rw [SettingsEdit.changed]
  split
  · next hf =>
    rw [hf]
    rfl
  · next hf =>
    -- a field that is not the changed one is the same in what `change` makes, whichever field that is
    cases field with
    | chatId =>
      cases hchat : readChatId value with
      | error refusal =>
        rw [Settings.change, hchat] at h
        cases h
      | ok chat =>
        rw [Settings.change, hchat] at h
        obtain rfl := Except.ok.inj h
        cases f <;> first | exact absurd rfl hf | rfl
    | _ =>
      obtain rfl := Except.ok.inj h
      cases f <;> first | exact absurd rfl hf | rfl

theorem Settings.turns_bound (settings : Settings) (chat : Int) :
    (SettingsEdit.bound chat).Turns settings (settings.bound chat) := by
  intro f
  cases f <;> rfl

theorem Settings.turns_paired (settings : Settings) (chat : Int) :
    (SettingsEdit.paired chat).Turns settings { settings.bound chat with chatEnabled := true } := by
  intro f
  cases f <;> rfl

theorem Settings.turns_disconnected (settings : Settings) :
    SettingsEdit.disconnected.Turns settings settings.disconnected := by
  intro f
  cases f <;> rfl

namespace SettingsWriter

theorem eq_of_read {w : SettingsWriter} {store : Store} {settings : Settings} (h : w.read store = some settings) :
    settings = store.settings := by
  cases w with
  | binding s chat =>
    rw [read, Scheduler.ask] at h
    split at h
    · cases h
    · exact (Option.some.inj h).symm
  | _ => exact (Option.some.inj h).symm

/-- A writer gives a value to its fields and to no others. -/
theorem isSome_edit? {w : SettingsWriter} {settings : Settings} {edit : SettingsEdit}
    (h : w.edit? settings = some edit) (f : SettingName) : (edit f).isSome ↔ f ∈ w.fields := by
  cases w with
  | change c name value =>
    obtain ⟨field, hfield, h⟩ := Option.bind_eq_some_iff.mp h
    obtain ⟨new, -, rfl⟩ := Option.map_eq_some_iff.mp h
    simp only [fields, hfield, SettingsEdit.changed]
    split <;> simp_all
  | disconnection c =>
    obtain rfl := Option.some.inj h
    cases f <;> simp [SettingsEdit.disconnected, fields]
  | pairing c code seconds =>
    rw [edit?.eq_def] at h
    dsimp only at h
    split at h
    · obtain rfl := Option.some.inj h
      cases f <;> simp [SettingsEdit.paired, SettingsEdit.bound, fields]
    · cases h
  | binding s chat =>
    obtain rfl := Option.some.inj h
    cases f <;> simp [SettingsEdit.bound, fields]

/-- A command that waited for a chat and succeeds was sent the code by one, and has kept it. -/
theorem awaitCode_of_success {settings : Settings} {code : String} {seconds : Int} {c : Console}
    (h : Errand.exit? (Errand.awaitCode settings code seconds c) = some 0) :
    ∃ chat, (c.engine.awaitPairing settings.botToken code seconds).1 = .ok (some chat) ∧
      let store := (Errand.left (Errand.awaitCode settings code seconds c)).engine.store
      store.settings = { settings.bound chat with chatEnabled := true } ∧ store.rows = c.engine.store.rows := by
  rcases hwait : c.engine.awaitPairing settings.botToken code seconds with ⟨outcome, s⟩
  have hprint (text : String) : Errand.print text c = .ok () { c with output := c.output ++ text } := rfl
  rw [Errand.awaitCode, Errand.bind_of_ok (hprint _), Errand.get_bind] at h ⊢
  simp only [hwait] at h ⊢
  rcases outcome with fault | (_ | chat)
  · cases h
  · cases h
  · exact ⟨chat, rfl, Errand.store_of_kept h⟩

/-- A change that succeeds is one of a setting that there is, with a value that it can have, and has kept it. -/
theorem keepChange_of_success {settings : Settings} {name value : String} {c : Console}
    (h : Errand.exit? (Errand.keepChange name value settings c) = some 0) :
    ∃ field new, SettingName.ofName? name = some field ∧ settings.change field value = .ok new ∧
      let store := (Errand.left (Errand.keepChange name value settings c)).engine.store
      store.settings = new ∧ store.rows = c.engine.store.rows := by
  rw [Errand.keepChange] at h ⊢
  cases hfield : SettingName.ofName? name with
  | none =>
    rw [hfield] at h
    cases h
  | some field =>
    cases hchange : settings.change field value with
    | error refusal =>
      simp only [hfield, hchange] at h
      cases h
    | ok new =>
      simp only [hfield, hchange] at h ⊢
      exact ⟨field, new, rfl, hchange, Errand.store_of_kept h⟩

/-- A writer that succeeds has kept the settings that it read with its own values among them. -/
theorem finish_spec {w : SettingsWriter} {settings : Settings} {store store' : Store}
    (h : w.finish settings store = (true, store')) :
    ∃ edit, w.edit? settings = some edit ∧ edit.Turns settings store'.settings ∧ store'.rows = store.rows := by
  cases w with
  | change c name value =>
    obtain ⟨hexit, rfl⟩ := Prod.mk.inj h
    obtain ⟨field, new, hfield, hchange, hnew, hrows⟩ := keepChange_of_success (eq_of_beq hexit)
    refine ⟨.changed field (new.get field), ?_, ?_, hrows⟩
    · simp only [edit?, hfield, Option.bind_some, hchange]
      rfl
    · rw [hnew]
      exact Settings.turns_change hchange
  | disconnection c =>
    obtain ⟨hexit, rfl⟩ := Prod.mk.inj h
    obtain ⟨hnew, hrows⟩ := Errand.store_of_kept (eq_of_beq hexit)
    refine ⟨.disconnected, rfl, ?_, hrows⟩
    rw [Errand.keepDisconnected, hnew]
    exact settings.turns_disconnected
  | pairing c code seconds =>
    obtain ⟨hexit, rfl⟩ := Prod.mk.inj h
    obtain ⟨chat, hchat, hnew, hrows⟩ := awaitCode_of_success (eq_of_beq hexit)
    refine ⟨.paired chat, ?_, ?_, hrows⟩
    · have hchat : (c.engine.awaitPairing settings.botToken code seconds).1 = .ok (some chat) := hchat
      simp only [edit?, hchat]
    · rw [hnew]
      exact settings.turns_paired chat
  | binding s chat =>
    rw [finish] at h
    split at h
    · next s' hkeep =>
      obtain ⟨-, rfl⟩ := Prod.mk.inj h
      obtain ⟨hnew, hrows⟩ := Scheduler.store_of_keep hkeep
      refine ⟨.bound chat, rfl, ?_, hrows⟩
      rw [hnew]
      exact settings.turns_bound chat
    · cases (Prod.mk.inj h).1

/-! Nobody but the writer: what it reads and does is what the command or the scheduler does. -/

theorem finish_change (c : Console) (name value : String) :
    (change c name value).finish c.engine.store.settings c.engine.store =
      finishErrand (Errand.changeSetting name value) c := rfl

theorem finish_disconnection (c : Console) :
    (disconnection c).finish c.engine.store.settings c.engine.store =
      finishErrand Errand.disconnectChat c := rfl

theorem finish_pairing (c : Console) (code : String) (seconds : Int) :
    (pairing c code seconds).finish c.engine.store.settings c.engine.store =
      finishErrand (Errand.awaitCode c.engine.store.settings code seconds) c := rfl

/-- With no daemon, to bind a chat is to wait for a chat that sends a new code. -/
theorem pairChat_without_daemon {config : Config} {settings : Settings} {seconds : Option Int} {c c' : Console}
    {d : Daemon} (hdaemon : Errand.daemon { c with dice := (Pairing.freshCode c.dice).2 } = .ok d c')
    (hcheck : d.check.1 = false) :
    ∃ c'', c''.engine = c.engine ∧ Errand.pairChat config settings seconds c =
      Errand.awaitCode settings (Pairing.freshCode c.dice).1
        ((seconds.filter (· != 0)).getD config.chat.pairingSeconds) c'' := by
  rcases hcode : Pairing.freshCode c.dice with ⟨fresh, dice⟩
  rw [hcode] at hdaemon
  obtain ⟨rfl, hd⟩ := Errand.daemon_of_ok hdaemon
  have hdice : (modify fun c => { c with dice := dice } : Errand Unit) c = .ok () { c with dice := dice } := rfl
  have hengine := d.engine_check.1
  rcases hd' : d.check with ⟨isRunning, d'⟩
  rw [hd'] at hcheck hengine
  obtain rfl : isRunning = false := hcheck
  have hleave : Errand.leave d' { c with dice := dice } =
      .ok () { c with dice := dice, machine := d'.machine, engine := d'.engine } := rfl
  refine ⟨{ c with dice := dice, machine := d'.machine, engine := d'.engine }, hengine.trans hd, ?_⟩
  rw [Errand.pairChat, Errand.get_bind]
  simp only [hcode]
  rw [Errand.bind_of_ok hdice, Errand.bind_of_ok hdaemon]
  simp only [hd']
  rw [Errand.bind_of_ok hleave]
  rfl

theorem store_onPaired (s : Scheduler) (chat : Int) :
    (s.onPaired chat).store =
      match (binding s chat).read s.store with
      | none => s.store
      | some settings => ((binding s chat).finish settings s.store).2 := by
  rw [Scheduler.onPaired, read]
  rcases hask : s.ask .settings (.ok s.store.settings) with fault | settings
  · rfl
  · simp only [Except.bind, Except.toOption, finish]
    cases s.keep (settings.bound chat) <;> rfl

end SettingsWriter

/-! ## Two writers -/

/-- One of two. -/
inductive Side where
  | first
  | second
  deriving DecidableEq, Repr

namespace Side

/-- The other one. -/
def other : Side → Side
  | first => second
  | second => first

theorem eq_or_eq_other (x y : Side) : x = y ∨ x = y.other := by
  cases x <;> cases y <;> decide

theorem other_ne (x : Side) : x.other ≠ x := by
  cases x <;> decide

end Side

/-- One of two writers reads the settings, or does the rest of what it does. -/
inductive Access where
  | reads (x : Side)
  | writes (x : Side)
  deriving DecidableEq, Repr

/-- What one writer does, in order. -/
def accesses (x : Side) : List Access :=
  [.reads x, .writes x]

/-- A list has the members of two others, those of each in their order. -/
inductive Interleaves {α : Type} : List α → List α → List α → Prop where
  | nil : Interleaves [] [] []
  | left (a : α) {xs ys zs : List α} : Interleaves xs ys zs → Interleaves (a :: xs) ys (a :: zs)
  | right (a : α) {xs ys zs : List α} : Interleaves xs ys zs → Interleaves xs (a :: ys) (a :: zs)

/-- Two writers over one store: what each of them has read, and whether it has succeeded. -/
structure Race where
  store : Store
  copy : Side → Option Settings := fun _ => none
  done : Side → Option Bool := fun _ => none

namespace Race

/-- A writer reads the settings, or goes on with what it read. -/
def act (w : Side → SettingsWriter) (r : Race) : Access → Race
  | .reads x => { r with copy := Function.update r.copy x ((w x).read r.store) }
  | .writes x =>
    match r.copy x with
    | none => { r with done := Function.update r.done x (some false) }
    | some settings =>
      let (succeeds, store) := (w x).finish settings r.store
      { r with store := store, done := Function.update r.done x (some succeeds) }

/-- Two writers do what they do in an order. -/
def play (w : Side → SettingsWriter) (store : Store) (order : List Access) : Race :=
  order.foldl (act w) { store := store }

end Race

/-- What two writers do is done one after the other, or both read before one writes. -/
theorem orders_of_interleaves {order : List Access}
    (h : Interleaves (accesses .first) (accesses .second) order) :
    ∃ y : Side, order = accesses y.other ++ accesses y ∨
      ∃ x : Side, order = [.reads x, .reads x.other, .writes y.other, .writes y] := by
  rcases h with _ | ⟨_, h⟩ | ⟨_, h⟩
  · rcases h with _ | ⟨_, h⟩ | ⟨_, h⟩
    · rcases h with _ | _ | ⟨_, h⟩
      rcases h with _ | _ | ⟨_, h⟩
      cases h
      exact ⟨.second, .inl rfl⟩
    · rcases h with _ | ⟨_, h⟩ | ⟨_, h⟩
      · rcases h with _ | _ | ⟨_, h⟩
        cases h
        exact ⟨.second, .inr ⟨.first, rfl⟩⟩
      · rcases h with _ | ⟨_, h⟩ | _
        cases h
        exact ⟨.first, .inr ⟨.first, rfl⟩⟩
  · rcases h with _ | ⟨_, h⟩ | ⟨_, h⟩
    · rcases h with _ | ⟨_, h⟩ | ⟨_, h⟩
      · rcases h with _ | _ | ⟨_, h⟩
        cases h
        exact ⟨.second, .inr ⟨.second, rfl⟩⟩
      · rcases h with _ | ⟨_, h⟩ | _
        cases h
        exact ⟨.first, .inr ⟨.second, rfl⟩⟩
    · rcases h with _ | ⟨_, h⟩ | _
      rcases h with _ | ⟨_, h⟩ | _
      cases h
      exact ⟨.first, .inl rfl⟩

namespace Race

variable {w : Side → SettingsWriter} {r : Race} {x y : Side}

@[simp] theorem store_reads : (r.act w (.reads x)).store = r.store := rfl

@[simp] theorem done_reads : (r.act w (.reads x)).done = r.done := rfl

@[simp] theorem copy_reads : (r.act w (.reads x)).copy x = (w x).read r.store :=
  Function.update_self ..

theorem copy_reads_of_ne (h : y ≠ x) : (r.act w (.reads x)).copy y = r.copy y :=
  Function.update_of_ne h ..

@[simp] theorem copy_writes : (r.act w (.writes x)).copy = r.copy := by
  rw [act]
  split <;> rfl

theorem done_writes_of_ne (h : y ≠ x) : (r.act w (.writes x)).done y = r.done y := by
  rw [act]
  split <;> exact Function.update_of_ne h ..

/-- What a writer that succeeds does with what it read before. -/
theorem turns_writes (h : (r.act w (.writes x)).done x = some true) :
    ∃ copy edit, r.copy x = some copy ∧ (w x).edit? copy = some edit ∧
      edit.Turns copy (r.act w (.writes x)).store.settings ∧ (r.act w (.writes x)).store.rows = r.store.rows := by
  rw [act] at h ⊢
  split at h
  · simp at h
  · next copy hcopy =>
    rcases hfinish : (w x).finish copy r.store with ⟨succeeds, store⟩
    obtain rfl : succeeds = true := by simpa [hfinish] using h
    obtain ⟨edit, hedit, hturns, hrows⟩ := SettingsWriter.finish_spec hfinish
    exact ⟨copy, edit, hcopy, hedit, hturns, hrows⟩

/-- The values that a writer gives, by what it has read. -/
def Gives (w : Side → SettingsWriter) (r : Race) (x : Side) (edit : SettingsEdit) : Prop :=
  ∃ copy, r.copy x = some copy ∧ (w x).edit? copy = some edit

/-- What a writer that succeeds does with settings that it read in another store. -/
theorem gives_writes {store : Store} (hcopy : r.copy x = (w x).read store)
    (h : (r.act w (.writes x)).done x = some true) :
    ∃ edit, r.Gives w x edit ∧ edit.Turns store.settings (r.act w (.writes x)).store.settings ∧
      (r.act w (.writes x)).store.rows = r.store.rows := by
  obtain ⟨copy, edit, hsome, hedit, hturns, hrows⟩ := turns_writes h
  obtain rfl := SettingsWriter.eq_of_read (hcopy ▸ hsome)
  exact ⟨edit, ⟨_, hsome, hedit⟩, hturns, hrows⟩

theorem gives_of_copy {r r' : Race} {edit : SettingsEdit} (h : r.Gives w x edit) (hcopy : r'.copy x = r.copy x) :
    r'.Gives w x edit :=
  h.imp fun _ hcopy' => ⟨hcopy.trans hcopy'.1, hcopy'.2⟩

/-- One after the other: each edits what the one before it has left. -/
theorem course_of_serial {store : Store} (y : Side)
    (hdone : ∀ x, (play w store (accesses y.other ++ accesses y)).done x = some true) :
    let r := play w store (accesses y.other ++ accesses y)
    ∃ before last mid, r.Gives w y.other before ∧ r.Gives w y last ∧ before.Turns store.settings mid ∧
      last.Turns mid r.store.settings ∧ r.store.rows = store.rows := by
  have hne := y.other_ne
  let r₁ := act w { store := store } (.reads y.other)
  let r₂ := act w r₁ (.writes y.other)
  let r₃ := act w r₂ (.reads y)
  let r₄ := act w r₃ (.writes y)
  have hplay : play w store (accesses y.other ++ accesses y) = r₄ := rfl
  rw [hplay] at hdone ⊢
  have hdone₂ : r₂.done y.other = some true := (done_writes_of_ne (r := r₃) hne).symm.trans (hdone y.other)
  have hread₁ : r₁.copy y.other = (w y.other).read store := copy_reads
  obtain ⟨before, hbefore, hturns₂, hrows₂⟩ := gives_writes hread₁ hdone₂
  obtain ⟨last, hlast, hturns₄, hrows₄⟩ := gives_writes (r := r₃) copy_reads (hdone y)
  have hcopy : r₄.copy y.other = r₁.copy y.other := by
    rw [copy_writes, copy_reads_of_ne hne, copy_writes]
  exact ⟨before, last, _, gives_of_copy hbefore hcopy, gives_of_copy hlast (by rw [copy_writes]),
    hturns₂, hturns₄, hrows₄.trans hrows₂⟩

/-- Both read before one writes: each edits what was there at first, and the one that writes last keeps that. -/
theorem course_of_overlap {store : Store} (x y : Side)
    (hdone : ∀ z, (play w store [.reads x, .reads x.other, .writes y.other, .writes y]).done z = some true) :
    let r := play w store [.reads x, .reads x.other, .writes y.other, .writes y]
    ∃ before last, r.Gives w y.other before ∧ r.Gives w y last ∧ last.Turns store.settings r.store.settings ∧
      r.store.rows = store.rows := by
  let r₂ := act w (act w { store := store } (.reads x)) (.reads x.other)
  let r₃ := act w r₂ (.writes y.other)
  let r₄ := act w r₃ (.writes y)
  have hplay : play w store [.reads x, .reads x.other, .writes y.other, .writes y] = r₄ := rfl
  rw [hplay] at hdone ⊢
  have hcopy (z : Side) : r₂.copy z = (w z).read store := by
    rcases z.eq_or_eq_other x with rfl | rfl
    · exact (copy_reads_of_ne z.other_ne.symm).trans copy_reads
    · exact copy_reads
  have hdone₃ : r₃.done y.other = some true := (done_writes_of_ne y.other_ne).symm.trans (hdone y.other)
  obtain ⟨before, hbefore, -, hrows₃⟩ := gives_writes (hcopy y.other) hdone₃
  obtain ⟨last, hlast, hturns, hrows₄⟩ := gives_writes (r := r₃) (by rw [copy_writes, hcopy]) (hdone y)
  have hkept : r₄.copy = r₂.copy := by rw [copy_writes, copy_writes]
  exact ⟨before, last, gives_of_copy hbefore (congrFun hkept _),
    gives_of_copy hlast (by rw [copy_writes]), hturns, hrows₄.trans hrows₃⟩

variable {edit : SettingsEdit}

theorem Gives.mem_fields_iff (h : r.Gives w y edit) (f : SettingName) : f ∈ (w y).fields ↔ (edit f).isSome := by
  obtain ⟨copy, -, hedit⟩ := h
  exact (SettingsWriter.isSome_edit? hedit f).symm

theorem Gives.eq_none (h : r.Gives w y edit) {f : SettingName} (hf : f ∉ (w y).fields) : edit f = none := by
  rwa [h.mem_fields_iff, Option.not_isSome_iff_eq_none] at hf

/-- Two writers of different fields both succeed, whatever the order in which they read and write. The one that
writes last has its values kept, and what neither of them gives a value is as it was. The values of the other are
kept if it had written before the last one read; if both read before one wrote, they are lost: every field that
the last one gives no value is as it was. -/
theorem settings_of_play {store : Store} {order : List Access}
    (hfields : ∀ f ∈ (w .first).fields, f ∉ (w .second).fields)
    (horder : Interleaves (accesses .first) (accesses .second) order)
    (hdone : ∀ x, (play w store order).done x = some true) :
    let r := play w store order
    ∃ (y : Side) (before last : SettingsEdit),
      order.getLast? = some (.writes y) ∧ r.Gives w y.other before ∧ r.Gives w y last ∧
      last.Holds r.store.settings ∧
      (order = accesses y.other ++ accesses y → before.Holds r.store.settings) ∧
      (order ≠ accesses y.other ++ accesses y →
        ∀ f, f ∉ (w y).fields → r.store.settings.get f = store.settings.get f) ∧
      (∀ f, (∀ x, f ∉ (w x).fields) → r.store.settings.get f = store.settings.get f) ∧
      r.store.rows = store.rows := by
  obtain ⟨y, rfl | ⟨x, rfl⟩⟩ := orders_of_interleaves horder
  · obtain ⟨before, last, mid, hbefore, hlast, hturns, hturns', hrows⟩ := course_of_serial y hdone
    have hapart {f : SettingName} (hf : f ∈ (w y.other).fields) : f ∉ (w y).fields := by
      cases y with
      | first => exact fun hf' => hfields f hf' hf
      | second => exact hfields f hf
    refine ⟨y, before, last, by simp [accesses], hbefore, hlast, hturns'.holds, fun _ f v hv => ?_,
      fun h => absurd rfl h, fun f hf => ?_, hrows⟩
    · have hf : f ∈ (w y.other).fields := (hbefore.mem_fields_iff f).mpr (by rw [hv]; rfl)
      exact (hturns'.get_of_none (hlast.eq_none (hapart hf))).trans (hturns.holds f v hv)
    · exact (hturns'.get_of_none (hlast.eq_none (hf y))).trans (hturns.get_of_none (hbefore.eq_none (hf y.other)))
  · obtain ⟨before, last, hbefore, hlast, hturns, hrows⟩ := course_of_overlap x y hdone
    exact ⟨y, before, last, rfl, hbefore, hlast, hturns.holds, fun h => absurd h (by simp [accesses]),
      fun _ f hf => hturns.get_of_none (hlast.eq_none hf),
      fun f hf => hturns.get_of_none (hlast.eq_none (hf y)), hrows⟩

/-- A console over nothing but a store. -/
def console (store : Store) : Console :=
  { machine := { root := Path.ofText "/r", home := "/h" }
    engine := { times := {}, store := store, around := { clock := ⟨Clock.start, 0.0⟩ } } }

/-- A key is changed while the chat is forgotten. -/
def keyAndChat : Side → SettingsWriter
  | .first => .change (console {}) "tmdb_api_key" "k"
  | .second => .disconnection (console {})

/-- Both read, and the chat is forgotten last. -/
def bothRead : List Access :=
  [.reads .first, .reads .second, .writes .first, .writes .second]

theorem interleaves_bothRead : Interleaves (accesses .first) (accesses .second) bothRead :=
  .left _ (.right _ (.left _ (.right _ .nil)))

/-- The store once the settings hold a token. -/
def withToken : Store :=
  (Store.save {} { botToken := "t" }).2

theorem settings_of_play_bothRead :
    ∃ y, bothRead.getLast? = some (.writes y) ∧
      ∀ f, f ∉ (keyAndChat y).fields →
        (play keyAndChat withToken bothRead).store.settings.get f = withToken.settings.get f := by
  have hfields : ∀ f ∈ (keyAndChat .first).fields, f ∉ (keyAndChat .second).fields := by decide +kernel
  have hdone : ∀ x, (play keyAndChat withToken bothRead).done x = some true := by
    intro x
    cases x <;> decide +kernel
  obtain ⟨y, before, last, hlast, -, -, -, -, hlost, -⟩ :=
    settings_of_play hfields interleaves_bothRead hdone
  exact ⟨y, hlast, hlost (by cases y <;> decide)⟩

/-- A key that is changed while the chat is forgotten: both succeed, and the key is not in the settings. -/
theorem key_lost :
    Interleaves (accesses .first) (accesses .second) bothRead ∧
    (∀ f ∈ (keyAndChat .first).fields, f ∉ (keyAndChat .second).fields) ∧
    let r := play keyAndChat withToken bothRead
    r.done .first = some true ∧ r.done .second = some true ∧
      ∃ edit, r.Gives keyAndChat .first edit ∧ ¬ edit.Holds r.store.settings := by
  refine ⟨interleaves_bothRead, by decide +kernel, by decide +kernel, by decide +kernel,
    .changed .filmKey (.text "k"), ⟨withToken.settings, by decide +kernel, rfl⟩, fun h => ?_⟩
  have hempty : (play keyAndChat withToken bothRead).store.settings.filmKey = "" := by decide +kernel
  have hkey : (play keyAndChat withToken bothRead).store.settings.filmKey = "k" :=
    Value.text.inj (h .filmKey (.text "k") rfl)
  exact absurd (hempty.symm.trans hkey) (by decide)

end Race

end Deskhand
