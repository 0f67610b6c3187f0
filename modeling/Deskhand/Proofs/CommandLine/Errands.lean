import Deskhand.CommandLine.Console

/-!
# Errands and the store

An errand may print, change the console and end with a fault. Most errands only read the store (`Errand.Reads`);
those that write it do so when nothing can fail any more (`Errand.IsSafe`). Main statements:

* `Reads.bind`, `Reads.bind_safe`: what is put together from such errands;
* `saveSettings_apply`: what keeping settings does;
* `isSafe_saveSettings`, `isSafe_daemon_bind`: settings that are kept last, and what is done with the daemon.
-/

namespace Deskhand

theorem Daemon.engine_of_create {config : Config} {machine : Machine} {engine : Scheduler} {d : Daemon}
    (h : Daemon.create config machine engine = .ok d) : d.engine = engine := by
  rw [Daemon.create] at h
  cases hpid : machine.resolve config.runner.pidFile with
  | error fault => simp [hpid, bind, Except.bind] at h
  | ok pidFile =>
    cases hstatus : machine.resolve config.runner.statusFile with
    | error fault => simp [hpid, hstatus, bind, Except.bind] at h
    | ok statusFile =>
      simp only [hpid, hstatus, bind, Except.bind, pure, Except.pure, Except.ok.injEq] at h
      rw [← h]

/-! ## Errands that leave the store -/

namespace Errand

variable {α β : Type}

/-- The console that an errand leaves. -/
def left : EStateM.Result Fault Console α → Console
  | .ok _ c | .error _ c => c

/-- The status with which an errand ends, unless that is with a fault. -/
def exit? : EStateM.Result Fault Console Exit → Option Exit
  | .ok status _ => some status
  | .error _ _ => none

/-- An errand leaves the store as it is, however it ends. -/
def Reads (m : Errand α) : Prop :=
  ∀ c, (left (m c)).engine.store = c.engine.store

/-- An errand succeeds, or leaves the store as it is. -/
def IsSafe (m : Errand Exit) : Prop :=
  ∀ c, (∃ c', m c = .ok 0 c') ∨ (left (m c)).engine.store = c.engine.store

theorem Reads.isSafe {m : Errand Exit} (h : Reads m) : IsSafe m :=
  fun c => .inr (h c)

theorem reads_pure (a : α) : Reads (pure a) :=
  fun _ => rfl

theorem reads_get : Reads (get : Errand Console) :=
  fun _ => rfl

theorem reads_modify {f : Console → Console} (h : ∀ c, (f c).engine.store = c.engine.store) :
    Reads (modify f : Errand Unit) :=
  h

theorem bind_of_ok {m : Errand α} {f : α → Errand β} {c c' : Console} {a : α} (h : m c = .ok a c') :
    (m >>= f) c = f a c' := by
  simp only [bind, EStateM.bind, h]

theorem bind_of_error {m : Errand α} {f : α → Errand β} {c c' : Console} {fault : Fault}
    (h : m c = .error fault c') : (m >>= f) c = .error fault c' := by
  simp only [bind, EStateM.bind, h]

/-- What neither of two errands changes about the console, they do not change one after the other. -/
theorem left_bind {γ : Type} (view : Console → γ) {m : Errand α} {f : α → Errand β}
    (hm : ∀ c, view (left (m c)) = view c) (hf : ∀ a c, view (left (f a c)) = view c) (c : Console) :
    view (left ((m >>= f) c)) = view c := by
  have hc := hm c
  cases h : m c with
  | ok a c' =>
    rw [h] at hc
    rw [bind_of_ok h]
    exact (hf a c').trans hc
  | error fault c' =>
    rw [h] at hc
    rw [bind_of_error h]
    exact hc

theorem Reads.bind {m : Errand α} {f : α → Errand β} (hm : Reads m) (hf : ∀ a, Reads (f a)) :
    Reads (m >>= f) :=
  left_bind (·.engine.store) hm hf

/-- What leaves the store as it is and then succeeds or does so again. -/
theorem Reads.bind_safe {m : Errand α} {f : α → Errand Exit} (hm : Reads m) (hf : ∀ a, IsSafe (f a)) :
    IsSafe (m >>= f) := by
  intro c
  have hc := hm c
  cases h : m c with
  | ok a c' =>
    rw [h] at hc
    rw [bind_of_ok h]
    exact (hf a c').imp id fun hsame => hsame.trans hc
  | error fault c' =>
    rw [h] at hc
    rw [bind_of_error h]
    exact .inr hc

theorem reads_ofExcept (result : Except Fault α) : Reads (ofExcept result) := by
  cases result <;> exact fun _ => rfl

theorem reads_print (text : String) : Reads (print text) :=
  reads_modify fun _ => rfl

theorem reads_emit (fs : Fields) : Reads (emit fs) :=
  (reads_print _).bind fun _ => (reads_print _).bind fun _ => reads_pure _

theorem reads_fail (reason : String) : Reads (fail reason) :=
  reads_emit _

theorem reads_succeed (fs : Fields) : Reads (succeed fs) :=
  reads_emit _

theorem reads_explain (name words : String) : Reads (explain name words) :=
  (reads_print _).bind fun _ => reads_pure _

theorem reads_store : Reads store :=
  reads_get.bind fun _ => reads_pure _

theorem reads_setIds (ids : IdSupply) : Reads (setIds ids) :=
  reads_modify fun _ => rfl

/-- To print that something was done is a success. -/
theorem succeed_apply (fs : Fields) (c : Console) : ∃ c', succeed fs c = .ok 0 c' :=
  ⟨_, rfl⟩

theorem get_bind (f : Console → Errand α) (c : Console) : (get >>= f) c = f c c := rfl

/-- Settings are put into the store, or there is a fault and nothing happens. -/
theorem saveSettings_apply (settings : Settings) (c : Console) :
    saveSettings settings c =
      match c.engine.store.save settings with
      | (.ok _, store) => .ok () { c with engine := { c.engine with store := store } }
      | (.error fault, _) => .error fault c := by
  have hstore : store c = .ok c.engine.store c := rfl
  rw [saveSettings, bind_of_ok hstore]
  rcases c.engine.store.save settings with ⟨outcome, store⟩
  cases outcome <;> rfl

/-- Settings are kept and that is a success, or there is a fault and the store is as it was. -/
theorem isSafe_saveSettings (settings : Settings) (fs : Fields) :
    IsSafe (do saveSettings settings; succeed fs) := by
  intro c
  have hsave := saveSettings_apply settings c
  rcases hoc : c.engine.store.save settings with ⟨outcome, store⟩
  rw [hoc] at hsave
  cases outcome with
  | ok _ =>
    rw [bind_of_ok hsave]
    exact .inl (succeed_apply fs _)
  | error fault =>
    rw [bind_of_error hsave]
    exact .inr rfl

/-- An errand leaves everything as it is. -/
def Looks (m : Errand α) : Prop :=
  ∀ c, left (m c) = c

theorem Looks.reads {m : Errand α} (h : Looks m) : Reads m :=
  fun c => by rw [h c]

theorem Looks.bind {m : Errand α} {f : α → Errand β} (hm : Looks m) (hf : ∀ a, Looks (f a)) :
    Looks (m >>= f) :=
  left_bind id hm hf

theorem looks_ofExcept (result : Except Fault α) : Looks (ofExcept result) := by
  cases result <;> exact fun _ => rfl

theorem looks_get : Looks (get : Errand Console) :=
  fun _ => rfl

theorem looks_openStore : Looks openStore := by
  have hpure : ∀ config : Config, Looks (pure config) := fun _ _ => rfl
  exact (looks_get.bind fun _ => looks_ofExcept _).bind fun _ => looks_get.bind fun _ =>
    (looks_ofExcept _).bind fun _ => hpure _

theorem looks_daemon : Looks daemon :=
  looks_openStore.bind fun _ => looks_get.bind fun _ => looks_ofExcept _

/-- The daemon of the machine has the scheduler of the console. -/
theorem daemon_of_ok {c c' : Console} {d : Daemon} (h : daemon c = .ok d c') : c' = c ∧ d.engine = c.engine := by
  have hlooks := looks_openStore c
  cases hopen : openStore c with
  | error fault c₁ =>
    rw [daemon, bind_of_error hopen] at h
    cases h
  | ok config c₁ =>
    rw [hopen] at hlooks
    obtain rfl : c₁ = c := hlooks
    rw [daemon, bind_of_ok hopen, get_bind] at h
    cases hcreate : Daemon.create config c₁.machine c₁.engine with
    | error fault =>
      rw [hcreate] at h
      cases h
    | ok d' =>
      rw [hcreate] at h
      obtain ⟨rfl, rfl⟩ : d' = d ∧ c₁ = c' := by
        cases h
        exact ⟨rfl, rfl⟩
      exact ⟨rfl, Daemon.engine_of_create hcreate⟩

/-- What is done with the daemon of the machine. -/
theorem isSafe_daemon_bind {f : Daemon → Errand Exit}
    (hf : ∀ d c, d.engine = c.engine →
      (∃ c', f d c = .ok 0 c') ∨ (left (f d c)).engine.store = c.engine.store) :
    IsSafe (daemon >>= f) := by
  intro c
  cases h : daemon c with
  | error fault c' =>
    have hsame := looks_daemon.reads c
    rw [h] at hsame
    rw [bind_of_error h]
    exact .inr hsame
  | ok d c' =>
    obtain ⟨rfl, hd⟩ := daemon_of_ok h
    rw [bind_of_ok h]
    exact hf d c' hd

theorem reads_mapM {f : α → Errand β} (hf : ∀ a, Reads (f a)) (items : List α) : Reads (items.mapM f) := by
  induction items with
  | nil => exact reads_pure _
  | cons a rest ih =>
    rw [List.mapM_cons]
    exact (hf a).bind fun _ => ih.bind fun _ => reads_pure _

theorem reads_forIn {body : α → β → Errand (ForInStep β)} (hbody : ∀ a b, Reads (body a b)) (items : List α)
    (b : β) : Reads (forIn items b body) := by
  induction items generalizing b with
  | nil => exact reads_pure _
  | cons a rest ih =>
    rw [List.forIn_cons]
    refine (hbody a b).bind fun step => ?_
    cases step with
    | done b => exact reads_pure _
    | yield b => exact ih b

end Errand

end Deskhand
