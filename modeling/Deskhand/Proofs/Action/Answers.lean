import Deskhand.Action.Described
import Deskhand.Proofs.Number.Overflow
import Deskhand.Proofs.Run.Recorded

/-!
# Answers of actions

An action answers, and gives a reason where it fails, whatever its parameters, the context and the failures that devices
and services meet (`IsAnswered`). What they raise is caught and worded, so no reason is empty. Only a wait is different:
its length is taken as seconds where no fault is caught, so one that is too long for a double is not answered for.
Main statements:

* `isAnswered_perform`: an action that is no wait answers;
* `complete_of_tooLong`, `isAnswered_delay`: a wait is answered for unless it is too long;
* `complete_answers_iff`: which actions answer when they are performed to their end.
-/

namespace Deskhand

/-- The devices are those of the desk, and the catalogue of films is the program's own. -/
structure Surroundings.HasOwnServices (w : Surroundings) : Prop where
  input : ∃ fault, w.input = .real fault
  films : w.HasOwnFilms

namespace Action

/-- A reason that says something. -/
def IsGiven (reason : Option String) : Prop :=
  ∃ text, reason = some text ∧ text ≠ ""

/-- No fault is left open, and a failure has a reason. -/
structure IsAnswered (p : Progress) : Prop where
  settled : ∀ fault, p ≠ .raised fault
  reason : ∀ reason, p = .finished (.failed reason) → IsGiven reason

/-- What a device of the desk replies: a refusal has a reason, and a fault is none of an answer that was prepared. -/
structure IsOwn (reply : Except Fault Reply) : Prop where
  refusal : ∀ reason, reply = .ok (.refused reason) → IsGiven reason
  fault : ∀ v member, reply ≠ .error (.missingMember v member)

/-- The milliseconds of a wait are too many for a double in seconds: they reach the middle between the greatest finite
double and the power of two after it. -/
def IsTooLong (b : Block) : Prop :=
  ∃ raw millis, b.param? "Milliseconds" = some raw ∧ Integer.read? raw = some millis ∧
    ((1000 * (2 ^ 1024 - 2 ^ 970) : Nat) : Int) ≤ millis

variable {b : Block} {c : Context} {w : Surroundings}

/-! ## Reasons -/

theorem append_ne_empty {s : String} (h : s ≠ "") (t : String) : s ++ t ≠ "" := by
  intro hempty
  exact h (String.append_eq_empty_iff.mp hempty).1

theorem isGiven_some {text : String} (h : text ≠ "") : IsGiven (some text) :=
  ⟨text, rfl, h⟩

theorem isAnswered_fail {text : String} (h : text ≠ "") : IsAnswered (.finished (fail text)) where
  settled fault hraised := by cases hraised
  reason := by
    rintro reason hfail
    cases hfail
    exact isGiven_some h

theorem isAnswered_ok (v : Value) : IsAnswered (.finished (.ok v)) where
  settled fault hraised := by cases hraised
  reason reason hfail := by cases hfail

theorem isAnswered_waiting (seconds : Float) : IsAnswered (.waiting seconds) where
  settled fault hraised := by cases hraised
  reason reason hfail := by cases hfail

/-- The reply of a device of the desk makes an answer. -/
theorem IsOwn.isAnswered {reply : Except Fault Reply} (h : IsOwn reply) (what : String) :
    IsAnswered (ofReply what reply) := by
  cases reply with
  | ok reply =>
    cases reply with
    | done => exact isAnswered_ok _
    | refused reason =>
      refine ⟨fun fault hraised => (by cases hraised), fun reason' hreason => ?_⟩
      cases hreason
      exact h.refusal reason rfl
  | error fault =>
    rw [ofReply.eq_def]
    dsimp only
    split
    · next v member => exact absurd rfl (h.fault v member)
    · exact isAnswered_fail (append_ne_empty (by simp) _)

/-! ## The desk -/

theorem isOwn_done : IsOwn (.ok .done) where
  refusal reason hrefused := by cases hrefused
  fault v member hfault := by cases hfault

theorem isOwn_error {fault : Fault} (h : ∀ v member, fault ≠ .missingMember v member) : IsOwn (.error fault) where
  refusal reason hrefused := by cases hrefused
  fault v member hfault := h v member (Except.error.inj hfault)

theorem isOwn_refused {text : String} (h : text ≠ "") : IsOwn (.ok (.refused (some text))) where
  refusal := by
    rintro reason hrefused
    cases hrefused
    exact isGiven_some h
  fault v member hfault := by cases hfault

theorem isOwn_click (fault : Option String) (desk : Desk) (x y : Int) (button : String) :
    IsOwn (InputDevices.click (.real fault) desk x y button).1 := by
  unfold InputDevices.click
  cases MouseButton.ofName? button with
  | none => exact isOwn_refused (by simp)
  | some button =>
    cases fault with
    | none => exact isOwn_done
    | some reason => exact isOwn_error (by simp)

theorem isOwn_typeText (fault : Option String) (desk : Desk) (text : String) (keyByKey : Bool) :
    IsOwn (InputDevices.typeText (.real fault) desk text keyByKey).1 := by
  rw [InputDevices.typeText]
  split
  · exact isOwn_error (by simp)
  · exact isOwn_done

theorem isOwn_openPath (desk : Desk) (path : String) : IsOwn (Program.openPath desk path).1 := by
  rw [Program.openPath]
  split
  · exact isOwn_refused (append_ne_empty (by simp) _)
  · split
    · exact isOwn_done
    · exact isOwn_error (by simp)
    · exact isOwn_done

/-- Nothing is closed for a reason, or something is. -/
theorem isAnswered_closeName (desk : Desk) (name : String) :
    IsAnswered (ofClosing (Program.closeName desk name).1) := by
  rw [Program.closeName]
  split
  · exact isAnswered_fail (append_ne_empty (append_ne_empty (by simp) _) _)
  · exact isAnswered_ok _

/-! ## The actions one by one -/

theorem isAnswered_click (hown : w.HasOwnServices) : IsAnswered (click b w).1 := by
  obtain ⟨fault, hinput⟩ := hown.input
  rw [click]
  split
  · exact isAnswered_fail (by simp)
  · exact isAnswered_fail (by simp)
  · next x y _ _ =>
    have hreply := isOwn_click fault w.desk x y (b.param "Button" "Left")
    rw [← hinput] at hreply
    generalize w.input.click w.desk x y (b.param "Button" "Left") = reply at hreply
    exact hreply.isAnswered _

theorem isAnswered_typeText (hown : w.HasOwnServices) : IsAnswered (typeText b c w).1 := by
  obtain ⟨fault, hinput⟩ := hown.input
  rw [typeText]
  split
  · exact isAnswered_fail (by simp)
  · split
    · exact isAnswered_ok _
    · split
      · exact isAnswered_ok _
      · rw [hinput]
        exact (isOwn_typeText ..).isAnswered _

theorem isAnswered_process : IsAnswered (process b w).1 := by
  rw [process]
  split
  · exact isAnswered_fail (by simp)
  · dsimp only
    split
    · exact isAnswered_fail (by simp)
    · split
      · split
        · exact isAnswered_fail (by simp)
        · exact (isOwn_openPath ..).isAnswered _
      · exact isAnswered_closeName _ _
      · exact isAnswered_fail (append_ne_empty (by simp) _)

theorem isAnswered_checkVideo : IsAnswered (checkVideo b c w).progress := by
  rw [checkVideo]
  split
  · exact isAnswered_fail (by simp)
  · exact isAnswered_fail (by simp)
  · exact isAnswered_fail (by simp)
  · split
    · exact isAnswered_fail (append_ne_empty (by simp) _)
    · exact isAnswered_ok _
    · exact isAnswered_ok _

theorem isAnswered_checkFilms (hown : w.HasOwnServices) : IsAnswered (checkFilms b c w).progress := by
  rw [checkFilms]
  split
  · exact isAnswered_fail (by simp)
  · exact isAnswered_fail (by simp)
  · exact isAnswered_fail (by simp)
  · next genre key service _ _ hservice =>
    have hvalue := (checkFilms_own hown.films hservice genre (b.param "Period" "Week") (b.param "Region" "UA") key).2
    split
    · exact isAnswered_fail (append_ne_empty (by simp) _)
    · next films w' hcheck =>
      rw [hcheck] at hvalue
      rcases hvalue films rfl with rfl | ⟨items, rfl⟩
      · exact isAnswered_ok _
      · split
        · exact isAnswered_ok _
        · exact isAnswered_ok _

theorem isAnswered_sendChat : IsAnswered (sendChat b c w).1 := by
  rw [sendChat]
  split
  · exact isAnswered_fail (by simp)
  · split
    · exact isAnswered_ok _
    · split
      · exact isAnswered_ok _
      · split
        · exact isAnswered_fail (by simp)
        · exact isAnswered_fail (append_ne_empty (by simp) _)
        · split
          · exact isAnswered_fail (by simp)
          · dsimp only
            split
            · exact isAnswered_ok _
            · exact isAnswered_fail (by simp)

/-- An action that is no wait answers. -/
theorem isAnswered_perform (hown : w.HasOwnServices) (hkind : b.kind ≠ .delay) :
    IsAnswered (perform b c w).progress := by
  rw [perform]
  split
  · next hdelay => exact absurd hdelay hkind
  · exact isAnswered_click hown
  · exact isAnswered_typeText hown
  · exact isAnswered_process
  · exact isAnswered_checkVideo
  · exact isAnswered_checkFilms hown
  · exact isAnswered_sendChat
  · exact isAnswered_ok _

/-! ## Waits -/

theorem delay_of_tooLong (h : IsTooLong b) : ∃ fault, delay b = .raised fault := by
  obtain ⟨raw, millis, hraw, hmillis, hlong⟩ := h
  have hpos : 0 ≤ millis := Int.le_trans (Int.natCast_nonneg _) hlong
  have hnone : Binary.ofRatio? millis.toNat 1000 = none :=
    (Binary.ofRatio?_eq_none_iff (by decide)).mpr (Int.le_toNat hpos |>.mpr hlong)
  have hkept : (some millis).filter (0 ≤ ·) = some millis := by simp [Option.filter, hpos]
  rw [delay, hraw]
  dsimp only
  rw [hmillis, hkept]
  dsimp only
  rw [hnone]
  exact ⟨_, rfl⟩

theorem isAnswered_delay (h : ¬IsTooLong b) : IsAnswered (delay b) := by
  rw [delay]
  split
  · exact isAnswered_fail (by simp)
  · next raw hraw =>
    split
    · exact isAnswered_fail (append_ne_empty (by simp) _)
    · next millis hmillis =>
      obtain ⟨hread, hpos⟩ := Option.filter_eq_some_iff.mp hmillis
      split
      · exact isAnswered_waiting _
      · next hnone =>
        refine absurd ⟨raw, millis, hraw, hread, ?_⟩ h
        rw [← Int.le_toNat (by simpa using hpos)]
        exact (Binary.ofRatio?_eq_none_iff (by decide)).mp hnone

/-! ## Performing to the end -/

theorem complete_of_tooLong (hkind : b.kind = .delay) (h : IsTooLong b) :
    ∃ fault, (complete b c w).1 = .error fault := by
  obtain ⟨fault, hraised⟩ := delay_of_tooLong h
  refine ⟨fault, ?_⟩
  rw [complete, show perform b c w = ⟨.raised fault, c, w⟩ from by rw [perform, hkind, ← hraised]]

theorem IsAnswered.complete (h : IsAnswered (perform b c w).progress) :
    (∃ result, (complete b c w).1 = .ok result) ∧
      ∀ reason, (complete b c w).1 = .ok (.failed reason) → IsGiven reason := by
  rw [Action.complete]
  generalize perform b c w = performance at h
  obtain ⟨progress, c', w'⟩ := performance
  cases progress with
  | finished result =>
    refine ⟨⟨result, rfl⟩, fun reason hreason => h.reason reason ?_⟩
    exact congrArg Progress.finished (Except.ok.inj hreason)
  | waiting seconds => exact ⟨⟨_, rfl⟩, fun reason hreason => by cases hreason⟩
  | raised fault => exact absurd rfl (h.settled fault)

/-- An action answers iff it is not a wait that is too long, whatever its parameters, the context and the failures that
the program's own devices and services meet; and where it answers with a failure, it gives a reason. -/
theorem complete_answers_iff (b : Block) (c : Context) {w : Surroundings} (hown : w.HasOwnServices) :
    ((∃ result, (complete b c w).1 = .ok result) ↔ ¬(b.kind = .delay ∧ IsTooLong b)) ∧
      ∀ reason, (complete b c w).1 = .ok (.failed reason) → IsGiven reason := by
  by_cases hlong : b.kind = .delay ∧ IsTooLong b
  · obtain ⟨fault, hraised⟩ := complete_of_tooLong (c := c) (w := w) hlong.1 hlong.2
    rw [hraised]
    refine ⟨iff_of_false ?_ (not_not_intro hlong), fun reason hreason => by cases hreason⟩
    rintro ⟨result, hresult⟩
    cases hresult
  · have hanswered : IsAnswered (perform b c w).progress := by
      by_cases hkind : b.kind = .delay
      · rw [perform, hkind]
        exact isAnswered_delay fun h => hlong ⟨hkind, h⟩
      · exact isAnswered_perform hown hkind
    exact ⟨iff_of_true hanswered.complete.1 hlong, hanswered.complete.2⟩

/-- Typing on a desk whose keyboard fails is answered with a failure that has a reason. -/
theorem complete_answers_failing_keyboard :
    let b : Block := ⟨.keyboardInput, "k", [("Text", "Hi")]⟩
    let w : Surroundings := { clock := { origin := Clock.start }, input := .real (some "no keyboard") }
    ∃ reason, (complete b {} w).1 = .ok (.failed reason) ∧ IsGiven reason := by
  intro b w
  have hown : w.HasOwnServices := ⟨⟨_, rfl⟩, fun _ hfilms => by cases hfilms⟩
  obtain ⟨hanswers, hreason⟩ := complete_answers_iff b {} hown
  obtain ⟨result, hresult⟩ := hanswers.mpr fun h => by cases h.1
  have hfailed : ((complete b {} w).1.toOption.map ActionResult.isOk) = some false := by decide +kernel
  cases result with
  | ok v =>
    rw [hresult] at hfailed
    cases hfailed
  | failed reason => exact ⟨reason, hresult, hreason reason hresult⟩

/-- A wait of a number of milliseconds with 401 digits is not answered for. -/
theorem complete_unanswered :
    let b : Block := ⟨.delay, "d", [("Milliseconds", String.ofList ('1' :: List.replicate 400 '0'))]⟩
    ∀ result, (complete b {} { clock := { origin := Clock.start } }).1 ≠ .ok result := by
  intro b result hresult
  -- the digits are read from the list that they are made of, which is much faster than from the text
  have hparam : b.param? "Milliseconds" = some (String.ofList ('1' :: List.replicate 400 '0')) := by
    refine Option.filter_eq_some_iff.mpr ⟨rfl, ?_⟩
    rw [Text.isBlankText, String.toList_ofList]
    decide +kernel
  have hread : Integer.read? (String.ofList ('1' :: List.replicate 400 '0')) = some (10 ^ 400) := by
    rw [Integer.read?, Integer.read, String.toList_ofList]
    decide +kernel
  obtain ⟨fault, hraised⟩ := complete_of_tooLong (b := b) rfl ⟨_, _, hparam, hread, by decide +kernel⟩
  rw [hraised] at hresult
  cases hresult

end Action

end Deskhand
