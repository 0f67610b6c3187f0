import Deskhand.Proofs.Text.Quoted
import Deskhand.Store.Fingerprint
import Mathlib.Data.List.Induction

/-!
# What the text of a fingerprint says

The text that the digest of a store is made of ends with the settings. Their names are fixed and their values are
quoted or hold no blank, so that the settings can be read off from its end, and what stands before them is what
remains (`printed_inj`). What stands before them is one text, though, which does not say where a scenario or a field of
one ends.
-/

namespace Deskhand

theorem Text.toList_bytes (bytes : ByteArray) : bytes.toList = bytes.data.toList := by
  have hloop : ∀ i r, ByteArray.toList.loop bytes i r = r.reverse ++ bytes.data.toList.drop i := by
    intro i r
    fun_induction ByteArray.toList.loop bytes i r with
    | case1 i r hi ih =>
      have hi : i < bytes.data.toList.length := hi
      have hbyte : bytes.get! i = bytes.data.toList[i] := getElem!_pos bytes.data i hi
      rw [ih, List.reverse_cons, List.append_assoc, List.singleton_append, hbyte, List.getElem_cons_drop]
    | case2 i r hi =>
      have hi : bytes.data.toList.length ≤ i := Nat.not_lt.mp hi
      rw [List.drop_eq_nil_of_le hi, List.append_nil]
  exact hloop 0 []

/-- A text is told by its bytes. -/
theorem Text.bytes_inj {s t : String} (h : s.toUTF8.toList = t.toUTF8.toList) : s = t := by
  rw [toList_bytes, toList_bytes, Array.toList_inj] at h
  exact String.toByteArray_inj.mp (ByteArray.ext h)

namespace Integer

theorem toList_text (n : Int) :
    (text n).toList = (if n < 0 then ['-'] else []) ++ Nat.toDigits 10 n.natAbs := by
  have hdigits : ∀ n : Nat, (toString n).toList = Nat.toDigits 10 n := fun n => by
    rw [Nat.toString_eq_ofList_toDigits, String.toList_ofList]
  cases n with
  | ofNat n => exact hdigits n
  | negSucc n =>
    have hsign : (text (.negSucc n)).toList = '-' :: (toString (n + 1)).toList := String.toList_append
    rw [hsign, hdigits, if_pos (Int.negSucc_lt_zero n)]
    rfl

theorem mem_text {n : Int} {c : Char} (h : c ∈ (text n).toList) : c = '-' ∨ c.isDigit := by
  rw [toList_text, List.mem_append] at h
  refine h.imp (fun hsign => ?_) fun hdigit => Nat.isDigit_of_mem_toDigits (by decide) (by decide) hdigit
  split at hsign
  · exact List.mem_singleton.mp hsign
  · cases hsign

theorem toDigits_inj {m n : Nat} (h : Nat.toDigits 10 m = Nat.toDigits 10 n) : m = n := by
  rw [← Nat.ofDigitChars_ten_toDigits (n := m), h, Nat.ofDigitChars_ten_toDigits]

theorem toDigits_ne_signed (n : Nat) (cs : List Char) : Nat.toDigits 10 n ≠ '-' :: cs := by
  intro h
  have hdigit : Char.isDigit '-' :=
    Nat.isDigit_of_mem_toDigits (b := 10) (n := n) (by decide) (by decide) (by simp [h])
  revert hdigit
  decide

theorem text_inj {m n : Int} (h : text m = text n) : m = n := by
  have hchars := congrArg String.toList h
  rw [toList_text, toList_text] at hchars
  split at hchars <;> split at hchars
  · have := toDigits_inj (List.cons.inj hchars).2
    omega
  · exact absurd hchars.symm (toDigits_ne_signed _ _)
  · exact absurd hchars (toDigits_ne_signed _ _)
  · have := toDigits_inj hchars
    omega

end Integer

namespace Store

open Text (AreApart)

/-! ## Settings -/

/-- The settings as they are printed: before each of them, what stands between it and the one before. -/
def layout : List (String × SettingName) :=
  [("[('pairing_code',", .pairingCode), ("), ('telegram_bot_token',", .botToken),
    ("), ('telegram_chat_id',", .chatId), ("), ('telegram_enabled',", .chatEnabled),
    ("), ('tmdb_api_key',", .filmKey), ("), ('youtube_api_key',", .videoKey)]

/-- A field of the settings as it is printed. -/
def piece (s : Settings) (e : String × SettingName) : List Char :=
  e.1.toList ++ ' ' :: (s.get e.2).nested.toList

theorem record_sorted (s : Settings) :
    s.record.mergeSort (fun a b => a.1 ≤ b.1) = layout.map fun e => (e.2.name, s.get e.2) := by
  have hnames : SettingName.all.mergeSort (fun f g => f.name ≤ g.name) = layout.map Prod.snd := by
    simp [SettingName.all, List.mergeSort, List.MergeSort.Internal.splitInTwo, SettingName.name, layout]
  rw [Settings.record, ← List.map_mergeSort (r := fun f g : SettingName => f.name ≤ g.name) fun _ _ _ _ => rfl, hnames,
    List.map_map]
  rfl

theorem toList_settingsPart (s : Settings) :
    (settingsPart s).toList = layout.flatMap (piece s) ++ [')', ']'] := by
  have hquoted : layout.map (fun e => Text.quoted e.2.name) = ["'pairing_code'", "'telegram_bot_token'",
      "'telegram_chat_id'", "'telegram_enabled'", "'tmdb_api_key'", "'youtube_api_key'"] := by decide +kernel
  simp only [layout, List.map_cons, List.map_nil, List.cons.injEq, and_true] at hquoted
  obtain ⟨hcode, htoken, hchat, henabled, hfilm, hvideo⟩ := hquoted
  rw [settingsPart, record_sorted]
  simp only [layout, List.map_cons, List.map_nil, settingPart, hcode, htoken, hchat, henabled, hfilm, hvideo, Text.join,
    List.foldl_cons, List.foldl_nil, String.toList_append, List.flatMap_cons, List.flatMap_nil, piece]
  simp

/-- The values of a field as they are printed. -/
def IsPrinted (field : SettingName) (cs : List Char) : Prop :=
  ∃ s : Settings, cs = (s.get field).nested.toList

theorem areApart_isPrinted (field : SettingName) : AreApart (IsPrinted field) := by
  have hquoted : ∀ read : Settings → String, AreApart fun cs => ∃ s, cs = (Value.text (read s)).nested.toList :=
    fun read => Text.areApart_quoted.mono fun cs ⟨s, hs⟩ => ⟨read s, hs⟩
  have hblankless : (∀ cs, IsPrinted field cs → ' ' ∉ cs) → AreApart (IsPrinted field) :=
    fun h => Text.areApart_blankless.mono h
  cases field with
  | videoKey => exact hquoted Settings.videoKey
  | filmKey => exact hquoted Settings.filmKey
  | botToken => exact hquoted Settings.botToken
  | pairingCode => exact hquoted Settings.pairingCode
  | chatId =>
    refine hblankless ?_
    rintro _ ⟨s, rfl⟩
    rw [Settings.get]
    cases s.chatId with
    | none => decide
    | some chat => exact fun h => by rcases Integer.mem_text h with h | h <;> revert h <;> decide
  | chatEnabled =>
    refine hblankless ?_
    rintro _ ⟨s, rfl⟩
    rw [Settings.get]
    cases s.chatEnabled <;> decide

/-- A field is told by how it is printed. -/
theorem get_inj {s t : Settings} {field : SettingName}
    (h : (s.get field).nested.toList = (t.get field).nested.toList) : s.get field = t.get field := by
  have h := String.toList_inj.mp h
  cases field with
  | videoKey => exact congrArg Value.text (Text.quoted_inj h)
  | filmKey => exact congrArg Value.text (Text.quoted_inj h)
  | botToken => exact congrArg Value.text (Text.quoted_inj h)
  | pairingCode => exact congrArg Value.text (Text.quoted_inj h)
  | chatId =>
    have hnone : ∀ chat : Int, Integer.text chat ≠ "None" := by
      intro chat hchat
      have hmem : 'N' ∈ (Integer.text chat).toList := by
        rw [hchat]
        decide
      rcases Integer.mem_text hmem with h | h <;> revert h <;> decide
    rw [Settings.get, Settings.get] at h ⊢
    cases hs : s.chatId with
    | none =>
      cases ht : t.chatId with
      | none => rfl
      | some chat => exact absurd (by rw [hs, ht] at h; exact h.symm) (hnone chat)
    | some chat =>
      cases ht : t.chatId with
      | none => exact absurd (by rw [hs, ht] at h; exact h) (hnone chat)
      | some chat' =>
        rw [hs, ht] at h
        rw [Integer.text_inj h]
  | chatEnabled =>
    rw [Settings.get, Settings.get] at h ⊢
    cases hs : s.chatEnabled <;> cases ht : t.chatEnabled <;> rw [hs, ht] at h <;>
      first | rfl | exact absurd h (by decide)

/-- Fields at the end of a text are read off from its end. -/
theorem pieces_inj {s t : Settings} {fields : List (String × SettingName)} {front front' : List Char}
    (h : front ++ fields.flatMap (piece s) = front' ++ fields.flatMap (piece t)) :
    front = front' ∧ ∀ e ∈ fields, s.get e.2 = t.get e.2 := by
  induction fields using List.reverseRecOn with
  | nil => exact ⟨by simpa using h, by simp⟩
  | append_singleton fields e ih =>
    simp only [List.flatMap_append, List.flatMap_cons, List.flatMap_nil, List.append_nil, piece] at h
    rw [← List.append_assoc, ← List.append_assoc, ← List.append_assoc, ← List.append_assoc] at h
    obtain ⟨hrest, hvalue⟩ := (areApart_isPrinted e.2).append_inj ⟨s, rfl⟩ ⟨t, rfl⟩ h
    obtain ⟨hfront, hfields⟩ := ih (List.append_inj_left' hrest rfl)
    refine ⟨hfront, fun e' he' => ?_⟩
    rcases List.mem_append.mp he' with he' | he'
    · exact hfields e' he'
    · rw [List.mem_singleton.mp he']
      exact get_inj hvalue

/-- Settings with the same fields are the same. -/
theorem settings_ext {s t : Settings} (h : ∀ e ∈ layout, s.get e.2 = t.get e.2) : s = t := by
  have hchat : ∀ {a b : Option Int}, Value.ofInt? a = Value.ofInt? b → a = b := by
    intro a b hab
    cases a <;> cases b <;> cases hab <;> rfl
  simp only [layout, List.forall_mem_cons, Settings.get, Value.text.injEq, Value.bool.injEq] at h
  obtain ⟨hcode, htoken, hid, henabled, hfilm, hvideo, -⟩ := h
  have hid := hchat hid
  cases s
  cases t
  simp_all

/-- The text of a fingerprint says what the settings are, and what stands before them. -/
theorem printed_inj {front front' : String} {s t : Settings}
    (h : front ++ settingsPart s = front' ++ settingsPart t) : front = front' ∧ s = t := by
  have hchars := congrArg String.toList h
  rw [String.toList_append, String.toList_append, toList_settingsPart, toList_settingsPart, ← List.append_assoc,
    ← List.append_assoc] at hchars
  obtain ⟨hfront, hfields⟩ := pieces_inj (List.append_inj_left' hchars rfl)
  exact ⟨String.toList_inj.mp hfront, settings_ext hfields⟩

end Store

end Deskhand
