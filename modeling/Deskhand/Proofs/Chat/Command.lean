import Deskhand.Chat.Command
import Deskhand.Proofs.Text.Case
import Deskhand.Proofs.Text.Pieces

/-!
# Normal forms of commands

A command in normal form is trimmed, in lower case and without slashes (`isNormal_normalCommand`). Its normal form is
itself iff its first word holds no `@` (`normalCommand_eq_self_iff`): what a first word holds from that mark on is
taken for the name of a bot. The mark comes into the first word where all that stood before it was dropped, as in
`/ me@home`.
-/

namespace Deskhand.Chat

/-- Blanks at the ends of a message make no difference to the command that it asks for. -/
theorem normalCommand_trim (text : String) : normalCommand (Text.trim text) = normalCommand text := by
  simp only [normalCommand, Text.trim_trim]

/-- A message without the name of a bot behind its first word. -/
def unaddressed (text : String) : String :=
  let name := (Text.cutAt '@' (Text.cutAt ' ' text).1).1
  match (Text.cutAt ' ' text).2 with
  | some more => if more == "" then name else name ++ " " ++ more
  | none => name

theorem normalCommand_eq (text : String) :
    normalCommand text = Text.lower (Text.trim (Text.replaceChar '/' "" (unaddressed (Text.trim text)))) := by
  rw [normalCommand]
  generalize Text.trim text = trimmed
  rfl

/-- The characters of a message without the name of a bot behind its first word. -/
def bareChars (cs : List Char) : List Char :=
  (cs.takeWhile (· != ' ')).takeWhile (· != '@') ++ cs.dropWhile (· != ' ')

theorem toList_unaddressed {text : String} (h : Text.trim text = text) :
    (unaddressed text).toList = bareChars text.toList := by
  have hname : (Text.cutAt '@' (Text.cutAt ' ' text).1).1.toList =
      (text.toList.takeWhile (· != ' ')).takeWhile (· != '@') := by
    simp only [Text.fst_cutAt, String.toList_ofList]
  rw [unaddressed, Text.snd_cutAt, bareChars, ← hname]
  cases hrest : text.toList.dropWhile (· != ' ') with
  | nil => simp
  | cons c rest =>
    have hc : c = ' ' := by
      have hhead := List.head?_dropWhile_not (· != ' ') text.toList
      rw [hrest] at hhead
      simpa using hhead
    -- a trimmed message does not end in a blank
    have hmore : rest ≠ [] := by
      rintro rfl
      have hlast : text.toList.getLast? = some ' ' := by
        rw [← List.takeWhile_append_dropWhile (p := (· != ' ')) (l := text.toList), hrest, hc, List.getLast?_concat]
      have hkept := (Text.trimChars_eq_self_iff.mp (by rw [← Text.toList_trim, h])).2 ' ' hlast
      exact hkept (by decide)
    have hne : (String.ofList rest == "") = false := by simpa using hmore
    simp [hne, hc]

/-- What is left of a message stands in it in order. -/
theorem bareChars_sublist (cs : List Char) : (bareChars cs).Sublist cs :=
  calc (bareChars cs).Sublist (cs.takeWhile (· != ' ') ++ cs.dropWhile (· != ' ')) :=
        (List.takeWhile_sublist _).append_right _
    _ = cs := List.takeWhile_append_dropWhile

/-- A mark below the letters in the normal form of a message is no slash, and stands in the message. -/
theorem of_mem_normalCommand {text : String} {c : Char} (h : c ∈ (normalCommand text).toList)
    (hmark : c.toNat < 0x41) : c ≠ '/' ∧ c ∈ (Text.trim text).toList := by
  rw [normalCommand_eq, Text.toList_lower, Text.toList_trim, Text.toList_replaceChar_empty,
    toList_unaddressed (Text.trim_trim text)] at h
  obtain ⟨c', hc', hfrom⟩ := Text.exists_of_mem_lowerFrom h
  rw [hfrom.mark hmark] at hc'
  obtain ⟨hmem, hslash⟩ := List.mem_filter.mp (Text.trimChars_sublist.subset hc')
  exact ⟨by simpa using hslash, (bareChars_sublist _).subset hmem⟩

/-! ## Normal forms -/

/-- Whether a command is trimmed, in lower case and without slashes. -/
structure IsNormal (command : String) : Prop where
  trimmed : Text.trim command = command
  noSlash : '/' ∉ command.toList
  isLower : ∀ c ∈ command.toList, Text.isLower c = true

/-- The first word of a command, up to the first space. -/
def firstWord (command : String) : String :=
  (Text.cutAt ' ' command).1

theorem isNormal_normalCommand (text : String) : IsNormal (normalCommand text) := by
  refine ⟨?_, fun hslash => (of_mem_normalCommand hslash (by decide)).1 rfl, ?_⟩
  · rw [normalCommand_eq]
    exact Text.trim_lower (Text.trim_trim _)
  · rw [normalCommand_eq]
    exact fun _ => Text.isLower_of_mem_lower

variable {command : String}

/-- Of a command without a mark in its first word no name of a bot is cut off. -/
theorem bareChars_eq_self (h : '@' ∉ (firstWord command).toList) : bareChars command.toList = command.toList := by
  rw [firstWord, Text.fst_cutAt, String.toList_ofList] at h
  have hname : (command.toList.takeWhile (· != ' ')).takeWhile (· != '@') = command.toList.takeWhile (· != ' ') :=
    List.takeWhile_eq_self_iff.mpr fun c hc => by
      simp only [bne_iff_ne]
      rintro rfl
      exact h hc
  rw [bareChars, hname, List.takeWhile_append_dropWhile]

/-- Of one with a mark in its first word something is. -/
theorem length_bareChars_lt (h : '@' ∈ (firstWord command).toList) :
    (bareChars command.toList).length < command.toList.length := by
  rw [firstWord, Text.fst_cutAt, String.toList_ofList] at h
  have hshorter : ((command.toList.takeWhile (· != ' ')).takeWhile (· != '@')).length <
      (command.toList.takeWhile (· != ' ')).length := by
    refine lt_of_le_of_ne (List.takeWhile_prefix _).length_le fun hsame => ?_
    have hall := List.takeWhile_eq_self_iff.mp ((List.takeWhile_prefix _).eq_of_length hsame)
    simpa using hall '@' h
  have hwhole := congrArg List.length (List.takeWhile_append_dropWhile (p := (· != ' ')) (l := command.toList))
  rw [List.length_append] at hwhole
  rw [bareChars, List.length_append]
  omega

theorem IsNormal.toList_normalCommand (h : IsNormal command) :
    (normalCommand command).toList = Text.trimChars Text.isBlank (bareChars command.toList) := by
  have hnoSlash : (bareChars command.toList).filter (· != '/') = bareChars command.toList :=
    List.filter_eq_self.mpr fun c hc => by
      simp only [bne_iff_ne]
      rintro rfl
      exact h.noSlash ((bareChars_sublist _).subset hc)
  rw [normalCommand_eq, h.trimmed, Text.toList_lower, Text.toList_trim, Text.toList_replaceChar_empty,
    toList_unaddressed h.trimmed, hnoSlash]
  exact Text.lowerFrom_of_isLower fun c hc =>
    h.isLower c ((bareChars_sublist _).subset (Text.trimChars_sublist.subset hc))

/-- A command in normal form has itself as its normal form iff its first word holds no mark of a bot. -/
theorem IsNormal.normalCommand_eq_self_iff (h : IsNormal command) :
    normalCommand command = command ↔ '@' ∉ (firstWord command).toList := by
  rw [← String.toList_inj, h.toList_normalCommand]
  constructor
  · intro hsame hmark
    have hkept : (Text.trimChars Text.isBlank (bareChars command.toList)).Sublist (bareChars command.toList) :=
      Text.trimChars_sublist
    have hshorter := hkept.length_le.trans_lt (length_bareChars_lt hmark)
    rw [hsame] at hshorter
    exact Nat.lt_irrefl _ hshorter
  · intro hmark
    rw [bareChars_eq_self hmark, ← Text.toList_trim, h.trimmed]

/-- To normalise a message twice is the same as once iff the first word of its command holds no mark of a bot. -/
theorem normalCommand_normalCommand_iff (text : String) :
    normalCommand (normalCommand text) = normalCommand text ↔ '@' ∉ (firstWord (normalCommand text)).toList :=
  (isNormal_normalCommand text).normalCommand_eq_self_iff

end Deskhand.Chat
