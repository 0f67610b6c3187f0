import Deskhand.Path
import Deskhand.Proofs.Text.Pieces

/-!
# Paths and their texts

What is read from a text is a root and names that stand between slashes (`IsProper`), and such a path is read back from
its own text. So two spellings of a path are told from each other only until they are read. Main statements:

* `namesOf_slash`: the names of two texts with a slash between them;
* `ofText_text`: a path is read back from its text;
* `ofText_joinText`: joining texts is putting one path below another;
* `below_name`: the last name of a path, put below the rest of it, gives the path.
-/

namespace Deskhand

namespace Path

/-- A name between slashes. -/
structure IsName (name : String) : Prop where
  notEmpty : name ≠ ""
  notDot : name ≠ "."
  noSlash : '/' ∉ name.toList

/-- A root and names. -/
structure IsProper (p : Path) : Prop where
  root : p.root ∈ ["", "/", "//"]
  names : ∀ name ∈ p.names, IsName name

/-- The names among pieces of a text. -/
def namesAmong (pieces : List (List Char)) : List String :=
  (pieces.map String.ofList).filter fun name => name != "" && name != "."

theorem namesOf_eq (s : String) : namesOf s = namesAmong (Text.splitChars '/' s.toList) :=
  rfl

theorem namesAmong_append (front back : List (List Char)) :
    namesAmong (front ++ back) = namesAmong front ++ namesAmong back := by
  simp [namesAmong]

/-- The names of two texts with a slash between them. -/
theorem namesOf_slash {s front back : String} (h : s.toList = front.toList ++ '/' :: back.toList) :
    namesOf s = namesOf front ++ namesOf back := by
  simp only [namesOf_eq, h, Text.splitChars_append, namesAmong_append]

theorem isName_of_mem {s name : String} (h : name ∈ namesOf s) : IsName name := by
  rw [namesOf, List.mem_filter, Text.splitOn, List.mem_map] at h
  obtain ⟨⟨piece, hpiece, rfl⟩, hkept⟩ := h
  rw [Bool.and_eq_true, bne_iff_ne, bne_iff_ne] at hkept
  refine ⟨hkept.1, hkept.2, ?_⟩
  rw [String.toList_ofList]
  exact Text.not_mem_of_mem_splitChars hpiece

theorem IsName.namesOf_eq {name : String} (h : IsName name) : namesOf name = [name] := by
  rw [Path.namesOf_eq, Text.splitChars_of_not_mem h.noSlash]
  simp [namesAmong, h.notEmpty, h.notDot]

theorem namesOf_join {first : String} {rest : List String} (h : ∀ name ∈ first :: rest, IsName name) :
    namesOf (Text.join "/" (first :: rest)) = first :: rest := by
  induction rest generalizing first with
  | nil => exact (h first List.mem_cons_self).namesOf_eq
  | cons second rest ih =>
    have htext : (Text.join "/" (first :: second :: rest)).toList =
        first.toList ++ '/' :: (Text.join "/" (second :: rest)).toList := by
      rw [Text.toList_join, Text.toList_join, List.flatMap_cons]
      rfl
    rw [namesOf_slash htext, (h first List.mem_cons_self).namesOf_eq, ih fun name hname => h name (.tail _ hname)]
    rfl

/-- A root is told by the first three characters. -/
theorem rootOf_eq (cs : List Char) :
    rootOf cs =
      if cs[0]? = some '/' then if cs[1]? = some '/' ∧ cs[2]? ≠ some '/' then "//" else "/" else "" := by
  have hhead : ∀ cs : List Char, (∀ tail, ¬cs = '/' :: tail) → cs[0]? ≠ some '/' := by
    intro cs h
    cases cs with
    | nil => simp
    | cons c cs => exact fun hc => h cs (congrArg (· :: cs) (Option.some.inj hc))
  rw [rootOf.eq_def]
  split
  · simp
  · next tail h => simp [hhead tail h]
  · next tail _ h => simp [hhead tail h]
  · next h => rw [if_neg (hhead cs h)]

/-- A text has the root of what it starts with, unless a slash ends that and another one follows. -/
theorem rootOf_append {front back : List Char} (hfront : front ≠ [])
    (h : front.getLast? ≠ some '/' ∨ back[0]? ≠ some '/') : rootOf (front ++ back) = rootOf front := by
  rw [rootOf_eq, rootOf_eq]
  match front with
  | [a] => by_cases ha : a = '/' <;> simp_all
  | [a, b] => by_cases hb : b = '/' <;> simp_all
  | a :: b :: c :: rest => simp

theorem isProper_ofText (s : String) : IsProper (ofText s) where
  root := by
    rw [ofText, rootOf_eq]
    split
    · split <;> simp
    · simp
  names := fun _ hname => isName_of_mem hname

theorem IsProper.parent {p : Path} (h : IsProper p) : IsProper p.parent where
  root := h.root
  names name hname := h.names name (List.dropLast_subset _ hname)

/-- A path is read back from its text. -/
theorem ofText_text {p : Path} (h : IsProper p) : ofText p.text = p := by
  obtain ⟨root, names⟩ := p
  have hroot := h.root
  simp only [List.mem_cons, List.not_mem_nil, or_false] at hroot
  cases names with
  | nil => rcases hroot with rfl | rfl | rfl <;> decide +kernel
  | cons first rest =>
    have hnames := namesOf_join h.names
    generalize hjoin : Text.join "/" (first :: rest) = joined at hnames
    have hhead : joined.toList[0]? ≠ some '/' := by
      obtain ⟨hne, -, hslash⟩ := h.names first List.mem_cons_self
      obtain ⟨c, cs, hcs⟩ := List.exists_cons_of_ne_nil (fun hnil => hne (String.toList_eq_nil_iff.mp hnil))
      rw [← hjoin, Text.toList_join, hcs]
      rw [hcs, List.mem_cons, not_or] at hslash
      simpa using Ne.symm hslash.1
    have htext : (⟨root, first :: rest⟩ : Path).text = root ++ joined := by simp [text, hjoin]
    have hbehind : ∀ s, namesOf ("/" ++ s) = namesOf s := fun s =>
      have hsplit : ("/" ++ s).toList = "".toList ++ '/' :: s.toList := String.toList_append ..
      namesOf_slash hsplit
    rw [htext, ofText, String.toList_append]
    rcases hroot with rfl | rfl | rfl
    · simp [rootOf_eq, hhead, hnames]
    · simp [rootOf_eq, hhead, hnames, hbehind]
    · rw [show "//" ++ joined = "/" ++ ("/" ++ joined) from by rw [← String.append_assoc]; rfl, hbehind, hbehind,
        hnames]
      simp [rootOf_eq, hhead]

theorem text_ne_empty {p : Path} (h : IsProper p) : p.text ≠ "" := by
  intro hempty
  have hread := ofText_text h
  rw [hempty] at hread
  rw [← hread] at hempty
  exact absurd hempty (by decide +kernel)

/-- A text spells the same path as the text of the path that is read from it. -/
theorem same_text {s : String} (h : s ≠ "") : same s (ofText s).text = true := by
  simp [same, h, text_ne_empty (isProper_ofText s), ofText_text (isProper_ofText s)]

/-- A text that starts at a root is read as a path that does. -/
theorem isAbsolute_ofText (s : String) : (ofText s).isAbsolute = s.startsWith "/" := by
  rw [Bool.eq_iff_iff, String.startsWith_string_iff, isAbsolute, bne_iff_ne, ofText, rootOf_eq]
  cases s.toList with
  | nil => simp
  | cons c cs =>
    by_cases hc : c = '/'
    · subst hc
      simp only [List.getElem?_cons_zero, ↓reduceIte]
      split <;> simp
    · simp [hc, Ne.symm hc]

theorem endsWith_slash_iff {s : String} : s.endsWith "/" = true ↔ ∃ front, s.toList = front ++ ['/'] := by
  rw [String.endsWith, String.Slice.endsWith_string_iff]
  simp only [String.copy_toSlice]
  exact ⟨fun ⟨front, h⟩ => ⟨front, h.symm⟩, fun ⟨front, h⟩ => ⟨front, h.symm⟩⟩

/-- Joining texts is putting one path below another. -/
theorem ofText_joinText (directory name : String) :
    ofText (joinText directory name) = (ofText directory).below (ofText name) := by
  rw [joinText, below, isAbsolute_ofText]
  split
  · rfl
  next hrelative =>
  have hhead : name.toList[0]? ≠ some '/' := by
    rw [String.startsWith_string_iff] at hrelative
    intro hget
    cases hname : name.toList with
    | nil => simp [hname] at hget
    | cons c cs => simp_all
  have hjoined : ∀ {s : String} {back : List Char}, s.toList = directory.toList ++ back →
      namesOf s = namesOf directory ++ namesOf name →
        directory.toList ≠ [] → directory.toList.getLast? ≠ some '/' ∨ back[0]? ≠ some '/' →
          ofText s = ⟨rootOf directory.toList, namesOf directory ++ namesOf name⟩ := by
    intro s back hs hnames hne hback
    rw [ofText, hs, rootOf_append hne hback, hnames]
  by_cases hempty : directory = ""
  · subst hempty
    have hroot : rootOf name.toList = "" := by rw [rootOf_eq, if_neg hhead]
    simp [ofText, hroot, namesOf_eq, Text.splitChars, namesAmong, rootOf_eq]
  have hne : directory.toList ≠ [] := fun hnil => hempty (String.toList_eq_nil_iff.mp hnil)
  split
  · next hclosed =>
    obtain ⟨front, hfront⟩ := endsWith_slash_iff.mp (by simpa [hempty] using hclosed)
    have hnames : namesOf directory = namesOf (String.ofList front) := by
      have hsplit : directory.toList = (String.ofList front).toList ++ '/' :: "".toList := by simp [hfront]
      rw [namesOf_slash hsplit]
      exact List.append_nil _
    refine hjoined (String.toList_append ..) ?_ hne (.inr hhead)
    rw [hnames]
    exact namesOf_slash (by simp [hfront])
  · next hopen =>
    have hlast : directory.toList.getLast? ≠ some '/' := fun hlast =>
      hopen (by simpa [hempty] using endsWith_slash_iff.mpr ⟨_, (List.dropLast_append_getLast? _ hlast).symm⟩)
    have htext : (directory ++ "/" ++ name).toList = directory.toList ++ '/' :: name.toList := by
      simp [String.toList_append]
    exact hjoined htext (namesOf_slash htext) hne (.inl hlast)

/-- A name is read as the path of that name alone. -/
theorem IsName.ofText_eq {name : String} (h : IsName name) : ofText name = ⟨"", [name]⟩ := by
  have hhead : name.toList[0]? ≠ some '/' := fun hget => h.noSlash (List.mem_of_getElem? hget)
  rw [ofText, rootOf_eq, if_neg hhead, h.namesOf_eq]

/-- What is put below a path goes on from it, unless it is absolute. -/
theorem IsProper.below {base p : Path} (hbase : IsProper base) (h : IsProper p) : IsProper (base.below p) := by
  rw [Path.below]
  split
  · exact h
  · exact ⟨hbase.root, fun name hname => (List.mem_append.mp hname).elim (hbase.names name) (h.names name)⟩

theorem IsProper.isName_name {p : Path} (h : IsProper p) (hne : p.name ≠ "") : IsName p.name := by
  rw [Path.name] at hne ⊢
  cases hlast : p.names.getLast? with
  | none => simp [List.getLastD_eq_getLast?, hlast] at hne
  | some name =>
    rw [List.getLastD_eq_getLast?, hlast]
    exact h.names name (List.mem_of_getLast? hlast)

/-- The last name of a path, put below the rest of it, gives the path. -/
theorem below_name {p : Path} (h : IsProper p) : p.parent.below (ofText p.name) = p := by
  obtain ⟨root, names⟩ := p
  rcases List.eq_nil_or_concat names with rfl | ⟨front, name, rfl⟩
  · simp [below, parent, Path.name, ofText, isAbsolute, rootOf, namesOf_eq, Text.splitChars, namesAmong]
  · have hname : IsName name := h.names name (by simp)
    simp [below, parent, Path.name, hname.ofText_eq, isAbsolute]

end Path

end Deskhand
