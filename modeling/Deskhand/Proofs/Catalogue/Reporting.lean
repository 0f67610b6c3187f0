import Deskhand.Proofs.Catalogue.Marking
import Deskhand.Proofs.Run.Course

/-!
# Which films are reported

One check after the other, each with its own genre, region and answer. For each genre and region the service keeps the
ids that were listed, and a check reports the first ten of its answer that no earlier answer for that genre and region
listed: these are due. Only a rating that is an integer beyond the doubles spoils that, since making its line is a
fault. Main statements:

* `collects`: what going through films marks and collects, by the ids that are known;
* `Inquiry.step`: one check, by what earlier ones listed;
* `Inquiry.reports_iff`: any number of checks.
-/

namespace Deskhand.Films

/-! ## Films -/

/-- The id of a film that has one. -/
def number? (film : Entries String Value) : Option Int :=
  match Entries.find? film "id" with
  | some (.int n) => some n
  | _ => none

/-- A film as a catalogue lists it: its id is an integer and its rating a number, or they are missing. -/
structure IsListed (film : Entries String Value) : Prop where
  id : ∀ v, Entries.find? film "id" = some v → v = .null ∨ ∃ n, v = .int n
  rating : ∀ v, Entries.find? film "vote_average" = some v → v = .null ∨ (∃ n, v = .int n) ∨ ∃ x, v = .float x

/-- The rating of a film, if it is an integer, lies within the doubles. -/
def IsRatable (film : Entries String Value) : Prop :=
  ∀ n, Entries.find? film "vote_average" = some (.int n) → n ≠ 0 → (Binary.ofInt? n).isSome = true

/-- A film with an id has a line iff its rating lies within the doubles. -/
theorem line_ok_iff {film : Entries String Value} (h : IsListed film) (hid : (number? film).isSome = true) :
    (∃ text, line film = .ok text) ↔ IsRatable film := by
  have hline : (∃ text, line film = .ok text) ↔ ∃ x, rating (fieldOr "vote_average" (.float 0.0) film) = .ok x := by
    rw [number?] at hid
    split at hid
    · next hfound =>
      rw [line, hfound]
      cases rating (fieldOr "vote_average" (.float 0.0) film) with
      | error fault => simp [bind, Except.bind]
      | ok x => simp [bind, Except.bind, pure, Except.pure]
    · cases hid
  rw [hline, IsRatable, fieldOr]
  cases hrating : Entries.find? film "vote_average" with
  | none => simp [rating]
  | some v =>
    rcases h.rating v hrating with rfl | ⟨n, rfl⟩ | ⟨x, rfl⟩
    · simp [Option.filter, Value.isTruthy, rating]
    · by_cases hzero : n = 0
      · simp [Option.filter, Value.isTruthy, rating, hzero]
      · have htruthy : (Value.int n).isTruthy = true := by simp [Value.isTruthy, hzero]
        simp only [Option.filter, htruthy, if_true, Option.getD_some, rating]
        cases hdouble : Binary.ofInt? n <;> simp [hzero, hdouble]
    · simp only [Option.filter]
      split <;> simp [rating]

/-! ## New ids -/

/-- The ids of films that are not known, in the order in which they first occur. -/
def newIds (known : List Int) (films : List (Entries String Value)) : List Int :=
  ((films.filterMap number?).filter fun n => n ∉ known).eraseDups

variable {known : List Int} {film : Entries String Value} {rest films : List (Entries String Value)} {n : Int}

theorem newIds_cons_of_none (h : number? film = none) : newIds known (film :: rest) = newIds known rest := by
  rw [newIds, List.filterMap_cons_none h, newIds]

theorem newIds_cons_of_known (h : number? film = some n) (hn : n ∈ known) :
    newIds known (film :: rest) = newIds known rest := by
  rw [newIds, List.filterMap_cons_some h, List.filter_cons_of_neg (by simpa using hn), newIds]

theorem newIds_cons_of_new (h : number? film = some n) (hn : n ∉ known) :
    newIds known (film :: rest) = n :: newIds (known ++ [n]) rest := by
  rw [newIds, List.filterMap_cons_some h, List.filter_cons_of_pos (by simpa using hn), List.eraseDups_cons,
    List.filter_filter, newIds]
  refine congrArg (fun ids => n :: List.eraseDups ids) (List.filter_congr fun m _ => ?_)
  rw [Bool.eq_iff_iff]
  simp [and_comm]

theorem mem_newIds : n ∈ newIds known films ↔ n ∈ films.filterMap number? ∧ n ∉ known := by
  simp [newIds]

theorem nodup_newIds (known : List Int) (films : List (Entries String Value)) : (newIds known films).Nodup := by
  induction films generalizing known with
  | nil => exact List.nodup_nil
  | cons film rest ih =>
    cases h : number? film with
    | none =>
      rw [newIds_cons_of_none h]
      exact ih known
    | some n =>
      by_cases hn : n ∈ known
      · rw [newIds_cons_of_known h hn]
        exact ih known
      · rw [newIds_cons_of_new h hn]
        exact List.nodup_cons.mpr ⟨fun hmem => (mem_newIds.mp hmem).2 (by simp), ih _⟩

/-- Only which ids are known matters, and not in which order or how often. -/
theorem newIds_congr {known known' : List Int} (h : ∀ n, n ∈ known ↔ n ∈ known') :
    newIds known films = newIds known' films := by
  simp only [newIds, h]

/-! ## Entries -/

/-- The line of the first film of a list that has an id, if such a line can be made. -/
def lineFor? (films : List (Entries String Value)) (n : Int) : Option String :=
  (films.find? fun film => number? film == some n).bind fun film => (line film).toOption

theorem lineFor?_cons_of_ne (h : number? film ≠ some n) : lineFor? (film :: rest) n = lineFor? rest n := by
  rw [lineFor?, List.find?_cons_of_neg (by simpa using h), lineFor?]

theorem lineFor?_cons_self (h : number? film = some n) (rest : List (Entries String Value)) :
    lineFor? (film :: rest) n = (line film).toOption := by
  rw [lineFor?, List.find?_cons_of_pos (by simpa using h), Option.bind_some]

@[simp] theorem scalarEqual_int (m n : Int) : (Value.int m).scalarEqual (.int n) = (m == n) := by
  simp only [Value.scalarEqual, Value.ratio?, Int.natCast_one, Int.mul_one]

theorem isPassed_of_none (h : IsListed film) (hid : number? film = none) (seen : List Value) :
    isPassed seen (.record film) = true := by
  rw [number?] at hid
  simp only [isPassed]
  cases hfound : Entries.find? film "id" with
  | none => rfl
  | some v =>
    rcases h.id v hfound with rfl | ⟨n, rfl⟩
    · rfl
    · rw [hfound] at hid
      cases hid

theorem find?_id (h : number? film = some n) : Entries.find? film "id" = some (.int n) := by
  rw [number?] at h
  split at h
  · next hfound => rw [hfound, Option.some.inj h]
  · cases h

theorem isPassed_of_known (h : number? film = some n) (hn : n ∈ known) :
    isPassed (known.map .int) (.record film) = true := by
  simp [isPassed, find?_id h, isKey, hn]

theorem newId?_of_new (h : number? film = some n) (hn : n ∉ known) :
    newId? (known.map .int) (.record film) = some (.int n) := by
  simp [newId?, find?_id h, isKey, List.forall_mem_ne', hn]

/-- The new ids of films that are to be reported when there are some lines already. -/
def reportedIds (known : List Int) (lines : List String) (films : List (Entries String Value)) : List Int :=
  (newIds known films).take (maxReported - lines.length)

/-- Going through films marks all new ids and makes an entry of the first ones, as many as are missing to ten. Where
one of those has no entry, that is a fault. -/
structure Collects (known : List Int) (lines : List String) (films : List (Entries String Value)) : Prop where
  entries : ∀ texts, (reportedIds known lines films).map (lineFor? films) = texts.map some →
    collect (known.map .int) lines (films.map .record) =
      (.ok (lines ++ texts), (known ++ newIds known films).map .int)
  fault : ∀ n ∈ reportedIds known lines films, lineFor? films n = none →
    ∃ fault, (collect (known.map .int) lines (films.map .record)).1 = .error fault

variable {lines : List String}

/-- The entries of ids other than that of the first film come from the other films. -/
theorem map_lineFor?_cons {ids : List Int} (h : ∀ n ∈ ids, number? film ≠ some n) :
    ids.map (lineFor? (film :: rest)) = ids.map (lineFor? rest) :=
  List.map_congr_left fun n hn => lineFor?_cons_of_ne (h n hn)

/-- A film that is passed over adds nothing. -/
theorem Collects.passed (h : Collects known lines rest) (hpassed : isPassed (known.map .int) (.record film) = true)
    (hids : newIds known (film :: rest) = newIds known rest)
    (hother : ∀ n ∈ newIds known rest, number? film ≠ some n) : Collects known lines (film :: rest) := by
  have hreported : reportedIds known lines (film :: rest) = reportedIds known lines rest := by
    rw [reportedIds, hids, reportedIds]
  have hother : ∀ n ∈ reportedIds known lines rest, number? film ≠ some n := fun n hn =>
    hother n (List.mem_of_mem_take hn)
  have hcollect : collect (known.map .int) lines ((film :: rest).map .record) =
      collect (known.map .int) lines (rest.map .record) := collect_passed hpassed
  constructor
  · intro texts htexts
    rw [hreported, map_lineFor?_cons hother] at htexts
    rw [hcollect, hids, h.entries texts htexts]
  · intro n hn hnone
    rw [hreported] at hn
    rw [lineFor?_cons_of_ne (hother n hn)] at hnone
    rw [hcollect]
    exact h.fault n hn hnone

theorem reportedIds_of_full (hfull : ¬lines.length < maxReported) : reportedIds known lines films = [] := by
  rw [reportedIds, Nat.sub_eq_zero_of_le (Nat.not_lt.mp hfull), List.take_zero]

theorem reportedIds_of_room (hroom : lines.length < maxReported) (hid : number? film = some n) (hn : n ∉ known)
    (text : String) :
    reportedIds known lines (film :: rest) = n :: reportedIds (known ++ [n]) (lines ++ [text]) rest := by
  obtain ⟨k, hk⟩ : ∃ k, maxReported - lines.length = k + 1 := ⟨maxReported - lines.length - 1, by omega⟩
  have hless : maxReported - (lines ++ [text]).length = k := by
    rw [List.length_append, List.length_singleton]
    omega
  rw [reportedIds, newIds_cons_of_new hid hn, hk, List.take_succ_cons, reportedIds, hless]

theorem append_newIds (hid : number? film = some n) (hn : n ∉ known) :
    known ++ newIds known (film :: rest) = known ++ [n] ++ newIds (known ++ [n]) rest := by
  rw [newIds_cons_of_new hid hn, List.append_assoc, List.singleton_append]

/-- A film with a new id is marked. -/
theorem collect_of_new (hid : number? film = some n) (hn : n ∉ known) (lines : List String)
    (rest : List (Entries String Value)) :
    collect (known.map .int) lines ((film :: rest).map .record) =
      if lines.length < maxReported then
        match line film with
        | .ok text => collect ((known ++ [n]).map .int) (lines ++ [text]) (rest.map .record)
        | .error fault => (.error fault, (known ++ [n]).map .int)
      else collect ((known ++ [n]).map .int) lines (rest.map .record) := by
  have hmarked : (known ++ [n]).map Value.int = known.map .int ++ [.int n] := by simp
  rw [List.map_cons, collect_new (newId?_of_new hid hn), hmarked]
  rfl

/-- A film with a new id beyond the tenth is marked, and adds nothing. -/
theorem Collects.new_of_full (h : Collects (known ++ [n]) lines rest) (hid : number? film = some n) (hn : n ∉ known)
    (hfull : ¬lines.length < maxReported) : Collects known lines (film :: rest) := by
  have hcollect := collect_of_new hid hn lines rest
  rw [if_neg hfull] at hcollect
  constructor
  · intro texts htexts
    rw [reportedIds_of_full hfull] at htexts
    rw [hcollect, append_newIds hid hn]
    exact h.entries texts (by rwa [reportedIds_of_full hfull])
  · intro m hm
    rw [reportedIds_of_full hfull] at hm
    cases hm

/-- Any other film with a new id is marked and has an entry, or there is a fault. -/
theorem Collects.new_of_room (h : ∀ lines, Collects (known ++ [n]) lines rest) (hid : number? film = some n)
    (hn : n ∉ known) (hroom : lines.length < maxReported) : Collects known lines (film :: rest) := by
  have hcollect := collect_of_new hid hn lines rest
  rw [if_pos hroom] at hcollect
  have hhere := lineFor?_cons_self hid rest
  cases hline : line film with
  | error fault =>
    rw [hline] at hcollect hhere
    constructor
    · intro texts htexts
      rw [reportedIds_of_room hroom hid hn "", List.map_cons, hhere] at htexts
      cases texts <;> cases htexts
    · exact fun _ _ _ => ⟨fault, congrArg Prod.fst hcollect⟩
  | ok text =>
    rw [hline] at hcollect hhere
    have hother : ∀ m ∈ reportedIds (known ++ [n]) (lines ++ [text]) rest, number? film ≠ some m := by
      rintro m hm heq
      obtain rfl : n = m := Option.some.inj (hid.symm.trans heq)
      exact (mem_newIds.mp (List.mem_of_mem_take hm)).2 (by simp)
    have hlater := h (lines ++ [text])
    constructor
    · intro texts htexts
      rw [reportedIds_of_room hroom hid hn text, List.map_cons, hhere, map_lineFor?_cons hother] at htexts
      obtain ⟨first, later, rfl, hfirst, hrest⟩ := List.map_eq_cons_iff.mp htexts.symm
      obtain rfl : first = text := Option.some.inj hfirst
      rw [hcollect, append_newIds hid hn]
      have hentries := hlater.entries later hrest.symm
      rwa [List.append_assoc, List.singleton_append] at hentries
    · intro m hm hnone
      rw [reportedIds_of_room hroom hid hn text] at hm
      rw [hcollect]
      rcases List.mem_cons.mp hm with rfl | hm
      · cases hhere.symm.trans hnone
      · rw [lineFor?_cons_of_ne (hother m hm)] at hnone
        exact hlater.fault m hm hnone

/-- Films are gone through so, whatever ids are known and whatever lines there are. -/
theorem collects (h : ∀ film ∈ films, IsListed film) (known : List Int) (lines : List String) :
    Collects known lines films := by
  induction films generalizing known lines with
  | nil =>
    refine ⟨fun texts htexts => ?_, by simp [reportedIds, newIds]⟩
    obtain rfl : texts = [] := by simpa [reportedIds, newIds] using htexts
    simp [collect, newIds]
  | cons film rest ih =>
    obtain ⟨hfilm, hrest⟩ := List.forall_mem_cons.mp h
    cases hid : number? film with
    | none =>
      exact (ih hrest known lines).passed (isPassed_of_none hfilm hid _) (newIds_cons_of_none hid) (by simp [hid])
    | some n =>
      by_cases hn : n ∈ known
      · refine (ih hrest known lines).passed (isPassed_of_known hid hn) (newIds_cons_of_known hid hn) ?_
        rintro m hm heq
        exact (mem_newIds.mp hm).2 (Option.some.inj (hid.symm.trans heq) ▸ hn)
      · by_cases hroom : lines.length < maxReported
        · exact .new_of_room (ih hrest (known ++ [n])) hid hn hroom
        · exact .new_of_full (ih hrest (known ++ [n]) lines) hid hn hroom

/-- An id that films have has an entry iff the rating of its first film lies within the doubles. -/
theorem isSome_lineFor?_iff (h : ∀ film ∈ films, IsListed film) (hn : n ∈ films.filterMap number?) :
    (lineFor? films n).isSome = true ↔
      ∀ film, films.find? (fun film => number? film == some n) = some film → IsRatable film := by
  cases hfind : films.find? fun film => number? film == some n with
  | none =>
    obtain ⟨film, hfilm, hid⟩ := List.mem_filterMap.mp hn
    exact absurd hid (by simpa using List.find?_eq_none.mp hfind film hfilm)
  | some film =>
    have hid : number? film = some n := by simpa using List.find?_some hfind
    have hline := line_ok_iff (h film (List.mem_of_find?_eq_some hfind)) (by rw [hid]; rfl)
    rw [lineFor?, hfind, Option.bind_some]
    cases hmade : line film with
    | error fault => simpa [hmade, Except.toOption] using hline
    | ok text => simpa [hmade, Except.toOption] using hline

theorem exists_texts {f : Int → Option String} {ids : List Int} (h : ∀ n ∈ ids, (f n).isSome = true) :
    ∃ texts : List String, ids.map f = texts.map some := by
  induction ids with
  | nil => exact ⟨[], rfl⟩
  | cons n rest ih =>
    obtain ⟨hn, hrest⟩ := List.forall_mem_cons.mp h
    obtain ⟨text, htext⟩ := Option.isSome_iff_exists.mp hn
    obtain ⟨texts, htexts⟩ := ih hrest
    exact ⟨text :: texts, by rw [List.map_cons, List.map_cons, htext, htexts]⟩

/-! ## Inquiries one after the other -/

/-- A check of a genre whose request fails, or whose answer lists films. -/
structure Inquiry (language : String) where
  web : Web
  now : Instant
  genre : String
  period : String
  region : String
  key : String
  /-- The films that the answer lists, unless there is no answer. -/
  films? : Option (List (Entries String Value))
  isAnswered : ∀ films, films? = some films → ∃ number, genreNumber? genre = some number ∧
    (discover language web now number period region key).1 = .ok (.list (films.map .record))
  isUnanswered : films? = none → ∀ number, genreNumber? genre = some number →
    ∃ fault, (discover language web now number period region key).1 = .error fault ∧
      (fault.isFailedRequest = true ∨ dateBefore now (daysBack period) = .error fault)
  areListed : ∀ films, films? = some films → ∀ film ∈ films, IsListed film

namespace Inquiry

variable {language : String}

/-- What is seen after inquiries, when nothing was before them. -/
def memoryAfter (before : List (Inquiry language)) : FilmMemory :=
  before.foldl (fun memory q => (check language q.web memory q.now q.genre q.period q.region q.key).2.2) []

/-- What comes of an inquiry after others. -/
def outcome (before : List (Inquiry language)) (q : Inquiry language) : Except Fault (Option (List String)) :=
  (check language q.web (memoryAfter before) q.now q.genre q.period q.region q.key).1

/-- The ids of the films that the answer lists. -/
def ids (q : Inquiry language) : List Int :=
  (q.films?.getD []).filterMap number?

/-- The ids that were listed by the answers to the inquiries about a genre and a region. -/
def listed (before : List (Inquiry language)) (number : Option Int) (region : String) : List Int :=
  (before.filter fun r => genreNumber? r.genre = number ∧ r.region = region).flatMap ids

/-- The ids that are due: the first ten that the answer lists and no earlier one about that genre and region did. -/
def due (before : List (Inquiry language)) (q : Inquiry language) : List Int :=
  reportedIds (listed before (genreNumber? q.genre) q.region) [] (q.films?.getD [])

/-- An inquiry reports an entry for each id that is due, in order, or nothing if none is. Without an answer it reports
nothing, or meets the fault of a date before the calendar. -/
def Reports (before : List (Inquiry language)) (q : Inquiry language) : Prop :=
  match q.films? with
  | none =>
    q.outcome before = .ok none ∨
      ∃ fault, dateBefore q.now (daysBack q.period) = .error fault ∧ q.outcome before = .error fault
  | some films =>
    ∃ lines, (q.due before).map (lineFor? films) = lines.map some ∧
      q.outcome before = .ok (if lines.isEmpty then none else some lines)

/-- The ratings of the films that are due lie within the doubles. -/
def IsRatable (before : List (Inquiry language)) (q : Inquiry language) : Prop :=
  ∀ n ∈ q.due before, ∀ film, (q.films?.getD []).find? (fun film => number? film == some n) = some film →
    Films.IsRatable film

/-- What is seen for a genre and a region are the ids that were listed for them. -/
def IsKept (before : List (Inquiry language)) : Prop :=
  ∀ number region, ∃ ids : List Int, Films.seen (memoryAfter before) number region = ids.map .int ∧
    ∀ n, n ∈ ids ↔ n ∈ listed before (some number) region

/-! ### What an inquiry does -/

variable {before : List (Inquiry language)} {q : Inquiry language}

theorem memoryAfter_concat (before : List (Inquiry language)) (q : Inquiry language) :
    memoryAfter (before ++ [q]) =
      (check language q.web (memoryAfter before) q.now q.genre q.period q.region q.key).2.2 := by
  rw [memoryAfter, List.foldl_append]
  rfl

theorem listed_concat (before : List (Inquiry language)) (q : Inquiry language) (number : Option Int)
    (region : String) :
    listed (before ++ [q]) number region =
      listed before number region ++ if genreNumber? q.genre = number ∧ q.region = region then q.ids else [] := by
  rw [listed, List.filter_append, List.flatMap_append, listed]
  by_cases hsame : genreNumber? q.genre = number ∧ q.region = region <;> simp [hsame]

theorem ids_of_unanswered (h : q.films? = none) : q.ids = [] := by
  rw [ids, h]
  rfl

/-- An inquiry without an answer changes nothing, and reports nothing. -/
theorem unanswered (h : q.films? = none) (before : List (Inquiry language)) :
    memoryAfter (before ++ [q]) = memoryAfter before ∧ q.Reports before := by
  rw [memoryAfter_concat, Reports, h, outcome]
  obtain ⟨-, hout, hmemory⟩ | ⟨number, hnumber, hgets⟩ :=
    check_cases language q.web (memoryAfter before) q.now q.genre q.period q.region q.key
  · exact ⟨hmemory, .inl hout⟩
  obtain ⟨fault, hfault, hkind⟩ := q.isUnanswered h number hnumber
  obtain ⟨fault', hfault', hout, hmemory⟩ | ⟨releases, hreleases, -, -⟩ := hgets
  · obtain rfl := Except.error.inj (hfault.symm.trans hfault')
    refine ⟨hmemory, ?_⟩
    rw [hout]
    cases hfailed : fault.isFailedRequest with
    | true => exact .inl rfl
    | false =>
      refine .inr ⟨fault, hkind.resolve_left ?_, rfl⟩
      rw [hfailed]
      exact Bool.false_ne_true
  · cases hfault.symm.trans hreleases

/-- An inquiry with an answer goes through the films of the answer. -/
theorem answered {films : List (Entries String Value)} {number : Int} (h : q.films? = some films)
    (hnumber : genreNumber? q.genre = some number) {known : List Int}
    (hseen : Films.seen (memoryAfter before) number q.region = known.map .int) :
    let r := collect (known.map .int) [] (films.map .record)
    q.outcome before = r.1.map (fun lines => if lines.isEmpty then none else some lines) ∧
      ∀ number' region', Films.seen (memoryAfter (before ++ [q])) number' region' =
        if number = number' ∧ q.region = region' then r.2
        else Films.seen (memoryAfter before) number' region' := by
  intro r
  rw [memoryAfter_concat, outcome]
  obtain ⟨number', hnumber', hanswer⟩ := q.isAnswered films h
  obtain ⟨hunknown, -, -⟩ | ⟨number'', hnumber'', hgets⟩ :=
    check_cases language q.web (memoryAfter before) q.now q.genre q.period q.region q.key
  · cases hnumber.symm.trans hunknown
  obtain rfl := Option.some.inj (hnumber.symm.trans hnumber')
  obtain rfl := Option.some.inj (hnumber.symm.trans hnumber'')
  obtain ⟨fault, hfault, -, -⟩ | ⟨releases, hreleases, hout, hmemory⟩ := hgets
  · cases hanswer.symm.trans hfault
  obtain rfl := Except.ok.inj (hanswer.symm.trans hreleases)
  rw [hout, hmemory]
  constructor
  · rw [Films.seen] at hseen
    rw [commit, hseen]
    rfl
  · intro number' region'
    rw [seen_commit, marked, hseen]
    rfl

theorem due_eq (h : q.films? = some films) {known : List Int}
    (hknown : ∀ n, n ∈ known ↔ n ∈ listed before (genreNumber? q.genre) q.region) :
    q.due before = reportedIds known [] films := by
  rw [due, h, Option.getD_some, reportedIds, reportedIds, newIds_congr hknown]

/-- An id that is due is one that the answer lists, and no earlier answer for that genre and region. -/
theorem mem_due {n : Int} (h : n ∈ q.due before) :
    n ∈ q.ids ∧ n ∉ listed before (genreNumber? q.genre) q.region :=
  mem_newIds.mp (List.mem_of_mem_take h)

theorem nodup_due (before : List (Inquiry language)) (q : Inquiry language) : (q.due before).Nodup :=
  (nodup_newIds _ _).sublist (List.take_sublist _ _)

/-- The ratings of the films that are due lie within the doubles iff each of those films has an entry. -/
theorem isRatable_iff (h : q.films? = some films) (before : List (Inquiry language)) :
    q.IsRatable before ↔ ∀ n ∈ q.due before, (lineFor? films n).isSome = true := by
  have hids : q.ids = films.filterMap number? := by rw [ids, h, Option.getD_some]
  rw [IsRatable, h, Option.getD_some]
  refine forall₂_congr fun n hn => (isSome_lineFor?_iff (q.areListed films h) ?_).symm
  exact hids ▸ (mem_due hn).1

/-- As long as what is seen are the ids that were listed, an inquiry reports what is due iff the ratings allow it, and
then what is seen afterwards are again the ids that were listed. -/
theorem step (hkept : IsKept before) (q : Inquiry language) :
    (q.Reports before ↔ q.IsRatable before) ∧ (q.IsRatable before → IsKept (before ++ [q])) := by
  cases hfilms : q.films? with
  | none =>
    obtain ⟨hmemory, hreports⟩ := unanswered hfilms before
    refine ⟨iff_of_true hreports ?_, fun _ number region => ?_⟩
    · intro n hn
      have hlisted := (mem_due hn).1
      rw [ids_of_unanswered hfilms] at hlisted
      cases hlisted
    · rw [hmemory, listed_concat, ids_of_unanswered hfilms, ite_self, List.append_nil]
      exact hkept number region
  | some films =>
    obtain ⟨number, hnumber, -⟩ := q.isAnswered films hfilms
    obtain ⟨known, hseen, hknown⟩ := hkept number q.region
    obtain ⟨hout, hafter⟩ := answered hfilms hnumber hseen
    rw [← hnumber] at hknown
    have hdue := due_eq hfilms hknown
    have hcollects := collects (q.areListed films hfilms) known []
    have hratable := isRatable_iff hfilms before
    refine ⟨⟨fun hreports => ?_, fun h => ?_⟩, fun h number' region' => ?_⟩
    · -- a film that is due and has no entry would have made the check end with a fault
      rw [Reports, hfilms] at hreports
      obtain ⟨lines, hlines, -⟩ := hreports
      refine hratable.mpr fun n hn => ?_
      have hmem : lineFor? films n ∈ lines.map some := hlines ▸ List.mem_map_of_mem hn
      obtain ⟨text, -, htext⟩ := List.mem_map.mp hmem
      rw [← htext]
      rfl
    · obtain ⟨texts, htexts⟩ := exists_texts (hratable.mp h)
      rw [Reports, hfilms]
      refine ⟨texts, htexts, ?_⟩
      rw [hdue] at htexts
      rw [hout, hcollects.entries texts htexts]
      rfl
    · obtain ⟨texts, htexts⟩ := exists_texts (hratable.mp h)
      rw [hdue] at htexts
      rw [hafter, hcollects.entries texts htexts, listed_concat, hnumber]
      by_cases hsame : number = number' ∧ q.region = region'
      · obtain ⟨rfl, rfl⟩ := hsame
        rw [if_pos ⟨rfl, rfl⟩, if_pos ⟨rfl, rfl⟩, ← hnumber]
        refine ⟨_, rfl, fun n => ?_⟩
        rw [List.mem_append, List.mem_append, mem_newIds, hknown, ids, hfilms, Option.getD_some]
        tauto
      · rw [if_neg hsame, if_neg (by simpa using hsame), List.append_nil]
        exact hkept number' region'

/-! ### Runs of inquiries -/

theorem isKept_nil : IsKept ([] : List (Inquiry language)) := fun _ _ => ⟨[], rfl, by simp [listed]⟩

/-- As long as the ratings allow it, what is seen are the ids that were listed. -/
theorem isKept (before : List (Inquiry language))
    (h : ∀ earlier q, earlier ++ [q] <+: before → q.IsRatable earlier) : IsKept before := by
  induction before using List.reverseRecOn with
  | nil => exact isKept_nil
  | append_singleton before q ih =>
    have hbefore := ih fun earlier r hr => h earlier r (hr.trans (List.prefix_append before [q]))
    exact (step hbefore q).2 (h before q List.prefix_rfl)

/-- Each of a run of inquiries reports what is due iff the ratings of what is due lie within the doubles each time. An
inquiry without an answer changes nothing that is seen. What is due at one inquiry is due once, is listed by its
answer, and was not listed by an earlier answer for that genre and region. -/
theorem reports_iff (inquiries : List (Inquiry language)) :
    ((∀ before q, before ++ [q] <+: inquiries → q.Reports before) ↔
      ∀ before q, before ++ [q] <+: inquiries → q.IsRatable before) ∧
    (∀ before q, before ++ [q] <+: inquiries → q.films? = none → memoryAfter (before ++ [q]) = memoryAfter before) ∧
    ∀ before q, before ++ [q] <+: inquiries → (q.due before).Nodup ∧ ∀ n ∈ q.due before, n ∈ q.ids ∧
      ∀ r ∈ before, genreNumber? r.genre = genreNumber? q.genre → r.region = q.region → n ∉ r.ids := by
  refine ⟨⟨fun hreports => ?_, fun hratable before q hq => ?_⟩, fun before q _ hnone => (unanswered hnone before).1,
    fun before q _ => ⟨nodup_due before q, fun n hn => ⟨(mem_due hn).1, ?_⟩⟩⟩
  · induction inquiries using List.reverseRecOn with
    | nil => exact fun before q hq => absurd (List.prefix_nil.mp hq) (by simp)
    | append_singleton inquiries last ih =>
      have hearlier := ih fun before q hq => hreports before q (hq.trans (List.prefix_append inquiries [last]))
      intro before q hq
      rcases List.prefix_concat_iff.mp hq with hlast | hprefix
      · obtain ⟨rfl, hsingle⟩ := List.append_inj' hlast rfl
        obtain rfl := List.singleton_inj.mp hsingle
        exact (step (isKept before hearlier) q).1.mp (hreports before q hq)
      · exact hearlier before q hprefix
  · have hearlier : ∀ earlier r, earlier ++ [r] <+: before → r.IsRatable earlier := fun earlier r hr =>
      hratable earlier r (hr.trans ((List.prefix_append before [q]).trans hq))
    exact (step (isKept before hearlier) q).1.mpr (hratable before q hq)
  · intro r hr hgenre hregion hlisted
    refine (mem_due hn).2 (List.mem_flatMap.mpr ⟨r, List.mem_filter.mpr ⟨hr, ?_⟩, hlisted⟩)
    simp [hgenre, hregion]

/-! ### A rating beyond the doubles -/

/-- A film with an id and an integer as its rating. -/
def rated (id rating : Int) : Entries String Value :=
  [("id", .int id), ("vote_average", .int rating)]

/-- The id and the rating of the only film that a body lists, if both are integers. -/
def onlyFilm? : Value → Option (Int × Int)
  | .record [("results", .list [.record [("id", .int id), ("vote_average", .int rating)]])] => some (id, rating)
  | _ => none

theorem eq_of_onlyFilm? {v : Value} {id rating : Int} (h : onlyFilm? v = some (id, rating)) :
    v = .record [("results", .list [.record (rated id rating)])] := by
  simp only [onlyFilm?] at h
  split at h
  · cases h
    rfl
  · cases h

/-- A rating beyond the doubles. -/
def beyond : Int := 10 ^ 400

/-- The characters of a body that lists one film, with that rating. -/
def overratedChars : List Char :=
  "\x7b\"results\":[\x7b\"id\":1,\"vote_average\":1".toList ++ List.replicate 400 '0' ++ "\x7d]\x7d".toList

/-- The body of those characters. -/
def overratedBody : String :=
  String.ofList overratedChars

theorem read_overratedBody :
    Json.read overratedBody = .ok (.record [("results", .list [.record (rated 1 beyond)])]) := by
  have hfilm : (Json.read overratedBody).toOption.bind onlyFilm? = some (1, beyond) := by
    -- the kernel is given the characters themselves, which it would be slow to get out of the text
    rewrite [Json.read, overratedBody, String.toList_ofList]
    decide +kernel
  obtain ⟨v, hv, hv'⟩ := Option.bind_eq_some_iff.mp hfilm
  exact (eq_ok_of_toOption hv).trans (congrArg Except.ok (eq_of_onlyFilm? hv'))

theorem results_overratedBody :
    results (.reply 200 overratedBody) = .ok (.list ([rated 1 beyond].map .record)) := by
  have hmark : overratedBody.startsWith "\ufeff" = false := by decide +kernel
  have hjson : Answer.json (.reply 200 overratedBody) =
      .ok (.record [("results", .list [.record (rated 1 beyond)])]) := by
    rw [Answer.json, hmark, if_neg Bool.false_ne_true, read_overratedBody]
    rfl
  rw [results, hjson]
  rfl

/-- An inquiry that is answered with a film whose rating lies beyond the doubles. -/
def overrated : Inquiry "en-US" where
  web := ⟨[.reply 200 overratedBody], []⟩
  now := Clock.start
  genre := "27"
  period := "Week"
  region := "UA"
  key := "k"
  films? := some [rated 1 beyond]
  isAnswered := by
    intro films hfilms
    obtain rfl := Option.some.inj hfilms
    exact ⟨27, by decide, results_overratedBody⟩
  isUnanswered := by simp
  areListed := by
    intro films hfilms film hfilm
    obtain rfl := Option.some.inj hfilms
    obtain rfl := List.mem_singleton.mp hfilm
    exact ⟨by simp [rated, Entries.find?], by simp [rated, Entries.find?]⟩

/-- Such an inquiry, made first, does not report the film. -/
theorem overrated_not_reports : ¬overrated.Reports [] := by
  have hdue : overrated.due [] = [1] := by decide +kernel
  have hbeyond : Binary.ofInt? beyond = none := by decide +kernel
  rw [(step isKept_nil overrated).1, IsRatable, hdue]
  intro h
  have hratable := h 1 (List.mem_singleton_self 1) (rated 1 beyond) rfl beyond rfl (pow_ne_zero 400 (by decide))
  rw [hbeyond] at hratable
  cases hratable

end Inquiry

end Deskhand.Films
