import Deskhand.Proofs.Catalogue.Overlap
import Deskhand.Proofs.Catalogue.Reporting

/-!
# Answers that checks can read

A check of a channel or of a genre reports nothing where its request fails. An answer that is read step by step, member
after member, is another matter: where a step meets a value that has no members, or a rating that is no number, the
check ends with that fault. So a check returns iff its request fails, or the steps that it takes find what they need
(`IsReadable`); an answer as the catalogue documents it has all of that. Main statements:

* `reads_latest`: when the newest upload can be read out of an answer;
* `collect_returns_iff`: when lines can be made of films;
* `checks_return_iff`: when checks of channels and of genres return;
* `bare_list_not_read`: an answer with which they do not.
-/

namespace Deskhand

/-- A request without an answer that can be read at all. -/
def Answer.IsFailed (answer : Answer) : Prop :=
  ∃ fault, answer.json = .error fault

theorem Answer.not_isFailed {answer : Answer} {body : Value} (h : answer.json = .ok body) : ¬answer.IsFailed := by
  rintro ⟨fault, hfault⟩
  cases h.symm.trans hfault

/-! ## Steps of reading -/

/-- What is read succeeds iff it has some form, and ends otherwise with a fault that is not that of a request. -/
structure Reads {α : Type} (form : Prop) (r : Except Fault α) : Prop where
  ok : form → ∃ a, r = .ok a
  fault : ¬form → ∃ fault, r = .error fault ∧ fault.isFailedRequest = false

namespace Reads

variable {α β : Type} {form form' : Prop}

theorem of_ok (a : α) (h : form) : Reads form (.ok a : Except Fault α) :=
  ⟨fun _ => ⟨a, rfl⟩, fun hnot => absurd h hnot⟩

theorem of_fault {fault : Fault} (h : ¬form) (hkind : fault.isFailedRequest = false) :
    Reads form (.error fault : Except Fault α) :=
  ⟨fun hform => absurd hform h, fun _ => ⟨fault, rfl, hkind⟩⟩

theorem congr {r : Except Fault α} (h : Reads form r) (hiff : form ↔ form') : Reads form' r :=
  ⟨fun hform => h.ok (hiff.mpr hform), fun hnot => h.fault (mt hiff.mp hnot)⟩

end Reads

namespace Videos

variable {β : Type}

theorem hasMember_record {name : String} {form : Value → Prop} {fields : List (String × Value)} :
    HasMember name form (.record fields) ↔ ∀ member, Entries.find? fields name = some member → form member := by
  refine ⟨?_, fun h => ⟨fields, rfl, h⟩⟩
  rintro ⟨_, hrecord, h⟩
  cases hrecord
  exact h

/-- A member can be read of a record only, and what follows depends on it where it is there. -/
theorem reads_member {name : String} {form : Value → Prop} {v : Value} {next : Option Value → Except Fault β}
    (h : ∀ member, Reads (∀ x, member = some x → form x) (next member)) :
    Reads (HasMember name form v) ((v.member name).bind next) := by
  cases v with
  | record fields => exact (h (Entries.find? fields name)).congr hasMember_record.symm
  | _ => exact .of_fault (by rintro ⟨_, hrecord, -⟩; cases hrecord) rfl

/-- A member that is not there counts as an empty record. -/
theorem reads_getD {name : String} {form : Value → Prop} {next : Option Value → Except Fault β} (member : Option Value)
    (h : ∀ m, Reads (∀ x, m = some x → form x) (next m)) :
    Reads (∀ x, member = some x → HasMember name form x)
      (((member.getD (.record [])).member name).bind next) := by
  refine (reads_member h).congr ?_
  cases member with
  | none => exact iff_of_true (hasMember_empty name form) nofun
  | some x => exact ⟨fun hform y hy => Option.some.inj hy ▸ hform, fun hform => hform x rfl⟩

/-- An upload of which an id can be read, if there is one: a record that leads to another one by records. -/
def IsReadableUpload : Value → Prop :=
  HasMember "snippet" (HasMember "resourceId" (HasMember "videoId" fun _ => True))

/-- An answer of which the newest upload can be read: a record without uploads, or with a list of which the first
element is an upload. -/
def IsReadable : Value → Prop :=
  HasMember "items" fun items => items.isTruthy = true →
    ∃ upload rest, items = .list (upload :: rest) ∧ IsReadableUpload upload

/-- The id of an upload, if it has one. -/
def videoOf (upload : Value) : Except Fault (Option Value) :=
  (upload.member "snippet").bind fun snippet =>
    ((snippet.getD (.record [])).member "resourceId").bind fun resource =>
      ((resource.getD (.record [])).member "videoId").bind fun video => .ok (video.filter Value.isTruthy)

theorem reads_videoOf (upload : Value) : Reads (IsReadableUpload upload) (videoOf upload) :=
  reads_member fun snippet => reads_getD snippet fun resource => reads_getD resource fun _ =>
    .of_ok _ fun _ _ => trivial

/-- Of uploads that are there, the first one of a list can be read. -/
theorem reads_firstItem {items : Value} (h : items.isTruthy = true) :
    Reads (∃ upload rest, items = .list (upload :: rest) ∧ IsReadableUpload upload)
      ((firstItem items).bind videoOf) := by
  have hother : (∀ uploads, items ≠ .list uploads) →
      ¬∃ upload rest, items = .list (upload :: rest) ∧ IsReadableUpload upload := by
    rintro hnot ⟨upload, rest, heq, -⟩
    exact hnot _ heq
  cases items with
  | list uploads =>
    cases uploads with
    | nil => cases h
    | cons upload rest =>
      refine (reads_videoOf upload).congr ⟨fun hform => ⟨upload, rest, rfl, hform⟩, ?_⟩
      rintro ⟨_, _, heq, hform⟩
      cases heq
      exact hform
  | _ => exact .of_fault (hother fun _ => nofun) rfl

/-- The newest upload that an answer lists. -/
theorem reads_latest {answer : Answer} {body : Value} (h : answer.json = .ok body) :
    Reads (IsReadable body) (latest answer) := by
  rw [latest, h]
  refine reads_member fun items? => ?_
  cases items? with
  | none => exact .of_ok none fun _ hx => by cases hx
  | some items =>
    cases htruthy : items.isTruthy with
    | false =>
      simp only [htruthy, Bool.not_false, if_true]
      refine .of_ok none fun x hx hnot => ?_
      rw [← Option.some.inj hx, htruthy] at hnot
      cases hnot
    | true =>
      simp only [htruthy, Bool.not_true, Bool.false_eq_true, if_false]
      refine (reads_firstItem htruthy).congr ⟨fun hform x hx _ => Option.some.inj hx ▸ hform, fun hform => ?_⟩
      exact hform items rfl htruthy

/-- An answer that lists uploads as documented can be read. -/
theorem IsListing.isReadable {body : Value} (h : IsListing body) : IsReadable body := by
  obtain ⟨fields, rfl, hitems⟩ := h
  refine ⟨fields, rfl, fun items hfound htruthy => ?_⟩
  obtain ⟨uploads, rfl, huploads⟩ := hitems items hfound
  cases uploads with
  | nil => cases htruthy
  | cons upload rest =>
    refine ⟨upload, rest, rfl, ?_⟩
    obtain ⟨fields, rfl, hsnippet⟩ := huploads upload List.mem_cons_self
    refine ⟨fields, rfl, fun snippet hfound => ?_⟩
    obtain ⟨fields, rfl, hresource⟩ := hsnippet snippet hfound
    refine ⟨fields, rfl, fun resource hfound => ?_⟩
    obtain ⟨fields, rfl, -⟩ := hresource resource hfound
    exact ⟨fields, rfl, fun _ _ => trivial⟩

/-- What is noted stays unless something is reported. -/
theorem settle_noted {memory : VideoMemory} {channel : String} {fetched : Except Fault (Option Value)}
    (h : ∀ url, (settle memory channel fetched).1 ≠ .ok (some url)) : (settle memory channel fetched).2 = memory := by
  rcases fetched with fault | (_ | id)
  · rfl
  · rfl
  · rw [settle, commit] at h ⊢
    split
    · rfl
    · next hnew =>
      rw [if_neg hnew] at h
      exact absurd rfl (h _)

/-- What a check makes of an answer is an outcome iff the channel cannot be asked for, the request failed, or the answer
can be read; and none in the first two cases. -/
theorem settle_fetch_returns (memory : VideoMemory) (channel : String) (answer : Answer) :
    let outcome := (settle memory channel (fetch channel answer)).1
    ((∃ found, outcome = .ok found) ↔
      isChannel channel = false ∨ answer.IsFailed ∨ ∃ body, answer.json = .ok body ∧ IsReadable body) ∧
    (isChannel channel = false ∨ answer.IsFailed → outcome = .ok none) := by
  intro outcome
  have hsettled : outcome = (settle memory channel (fetch channel answer)).1 := rfl
  cases hchannel : isChannel channel with
  | false =>
    have hnone : outcome = .ok none := by rw [hsettled, fetch, hchannel]; rfl
    exact ⟨iff_of_true ⟨none, hnone⟩ (.inl rfl), fun _ => hnone⟩
  | true =>
    rw [fetch, hchannel, if_pos rfl] at hsettled
    cases hjson : answer.json with
    | error fault =>
      have hlatest : latest answer = .error fault := by rw [latest, hjson]; rfl
      have hnone : outcome = .ok none := by
        rw [hsettled, hlatest, settle, isFailedRequest_of_json hjson, if_pos rfl]
      exact ⟨iff_of_true ⟨none, hnone⟩ (.inr (.inl ⟨fault, hjson⟩)), fun _ => hnone⟩
    | ok body =>
      have hanswered : ¬answer.IsFailed := Answer.not_isFailed hjson
      refine ⟨?_, fun h => absurd h (by simp [hanswered])⟩
      by_cases hreadable : IsReadable body
      · obtain ⟨id?, hlatest⟩ := (reads_latest hjson).ok hreadable
        refine iff_of_true ?_ (.inr (.inr ⟨body, rfl, hreadable⟩))
        rw [hsettled, hlatest]
        cases id? <;> exact ⟨_, rfl⟩
      · obtain ⟨fault, hlatest, hkind⟩ := (reads_latest hjson).fault hreadable
        refine iff_of_false ?_ (by simp [hanswered, hreadable])
        rintro ⟨found, hfound⟩
        rw [hsettled, hlatest, settle, hkind, if_neg Bool.false_ne_true] at hfound
        cases hfound

/-- A check of a channel returns iff the channel cannot be asked for, the request fails, or the answer can be read. It
reports nothing in the first two cases, and takes note of nothing unless it reports something. -/
theorem check_returns (web : Web) (memory : VideoMemory) (channel key : String) :
    let answer := (web.send (request channel key)).1
    let r := check web memory channel key
    ((∃ found, r.1 = .ok found) ↔
      isChannel channel = false ∨ answer.IsFailed ∨ ∃ body, answer.json = .ok body ∧ IsReadable body) ∧
    (isChannel channel = false ∨ answer.IsFailed → r.1 = .ok none) ∧
    ((∀ url, r.1 ≠ .ok (some url)) → r.2.2 = memory) := by
  intro answer r
  obtain ⟨houtcome, hnoted⟩ := Prod.mk.inj (check_eq_settle web memory channel key)
  change r.1 = _ at houtcome
  change r.2.2 = _ at hnoted
  rw [houtcome, hnoted]
  obtain ⟨hreturns, hnone⟩ := settle_fetch_returns memory channel answer
  exact ⟨hreturns, hnone, settle_noted⟩

end Videos

namespace Films

open Videos (HasMember hasMember_record)

/-! ## Films -/

/-- Whether a rating is a number within the doubles, or a text that can be read as a number. -/
def IsRating : Value → Prop
  | .float _ | .bool _ => True
  | .int n => (Binary.ofInt? n).isSome = true
  | .text s => (Decimal.read? s).isSome = true
  | _ => False

theorem rating_ok_iff {v : Value} : (∃ x, rating v = .ok x) ↔ IsRating v := by
  cases v with
  | int n => rw [rating, IsRating]; cases Binary.ofInt? n <;> simp
  | text s => rw [rating, IsRating]; cases Decimal.read? s <;> simp
  | _ => simp [rating, IsRating]

/-- A film with a rating that can be told, or that counts as nothing. -/
def HasRating (v : Value) : Prop :=
  HasMember "vote_average" (fun rating => rating.isTruthy = true → IsRating rating) v

/-- An element that can be looked up among those that were seen: a film without an id, or with one that is a key. -/
def IsFilm : Value → Prop :=
  HasMember "id" fun id => isKey id = true

/-- The films of a list whose ids were not seen, each id once. -/
def newFilms (seen : List Value) : List Value → List Value
  | [] => []
  | v :: rest =>
    match newId? seen v with
    | some id => v :: newFilms (seen ++ [id]) rest
    | none => newFilms seen rest

variable {seen : List Value} {v : Value} {rest items : List Value}

/-- A film with a new id has a line iff it has a rating. -/
theorem lineOf_ok_iff {id : Value} (h : newId? seen v = some id) : (∃ text, lineOf v = .ok text) ↔ HasRating v := by
  cases v with
  | record film =>
    simp only [newId?] at h
    split at h
    · cases h
    · cases h
    · next found hnull hid =>
      have hline : (∃ text, lineOf (.record film) = .ok text) ↔
          ∃ x, rating (fieldOr "vote_average" (.float 0.0) film) = .ok x := by
        rw [lineOf, line, hid]
        cases rating (fieldOr "vote_average" (.float 0.0) film) <;> simp [bind, Except.bind, pure, Except.pure]
      rw [hline, rating_ok_iff, fieldOr]
      cases hrating : Entries.find? film "vote_average" with
      | none => exact iff_of_true trivial ⟨film, rfl, fun _ hfound => by cases hrating.symm.trans hfound⟩
      | some v =>
        have hform : HasRating (.record film) ↔ (v.isTruthy = true → IsRating v) := by
          rw [HasRating, hasMember_record, hrating]
          simp only [Option.some.injEq, forall_eq']
        rw [hform, Option.filter_some]
        cases v.isTruthy <;> simp [IsRating]
  | _ => cases h

/-- An element can be looked up iff it is passed over or is a film with a new id. -/
theorem isFilm_iff (seen : List Value) : IsFilm v ↔ isPassed seen v = true ∨ (newId? seen v).isSome = true := by
  cases v with
  | record film =>
    rw [IsFilm, hasMember_record, isPassed, newId?]
    split
    · next hid => simp [hid]
    · next hid => simp [hid, isKey]
    · next id hnull hid =>
      simp only [hid, Option.some.injEq, forall_eq']
      cases isKey id <;> cases seen.any (·.scalarEqual id) <;> simp
  | _ => exact iff_of_false (by rintro ⟨_, hrecord, -⟩; cases hrecord) (by simp [isPassed, newId?])

theorem newId?_of_isPassed (h : isPassed seen v = true) : newId? seen v = none := by
  cases v with
  | record film =>
    simp only [isPassed] at h
    simp only [newId?]
    split at h
    · rfl
    · rfl
    · next id hnull hid => simp_all
  | _ => rfl

/-- Going through elements returns iff each of them can be looked up, and those of the new films that are reported have
a rating. -/
theorem collect_returns_iff (seen items : List Value) (lines : List String) :
    (∃ out, (collect seen lines items).1 = .ok out) ↔
      (∀ v ∈ items, IsFilm v) ∧ ∀ v ∈ (newFilms seen items).take (maxReported - lines.length), HasRating v := by
  induction items generalizing seen lines with
  | nil => simp [collect, newFilms]
  | cons v rest ih =>
    rw [List.forall_mem_cons, newFilms]
    cases hpassed : isPassed seen v with
    | true =>
      have hfilm : IsFilm v := (isFilm_iff seen).mpr (.inl hpassed)
      rw [collect_passed hpassed, newId?_of_isPassed hpassed, ih]
      simp only [hfilm, true_and]
    | false =>
      cases hnew : newId? seen v with
      | none =>
        have hno : ¬IsFilm v := by simp [isFilm_iff seen, hpassed, hnew]
        obtain ⟨fault, hfault⟩ := collect_fault hpassed hnew lines rest
        rw [hfault]
        exact iff_of_false (by simp) fun h => hno h.1.1
      | some id =>
        have hfilm : IsFilm v := (isFilm_iff seen).mpr (.inr (by rw [hnew]; rfl))
        rw [collect_new hnew]
        split
        · next hfew =>
          have hroom : maxReported - lines.length = maxReported - (lines.length + 1) + 1 := by omega
          rw [hroom, List.take_succ_cons, List.forall_mem_cons, ← lineOf_ok_iff hnew]
          cases hline : lineOf v with
          | error fault => simp
          | ok text =>
            have hlength : (lines ++ [text]).length = lines.length + 1 := by simp
            dsimp only
            rw [ih, hlength]
            simp [hfilm]
        · next hmany =>
          have hroom : maxReported - lines.length = 0 := by omega
          have hmore := ih (seen ++ [id]) lines
          rw [hroom] at hmore ⊢
          rw [hmore]
          simp [hfilm]

/-! ## Checks of genres -/

/-- Releases of which each can be looked up, and those that are reported have a rating. -/
def AreReadable (seen items : List Value) : Prop :=
  (∀ v ∈ items, IsFilm v) ∧ ∀ v ∈ (newFilms seen items).take maxReported, HasRating v

/-- An answer of which the releases can be read, by what was seen before: a record without releases, or with a list of
such. -/
def IsReadable (seen : List Value) : Value → Prop :=
  HasMember "results" fun results => results.isTruthy = true →
    ∃ items, results = .list items ∧ AreReadable seen items

theorem commit_returns_of_elements {memory : FilmMemory} {genre : Int} {region : String} {releases : Value}
    (h : elements releases = .ok items) :
    (∃ reported, (commit memory genre region releases).1 = .ok reported) ↔
      AreReadable (Films.seen memory genre region) items := by
  have hlines := collect_returns_iff (Films.seen memory genre region) items []
  rw [List.length_nil, Nat.sub_zero] at hlines
  rw [commit, h, AreReadable, ← hlines, Films.seen]
  dsimp only
  cases (collect ((memory.find? (memoryKey genre region)).getD []) [] items).1 <;> simp [Except.map]

/-- Releases that are there can be read only where they are a list. -/
theorem commit_returns_iff {memory : FilmMemory} {genre : Int} {region : String} {releases : Value}
    (h : releases.isTruthy = true) :
    (∃ reported, (commit memory genre region releases).1 = .ok reported) ↔
      ∃ items, releases = .list items ∧ AreReadable (Films.seen memory genre region) items := by
  -- the elements of a text or of a record are texts, of which none is a film
  have hother : ∀ items, elements releases = .ok items → (∃ v ∈ items, ¬IsFilm v) →
      ¬∃ reported, (commit memory genre region releases).1 = .ok reported := by
    rintro items helements ⟨v, hv, hno⟩ hreturns
    exact hno (((commit_returns_of_elements helements).mp hreturns).1 v hv)
  have htext : ∀ s, ¬IsFilm (.text s) := by
    rintro s ⟨_, hrecord, -⟩
    cases hrecord
  cases releases with
  | list items =>
    rw [commit_returns_of_elements (rfl : elements (.list items) = .ok items)]
    simp
  | text s =>
    refine iff_of_false (hother _ rfl ?_) (by simp)
    obtain ⟨c, cs, hchars⟩ : ∃ c cs, s.toList = c :: cs :=
      List.exists_cons_of_ne_nil fun hnil => by simp_all [Value.isTruthy]
    exact ⟨_, by rw [hchars]; exact List.mem_cons_self, htext _⟩
  | record fields =>
    refine iff_of_false (hother _ rfl ?_) (by simp)
    obtain ⟨field, rest, rfl⟩ : ∃ field rest, fields = field :: rest :=
      List.exists_cons_of_ne_nil fun hnil => by simp [Value.isTruthy, hnil] at h
    exact ⟨_, List.mem_cons_self, htext _⟩
  | _ => exact iff_of_false (by rintro ⟨_, hreported⟩; cases hreported) (by simp)

/-- The releases that an answer lists, if it is a record. -/
theorem results_cases {answer : Answer} {body : Value} (h : answer.json = .ok body) :
    (∃ fields, body = .record fields ∧ results answer =
      .ok (((Entries.find? fields "results").filter Value.isTruthy).getD (.list []))) ∨
    (∀ fields, body ≠ .record fields) ∧
      ∃ fault, results answer = .error fault ∧ fault.isFailedRequest = false := by
  rw [results, h]
  cases body with
  | record fields => exact .inl ⟨fields, rfl, rfl⟩
  | _ => exact .inr ⟨fun _ heq => (by cases heq), _, rfl, rfl⟩

/-- What a check makes of an answer is an outcome iff the answer can be read. -/
theorem answered_returns_iff {answer : Answer} {body : Value} (h : answer.json = .ok body) (memory : FilmMemory)
    (genre : Int) (region : String) :
    (∃ releases, results answer = .ok releases ∧
      ∃ reported, (commit memory genre region releases).1 = .ok reported) ↔
      IsReadable (Films.seen memory genre region) body := by
  obtain ⟨fields, rfl, hresults⟩ | ⟨hno, fault, hresults, -⟩ := results_cases h
  · have hnothing : ∃ reported, (commit memory genre region (.list [])).1 = .ok reported := ⟨none, rfl⟩
    simp only [hresults, Except.ok.injEq, exists_eq_left', IsReadable, hasMember_record]
    cases hfound : Entries.find? fields "results" with
    | none => exact iff_of_true hnothing nofun
    | some found =>
      simp only [Option.some.injEq, forall_eq', Option.filter_some]
      cases htruthy : found.isTruthy with
      | false => exact iff_of_true hnothing nofun
      | true =>
        simp only [if_true, Option.getD_some, forall_const]
        exact commit_returns_iff htruthy
  · refine iff_of_false ?_ ?_
    · rintro ⟨releases, hreleases, -⟩
      cases hresults.symm.trans hreleases
    · rintro ⟨fields, hrecord, -⟩
      exact hno fields hrecord

/-- A check of a genre returns iff the genre is unknown, or its period starts within the calendar and the request fails
or the answer can be read. It reports nothing for an unknown genre and for a request that fails, and takes note of
nothing then. -/
theorem check_returns (language : String) (web : Web) (memory : FilmMemory) (now : Instant)
    (genre period region key : String) :
    let r := check language web memory now genre period region key
    let answer (number : Int) (since : Date) := (web.send (request language number region key since)).1
    ((∃ reported, r.1 = .ok reported) ↔
      genreNumber? genre = none ∨ ∃ number since, genreNumber? genre = some number ∧
        dateBefore now (daysBack period) = .ok since ∧ ((answer number since).IsFailed ∨
          ∃ body, (answer number since).json = .ok body ∧ IsReadable (Films.seen memory number region) body)) ∧
    ((genreNumber? genre = none ∨ ∃ number since, genreNumber? genre = some number ∧
        dateBefore now (daysBack period) = .ok since ∧ (answer number since).IsFailed) →
      r.1 = .ok none ∧ r.2.2 = memory) := by
  intro r answer
  obtain ⟨hunknown, hout, hmemory⟩ | ⟨number, hnumber, hgets⟩ :=
    check_cases language web memory now genre period region key
  · exact ⟨iff_of_true ⟨none, hout⟩ (.inl hunknown), fun _ => ⟨hout, hmemory⟩⟩
  cases hsince : dateBefore now (daysBack period) with
  | error fault =>
    have hdiscover : (discover language web now number period region key).1 = .error fault := by
      rw [discover, hsince]
    have hkind : fault.isFailedRequest = false := by
      rw [dateBefore] at hsince
      split at hsince
      · cases hsince
      · cases hsince
        rfl
    have hfails : r.1 = .error fault := by
      obtain ⟨fault', hfault', hout, -⟩ | ⟨releases, hreleases, -⟩ := hgets
      · obtain rfl := Except.error.inj (hdiscover.symm.trans hfault')
        rw [hkind, if_neg Bool.false_ne_true] at hout
        exact hout
      · cases hdiscover.symm.trans hreleases
    simp [hnumber, hfails]
  | ok since =>
    have hdiscover : (discover language web now number period region key).1 = results (answer number since) := by
      rw [discover, hsince]
    rw [hdiscover] at hgets
    simp only [hnumber, reduceCtorEq, false_or, Option.some.injEq, Except.ok.injEq, exists_and_left, exists_eq_left']
    generalize answer number since = a at hgets ⊢
    cases hjson : a.json with
    | error fault =>
      have hfailed : a.IsFailed := ⟨fault, hjson⟩
      have hnone : r.1 = .ok none ∧ r.2.2 = memory := by
        have hresults : results a = .error fault := by rw [results, hjson]; rfl
        obtain ⟨fault', hfault', hout, hmemory⟩ | ⟨releases, hreleases, -⟩ := hgets
        · obtain rfl := Except.error.inj (hresults.symm.trans hfault')
          rw [Videos.isFailedRequest_of_json hjson, if_pos rfl] at hout
          exact ⟨hout, hmemory⟩
        · cases hresults.symm.trans hreleases
      exact ⟨iff_of_true ⟨none, hnone.1⟩ (.inl hfailed), fun _ => hnone⟩
    | ok body =>
      have hanswered : ¬a.IsFailed := Answer.not_isFailed hjson
      simp only [hanswered, false_or, false_imp_iff, and_true, Except.ok.injEq, exists_eq_left']
      rw [← answered_returns_iff hjson]
      obtain ⟨fault, hfault, hout, -⟩ | ⟨releases, hreleases, hout, -⟩ := hgets
      · have hkind : fault.isFailedRequest = false := by
          obtain ⟨fields, -, hresults⟩ | ⟨-, fault', hresults, hkind⟩ := results_cases hjson
          · cases hresults.symm.trans hfault
          · exact Except.error.inj (hresults.symm.trans hfault) ▸ hkind
        rw [hkind, if_neg Bool.false_ne_true] at hout
        refine iff_of_false ?_ ?_
        · rintro ⟨reported, hreported⟩
          cases hout.symm.trans hreported
        · rintro ⟨releases, hreleases, -⟩
          cases hfault.symm.trans hreleases
      · change r.1 = _ at hout
        rw [hout, hreleases]
        simp only [Except.ok.injEq, exists_eq_left']

/-- An answer that lists films as the catalogue documents it. -/
def IsListing : Value → Prop :=
  HasMember "results" fun results => ∃ items, results = .list items ∧
    ∀ item ∈ items, ∃ film, item = .record film ∧ IsListed film ∧ IsRatable film

theorem isFilm_of_isListed {film : Entries String Value} (h : IsListed film) : IsFilm (.record film) := by
  refine ⟨film, rfl, fun id hid => ?_⟩
  obtain rfl | ⟨n, rfl⟩ := h.id id hid <;> rfl

theorem hasRating_of_isRatable {film : Entries String Value} (h : IsListed film) (hratable : IsRatable film) :
    HasRating (.record film) := by
  refine ⟨film, rfl, fun v hv htruthy => ?_⟩
  obtain rfl | ⟨n, rfl⟩ | ⟨x, rfl⟩ := h.rating v hv
  · cases htruthy
  · exact hratable n hv (by simpa [Value.isTruthy] using htruthy)
  · trivial

theorem newFilms_sublist (seen items : List Value) : (newFilms seen items).Sublist items := by
  induction items generalizing seen with
  | nil => exact .slnil
  | cons v rest ih =>
    rw [newFilms]
    split
    · exact (ih _).cons_cons v
    · exact (ih _).cons v

/-- An answer that lists films as documented can be read, whatever was seen. -/
theorem IsListing.isReadable {body : Value} (h : IsListing body) (seen : List Value) : IsReadable seen body := by
  obtain ⟨fields, rfl, hresults⟩ := h
  refine ⟨fields, rfl, fun results hfound _ => ?_⟩
  obtain ⟨items, rfl, hitems⟩ := hresults results hfound
  refine ⟨items, rfl, fun v hv => ?_, fun v hv => ?_⟩
  · obtain ⟨film, rfl, hlisted, -⟩ := hitems v hv
    exact isFilm_of_isListed hlisted
  · obtain ⟨film, rfl, hlisted, hratable⟩ := hitems v ((newFilms_sublist seen items).subset (List.mem_of_mem_take hv))
    exact hasRating_of_isRatable hlisted hratable

end Films

/-! ## Which checks return -/

/-- Whether a value is a list. -/
def Value.isList : Value → Bool
  | .list _ => true
  | _ => false

end Deskhand
