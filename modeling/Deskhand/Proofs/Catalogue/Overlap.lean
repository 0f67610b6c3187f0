import Deskhand.Proofs.Entries
import Deskhand.Proofs.Run.News
import Mathlib.Data.List.Destutter

/-!
# Checks of channels that overlap

A check of a channel waits for the answer to its request. Once that has come, the check compares the id that it fetched
with the one that is noted of the channel, and notes it, in one step (`settle`). Checks that overlap take these two
steps in any order (`Overlap.play`). Where answers list uploads as the catalogue documents it, or requests fail, what is
noted of a channel is the last id that a check of it has committed. So what the checks of a channel report are the ids
that they commit, less the repetitions that follow each other. Main statements:

* `Overlap.take_take`: a check that nothing comes between is its two steps;
* `Overlap.Sound.take`: what a step keeps;
* `Overlap.committed_without`: checks of other channels, and such as fetch nothing, do not matter;
* `Overlap.reports_changes`: what overlapping checks report.
-/

namespace Deskhand

/-! ## Lists without repetitions that follow each other -/

section Destutter

variable {α : Type} [DecidableEq α]

theorem destutter'_concat (a : α) (l : List α) (b : α) :
    (l ++ [b]).destutter' (· ≠ ·) a =
      if (a :: l).getLast? = some b then l.destutter' (· ≠ ·) a else l.destutter' (· ≠ ·) a ++ [b] := by
  induction l generalizing a with
  | nil => by_cases hab : a = b <;> simp [hab]
  | cons c l ih =>
    rw [List.cons_append, List.getLast?_cons_cons]
    by_cases hac : a ≠ c
    · rw [List.destutter'_cons_pos _ hac, List.destutter'_cons_pos _ hac, ih]
      split <;> rfl
    · rw [List.destutter'_cons_neg _ hac, List.destutter'_cons_neg _ hac, ih, not_not.mp hac]

/-- One more element counts unless it repeats the last one. -/
theorem destutter_concat (l : List α) (b : α) :
    (l ++ [b]).destutter (· ≠ ·) =
      if l.getLast? = some b then l.destutter (· ≠ ·) else l.destutter (· ≠ ·) ++ [b] := by
  cases l with
  | nil => rfl
  | cons a l => exact destutter'_concat a l b

end Destutter

theorem Value.member_record (name : String) (fields : List (String × Value)) :
    (Value.record fields).member name = .ok (Entries.find? fields name) :=
  rfl

namespace Videos

/-! ## Answers as they are documented -/

/-- Whether a member of a record, if it is there, is of some form. -/
def HasMember (name : String) (form : Value → Prop) (v : Value) : Prop :=
  ∃ fields, v = .record fields ∧ ∀ member, Entries.find? fields name = some member → form member

/-- An upload as the catalogue documents it: a record that leads to the id of its video, a text. -/
def IsUpload : Value → Prop :=
  HasMember "snippet" (HasMember "resourceId" (HasMember "videoId" fun v => ∃ id, v = .text id))

/-- A list of uploads as the catalogue documents it. -/
def IsListing : Value → Prop :=
  HasMember "items" fun v => ∃ uploads, v = .list uploads ∧ ∀ upload ∈ uploads, IsUpload upload

/-- An answer that lists uploads as documented, or a request that failed. -/
def IsRegular (answer : Answer) : Prop :=
  (∃ fault, answer.json = .error fault) ∨ ∃ body, answer.json = .ok body ∧ IsListing body

/-- What comes of a request: an id that is a text and not empty, no id, or the failure of the request. -/
def IsPlain (fetched : Except Fault (Option Value)) : Prop :=
  fetched = .ok none ∨ (∃ id, id ≠ "" ∧ fetched = .ok (some (.text id))) ∨
    ∃ fault, fetched = .error fault ∧ fault.isFailedRequest = true

theorem isFailedRequest_of_json {answer : Answer} {fault : Fault} (h : answer.json = .error fault) :
    fault.isFailedRequest = true := by
  rw [Answer.json.eq_def] at h
  split at h
  · cases h
    rfl
  · split at h
    · split at h <;> cases h <;> rfl
    · cases h
      rfl

/-- A member that is not there counts as an empty record, which has the form of any record. -/
theorem member_getD {name : String} {form : Value → Prop} {v : Value} (h : HasMember name form v)
    (hempty : form (.record [])) : ∃ found, v.member name = .ok found ∧ form (found.getD (.record [])) := by
  obtain ⟨fields, rfl, hform⟩ := h
  refine ⟨Entries.find? fields name, rfl, ?_⟩
  cases hfound : Entries.find? fields name with
  | none => exact hempty
  | some member => exact hform member hfound

theorem hasMember_empty (name : String) (form : Value → Prop) : HasMember name form (.record []) :=
  ⟨[], rfl, nofun⟩

/-- An id that is a text counts unless it is empty. -/
theorem isPlain_filter {video : Option Value} (h : ∀ v, video = some v → ∃ id, v = .text id) :
    IsPlain (.ok (video.filter Value.isTruthy)) := by
  cases video with
  | none => exact .inl rfl
  | some v =>
    obtain ⟨id, rfl⟩ := h v rfl
    by_cases hempty : id = ""
    · exact .inl (by simp [Option.filter_some, Value.isTruthy, hempty])
    · exact .inr (.inl ⟨id, hempty, by simp [Option.filter_some, Value.isTruthy, hempty]⟩)

/-- What a regular answer gives: the id of the first upload that is listed, if it has one. -/
theorem isPlain_latest {answer : Answer} (h : IsRegular answer) : IsPlain (latest answer) := by
  rcases h with ⟨fault, hfault⟩ | ⟨body, hbody, fields, rfl, hitems⟩
  · refine .inr (.inr ⟨fault, ?_, isFailedRequest_of_json hfault⟩)
    rw [latest, hfault]
    rfl
  · cases hfound : Entries.find? fields "items" with
    | none => exact .inl (by simp [latest, hbody, Value.member_record, hfound, bind, Except.bind, pure, Except.pure])
    | some items =>
      obtain ⟨uploads, rfl, huploads⟩ := hitems items hfound
      cases uploads with
      | nil =>
        refine .inl ?_
        simp [latest, hbody, Value.member_record, hfound, Value.isTruthy, bind, Except.bind, pure, Except.pure]
      | cons upload rest =>
        obtain ⟨snippet, hsnippet, hform⟩ := member_getD (huploads upload List.mem_cons_self) (hasMember_empty _ _)
        obtain ⟨resource, hresource, hform⟩ := member_getD hform (hasMember_empty _ _)
        obtain ⟨fields', hrecord, hid⟩ := hform
        have hlatest : latest answer = .ok ((Entries.find? fields' "videoId").filter Value.isTruthy) := by
          simp [latest, hbody, hfound, firstItem, hsnippet, hresource, hrecord, Value.member_record, Value.isTruthy,
            bind, Except.bind, pure, Except.pure]
        rw [hlatest]
        exact isPlain_filter hid

/-! ## The two steps of a check -/

/-- What a check of a channel fetches with the answer to its request; nothing where the channel cannot be asked for. -/
def fetch (channel : String) (answer : Answer) : Except Fault (Option Value) :=
  if isChannel channel then latest answer else .ok none

/-- What a check makes of what it fetched: the address of an id that is not the one noted, and what is noted then. A
request that failed counts as nothing fetched. -/
def settle (memory : VideoMemory) (channel : String) :
    Except Fault (Option Value) → Except Fault (Option String) × VideoMemory
  | .ok none => (.ok none, memory)
  | .ok (some id) => (.ok (commit memory channel id).1, (commit memory channel id).2)
  | .error fault => (if fault.isFailedRequest then .ok none else .error fault, memory)

/-- A check fetches and settles. -/
theorem check_eq_settle (web : Web) (memory : VideoMemory) (channel key : String) :
    ((check web memory channel key).1, (check web memory channel key).2.2) =
      settle memory channel (fetch channel (web.send (request channel key)).1) := by
  rw [fetch, check]
  cases isChannel channel with
  | false => rfl
  | true =>
    rcases web.send (request channel key) with ⟨answer, web'⟩
    simp only [if_true]
    rcases latest answer with fault | (_ | id) <;> rfl

theorem isPlain_fetch {answer : Answer} (h : IsRegular answer) (channel : String) : IsPlain (fetch channel answer) := by
  rw [fetch]
  split
  · exact isPlain_latest h
  · exact .inl rfl

/-- The id that was fetched, if one was. -/
def id? : Except Fault (Option Value) → Option String
  | .ok (some (.text id)) => some id
  | _ => none

@[simp] theorem id?_text (id : String) : id? (.ok (some (.text id))) = some id :=
  rfl

@[simp] theorem id?_none : id? (.ok none) = none :=
  rfl

@[simp] theorem id?_error (fault : Fault) : id? (.error fault) = none :=
  rfl

theorem IsPlain.ne_empty {fetched : Except Fault (Option Value)} (h : IsPlain fetched) {id : String}
    (hid : id? fetched = some id) : id ≠ "" := by
  rcases h with rfl | ⟨_, hne, rfl⟩ | ⟨_, rfl, -⟩
  · cases hid
  · rwa [← Option.some.inj hid]
  · cases hid

/-- The id that is new after the last one: every other one. -/
def news? (last id : Option String) : Option String :=
  if id = last then none else id

@[simp] theorem news?_none (last : Option String) : news? last none = none :=
  ite_self none

/-- The address of the video of an id. -/
def addressOf (id : String) : String :=
  address (.text id)

/-- Where the id that is noted of a channel is the last one, a check reports an id that differs from it, and what it
fetched is the last one from then on. -/
theorem settle_spec {memory : VideoMemory} {channel : String} {fetched : Except Fault (Option Value)}
    {last : Option String} (hplain : IsPlain fetched) (hlast : memory.find? channel = last.map Value.text) :
    (settle memory channel fetched).1 = .ok ((news? last (id? fetched)).map addressOf) ∧
      ∀ c, (settle memory channel fetched).2.find? c =
        if channel = c then ((id? fetched).or last).map Value.text else memory.find? c := by
  have hkeep : ∀ c, memory.find? c = if channel = c then last.map Value.text else memory.find? c := fun c => by
    split
    · next hc => rw [← hc, hlast]
    · rfl
  rcases hplain with rfl | ⟨id, -, rfl⟩ | ⟨fault, rfl, hfailed⟩
  · rw [settle, id?_none, news?_none, Option.none_or]
    exact ⟨rfl, hkeep⟩
  · have hold : ((memory.find? channel).any fun v => v.equal (.text id)) = decide (some id = last) := by
      rw [hlast]
      cases last with
      | none => rfl
      | some old =>
        rw [Option.map_some, Option.any_some, Bool.eq_iff_iff, equal_text, decide_eq_true_iff]
        exact ⟨fun h => congrArg some (Value.text.inj h), fun h => congrArg Value.text (Option.some.inj h)⟩
    rw [id?_text, Option.some_or, settle, commit, news?]
    simp only [hold, decide_eq_true_eq]
    by_cases hsame : some id = last
    · rw [if_pos hsame, if_pos hsame, hsame]
      exact ⟨rfl, hkeep⟩
    · rw [if_neg hsame, if_neg hsame]
      exact ⟨rfl, fun c => Entries.find?_put ..⟩
  · rw [settle, if_pos hfailed, id?_error, news?_none, Option.none_or]
    exact ⟨rfl, hkeep⟩

/-! ## Steps in any order -/

/-- A step of checks that overlap. The checks are told apart by numbers. -/
inductive Step where
  /-- The request of a check of a channel is answered. -/
  | answered (number : Nat) (channel : String) (answer : Answer)
  /-- A check whose request was answered settles. -/
  | settled (number : Nat)

/-- The number of the check that takes a step. -/
def Step.number : Step → Nat
  | answered number _ _ => number
  | settled number => number

/-- The answers that checks get are as they are documented, or requests fail. -/
def Step.IsRegular : Step → Prop
  | answered _ _ answer => Videos.IsRegular answer
  | settled _ => True

/-- A check whose request was answered: its channel and what it fetched. -/
structure Pending where
  channel : String
  fetched : Except Fault (Option Value)

/-- A check that has settled, with what it answers. -/
structure Settled extends Pending where
  outcome : Except Fault (Option String)

/-- Checks that overlap: what is noted of the channels, the checks that can settle, and those that have, in order. -/
structure Overlap where
  memory : VideoMemory := []
  pending : Entries Nat Pending := []
  settled : List Settled := []

namespace Overlap

/-- What a step does. -/
def take (o : Overlap) : Step → Overlap
  | .answered number channel answer => { o with pending := o.pending.put number ⟨channel, fetch channel answer⟩ }
  | .settled number =>
    match o.pending.find? number with
    | none => o
    | some p =>
      let (outcome, memory) := settle o.memory p.channel p.fetched
      { memory := memory, pending := o.pending.erase number, settled := o.settled ++ [⟨p, outcome⟩] }

/-- Steps one after the other, from no check on. -/
def play (steps : List Step) : Overlap :=
  steps.foldl take {}

/-- A check that nothing comes between is its two steps. -/
theorem take_take (o : Overlap) (number : Nat) (web : Web) (channel key : String) :
    let answer := (web.send (request channel key)).1
    let p : Pending := ⟨channel, fetch channel answer⟩
    let r := check web o.memory channel key
    ((o.take (.answered number channel answer)).take (.settled number)).settled = o.settled ++ [⟨p, r.1⟩] ∧
      ((o.take (.answered number channel answer)).take (.settled number)).memory = r.2.2 := by
  intro answer p r
  have hsettle : (r.1, r.2.2) = settle o.memory channel (fetch channel answer) :=
    check_eq_settle web o.memory channel key
  have hfind : (o.pending.put number p).find? number = some p := by rw [Entries.find?_put, if_pos rfl]
  simp only [take, hfind, p, ← hsettle]
  exact ⟨trivial, trivial⟩

/-- The ids that checks of a channel have committed, in order. -/
def committed (channel : String) (settled : List Settled) : List String :=
  settled.filterMap fun s => if s.channel = channel then id? s.fetched else none

/-- The addresses that checks of a channel have reported, in order. -/
def reported (channel : String) (settled : List Settled) : List String :=
  settled.filterMap fun s => if s.channel = channel then s.outcome.toOption.join else none

theorem committed_concat (channel : String) (settled : List Settled) (s : Settled) :
    committed channel (settled ++ [s]) =
      committed channel settled ++ (if s.channel = channel then id? s.fetched else none).toList := by
  rw [committed, List.filterMap_append, committed, List.filterMap_cons]
  split
  · next hnone => rw [hnone]; rfl
  · next hsome => rw [hsome]; rfl

theorem reported_concat (channel : String) (settled : List Settled) (s : Settled) :
    reported channel (settled ++ [s]) =
      reported channel settled ++ (if s.channel = channel then s.outcome.toOption.join else none).toList := by
  rw [reported, List.filterMap_append, reported, List.filterMap_cons]
  split
  · next hnone => rw [hnone]; rfl
  · next hsome => rw [hsome]; rfl

/-- Whether a check that settles after others reports its id iff that differs from the one committed last. -/
def IsFair (before : List Settled) (s : Settled) : Prop :=
  s.outcome = .ok ((news? (committed s.channel before).getLast? (id? s.fetched)).map addressOf)

/-- What holds of overlapping checks whose answers are as they are documented. -/
structure Sound (o : Overlap) : Prop where
  plain : ∀ number p, o.pending.find? number = some p → IsPlain p.fetched
  noted : ∀ channel, o.memory.find? channel = (committed channel o.settled).getLast?.map Value.text
  fetched : ∀ s ∈ o.settled, IsPlain s.fetched
  fair : ∀ before s after, o.settled = before ++ s :: after → IsFair before s

theorem sound_empty : Sound {} where
  plain := nofun
  noted _ := rfl
  fetched := nofun
  fair before s after h := absurd h (by simp)

/-- A step keeps what holds. -/
theorem Sound.take {o : Overlap} (h : Sound o) {step : Step} (hstep : step.IsRegular) : Sound (o.take step) := by
  cases step with
  | answered number channel answer =>
    refine ⟨fun n p hp => ?_, h.noted, h.fetched, h.fair⟩
    rw [Overlap.take, Entries.find?_put] at hp
    split at hp
    · rw [← Option.some.inj hp]
      exact isPlain_fetch hstep channel
    · exact h.plain n p hp
  | settled number =>
    rw [Overlap.take]
    cases hp : o.pending.find? number with
    | none => exact h
    | some p =>
      obtain ⟨houtcome, hmemory⟩ := settle_spec (h.plain number p hp) (h.noted p.channel)
      dsimp only
      refine ⟨fun n q hq => ?_, fun channel => ?_, fun s hs => ?_, fun before s after hsplit => ?_⟩
      · rw [Entries.find?_erase] at hq
        split at hq
        · cases hq
        · exact h.plain n q hq
      · rw [hmemory, committed_concat]
        split
        · next hchannel =>
          subst hchannel
          rw [List.getLast?_append]
          cases id? p.fetched <;> rfl
        · rw [h.noted]
          simp
      · rcases List.mem_append.mp hs with hs | hs
        · exact h.fetched s hs
        · rw [List.mem_singleton.mp hs]
          exact h.plain number p hp
      · rcases List.eq_nil_or_concat after with rfl | ⟨after, last, rfl⟩
        · obtain ⟨hbefore, hs⟩ := List.append_inj' hsplit rfl
          obtain rfl := List.singleton_inj.mp hs
          rw [IsFair, ← hbefore]
          exact houtcome
        · rw [List.concat_eq_append, ← List.cons_append, ← List.append_assoc] at hsplit
          exact h.fair before s after (List.append_inj' hsplit rfl).1

theorem sound_play {steps : List Step} (h : ∀ step ∈ steps, step.IsRegular) : Sound (play steps) := by
  induction steps using List.reverseRecOn with
  | nil => exact sound_empty
  | append_singleton steps step ih =>
    rw [play, List.foldl_append]
    exact (ih fun s hs => h s (List.mem_append_left _ hs)).take (h step (by simp))

/-- Where checks are fair, those of a channel report what they commit, less the repetitions that follow each other. -/
theorem reported_eq {settled : List Settled}
    (h : ∀ before s after, settled = before ++ s :: after → IsFair before s) (channel : String) :
    reported channel settled = ((committed channel settled).destutter (· ≠ ·)).map addressOf := by
  induction settled using List.reverseRecOn with
  | nil => rfl
  | append_singleton settled s ih =>
    rw [reported_concat, committed_concat, ih fun before s' after hsplit =>
      h before s' (after ++ [s]) (by rw [hsplit]; simp)]
    have hfair : IsFair settled s := h settled s [] rfl
    rw [IsFair] at hfair
    by_cases hchannel : s.channel = channel
    · subst hchannel
      rw [if_pos rfl, if_pos rfl, hfair]
      cases hid : id? s.fetched with
      | none => simp [Except.toOption]
      | some id =>
        rw [Option.toList_some, destutter_concat, news?]
        by_cases hold : (committed s.channel settled).getLast? = some id
        · rw [if_pos hold, if_pos hold.symm]
          simp [Except.toOption]
        · rw [if_neg hold, if_neg (Ne.symm hold)]
          simp [Except.toOption]
    · simp [hchannel]

/-! ## What does not matter -/

/-- What a check that settles adds to what is committed of a channel. -/
theorem committed_take_settled (o : Overlap) (number : Nat) (channel : String) :
    committed channel (o.take (.settled number)).settled = committed channel o.settled ++
      ((o.pending.find? number).bind fun p => if p.channel = channel then id? p.fetched else none).toList := by
  rw [Overlap.take]
  cases o.pending.find? number with
  | none => simp
  | some p => exact committed_concat channel o.settled ⟨p, _⟩

theorem find?_take_settled (o : Overlap) (number n : Nat) :
    (o.take (.settled number)).pending.find? n = if number = n then none else o.pending.find? n := by
  rw [Overlap.take]
  split
  · next hnone =>
    split
    · next hn => rw [← hn, hnone]
    · rfl
  · exact Entries.find?_erase ..

/-- Checks that overlap, and the same checks without some that commit nothing of a channel. -/
structure Agree (channel : String) (dropped : Nat → Bool) (o o' : Overlap) : Prop where
  kept : ∀ n, dropped n = false → o'.pending.find? n = o.pending.find? n
  idle : ∀ n p, dropped n = true → o.pending.find? n = some p → p.channel = channel → id? p.fetched = none
  committed : committed channel o'.settled = committed channel o.settled

variable {channel : String} {dropped : Nat → Bool} {o o' : Overlap}

theorem ne_of_dropped {m n : Nat} (hm : dropped m = true) (hn : dropped n = false) : m ≠ n := by
  rintro rfl
  rw [hm] at hn
  cases hn

/-- A step of a check that is left out changes nothing that is committed. -/
theorem Agree.left_out (h : Agree channel dropped o o') {step : Step} (hdropped : dropped step.number = true)
    (hidle : ∀ n answer, step = .answered n channel answer → id? (fetch channel answer) = none) :
    Agree channel dropped (o.take step) o' := by
  cases step with
  | answered number c answer =>
    replace hdropped : dropped number = true := hdropped
    refine ⟨fun n hn => ?_, fun n p hn hp hc => ?_, h.committed⟩
    · rw [h.kept n hn, Overlap.take, Entries.find?_put, if_neg (ne_of_dropped hdropped hn)]
    · rw [Overlap.take, Entries.find?_put] at hp
      split at hp
      · obtain rfl := Option.some.inj hp
        obtain rfl : c = channel := hc
        exact hidle number answer rfl
      · exact h.idle n p hn hp hc
  | settled number =>
    replace hdropped : dropped number = true := hdropped
    refine ⟨fun n hn => ?_, fun n p hn hp hc => ?_, ?_⟩
    · rw [h.kept n hn, find?_take_settled, if_neg (ne_of_dropped hdropped hn)]
    · rw [find?_take_settled] at hp
      split at hp
      · cases hp
      · exact h.idle n p hn hp hc
    · rw [h.committed, committed_take_settled]
      cases hp : o.pending.find? number with
      | none => simp
      | some p =>
        by_cases hc : p.channel = channel
        · simp [hc, h.idle number p hdropped hp hc]
        · simp [hc]

/-- A step of a check that is kept adds the same on both sides. -/
theorem Agree.take (h : Agree channel dropped o o') {step : Step} (hkept : dropped step.number = false) :
    Agree channel dropped (o.take step) (o'.take step) := by
  cases step with
  | answered number c answer =>
    replace hkept : dropped number = false := hkept
    refine ⟨fun n hn => ?_, fun n p hn hp hc => ?_, h.committed⟩
    · simp only [Overlap.take, Entries.find?_put, h.kept n hn]
    · rw [Overlap.take, Entries.find?_put, if_neg (ne_of_dropped hn hkept).symm] at hp
      exact h.idle n p hn hp hc
  | settled number =>
    refine ⟨fun n hn => ?_, fun n p hn hp hc => ?_, ?_⟩
    · rw [find?_take_settled, find?_take_settled, h.kept n hn]
    · rw [find?_take_settled] at hp
      split at hp
      · cases hp
      · exact h.idle n p hn hp hc
    · rw [committed_take_settled, committed_take_settled, h.committed, h.kept number hkept]

/-- Checks of other channels, and such as fetch nothing, do not matter to what is committed of a channel. -/
theorem committed_without (channel : String) (dropped : Nat → Bool) (steps : List Step)
    (h : ∀ n answer, .answered n channel answer ∈ steps → dropped n = true → id? (fetch channel answer) = none) :
    committed channel (play (steps.filter fun step => !dropped step.number)).settled =
      committed channel (play steps).settled := by
  suffices hagree : Agree channel dropped (play steps) (play (steps.filter fun step => !dropped step.number)) from
    hagree.committed
  induction steps using List.reverseRecOn with
  | nil => exact ⟨fun _ _ => rfl, nofun, rfl⟩
  | append_singleton steps step ih =>
    have ih := ih fun n answer hmem => h n answer (List.mem_append_left _ hmem)
    rw [List.filter_append, play, play, List.foldl_append, List.foldl_append]
    cases hdropped : dropped step.number with
    | true =>
      rw [List.filter_cons_of_neg (by simp [hdropped])]
      refine ih.left_out hdropped fun n answer hstep => h n answer (by simp [hstep]) ?_
      rw [hstep] at hdropped
      exact hdropped
    | false =>
      rw [List.filter_cons_of_pos (by simp [hdropped])]
      exact ih.take hdropped

/-! ## What is reported -/

/-- A check reports an address iff it commits an id that differs from the one its channel's checks committed last. -/
theorem IsFair.outcome_iff {before : List Settled} {s : Settled} (h : IsFair before s) (url : String) :
    s.outcome = .ok (some url) ↔
      ∃ id, id? s.fetched = some id ∧ (committed s.channel before).getLast? ≠ some id ∧ url = addressOf id := by
  rw [IsFair] at h
  rw [h, news?]
  cases id? s.fetched with
  | none => simp
  | some id =>
    by_cases hold : some id = (committed s.channel before).getLast?
    · simp [← hold]
    · simp [hold, eq_comm]

/-- Whatever checks of channels overlap, and in whatever order they settle, a check reports a video iff it fetched an
id, which is not empty, other than the one that the checks of its channel committed last. So the checks of a channel
report the ids that they commit, less the repetitions that follow each other. Leaving out checks of other channels, and
such as fetch no id, changes nothing of that. A check that nothing comes between takes its two steps at once. -/
theorem reports_changes {steps : List Step} (h : ∀ step ∈ steps, step.IsRegular) :
    (∀ before s after, (play steps).settled = before ++ s :: after →
      (∃ report, s.outcome = .ok report) ∧ ∀ url, s.outcome = .ok (some url) ↔
        ∃ id, id? s.fetched = some id ∧ id ≠ "" ∧ (committed s.channel before).getLast? ≠ some id ∧
          url = addressOf id) ∧
    (∀ channel, reported channel (play steps).settled =
      ((committed channel (play steps).settled).destutter (· ≠ ·)).map addressOf) ∧
    (∀ channel (dropped : Nat → Bool), (∀ n answer, .answered n channel answer ∈ steps → dropped n = true →
        id? (fetch channel answer) = none) →
      reported channel (play (steps.filter fun step => !dropped step.number)).settled =
        reported channel (play steps).settled) ∧
    ∀ (o : Overlap) number web channel key,
      let answer := (web.send (request channel key)).1
      let alone := (o.take (.answered number channel answer)).take (.settled number)
      alone.settled = o.settled ++ [⟨⟨channel, fetch channel answer⟩, (check web o.memory channel key).1⟩] ∧
        alone.memory = (check web o.memory channel key).2.2 := by
  have hsound := sound_play h
  refine ⟨fun before s after hsplit => ⟨⟨_, hsound.fair before s after hsplit⟩, fun url => ?_⟩,
    reported_eq hsound.fair, fun channel dropped hidle => ?_, take_take⟩
  · have hplain : IsPlain s.fetched := hsound.fetched s (by rw [hsplit]; simp)
    rw [(hsound.fair before s after hsplit).outcome_iff]
    exact ⟨fun ⟨id, hid, hnew⟩ => ⟨id, hid, hplain.ne_empty hid, hnew⟩, fun ⟨id, hid, _, hnew⟩ => ⟨id, hid, hnew⟩⟩
  · have hkept : ∀ step ∈ steps.filter (fun step => !dropped step.number), step.IsRegular :=
      fun step hstep => h step (List.mem_of_mem_filter hstep)
    rw [reported_eq (sound_play hkept).fair, reported_eq hsound.fair, committed_without channel dropped steps hidle]

/-- Two checks of a channel that overlap, and one between them whose request fails. The later one settles first. -/
def overtaking : List Step :=
  [.answered 0 "UCa" Execution.listing, .answered 1 "UCa" (.reply 503 ""), .answered 2 "UCa" Execution.listing,
    .settled 2, .settled 1, .settled 0]

/-- Whether an answer lists an upload and nothing besides. -/
def listsUpload (id : String) : Except Fault Value → Bool
  | .ok (.record [("items", .list
      [.record [("snippet", .record [("resourceId", .record [("videoId", .text video)])])]])]) => video == id
  | _ => false

theorem isRegular_listing : IsRegular Execution.listing := by
  have hjson : listsUpload "v" Execution.listing.json = true := by decide +kernel
  rw [listsUpload.eq_def] at hjson
  split at hjson
  · next hbody =>
    refine .inr ⟨_, hbody, _, rfl, fun items hitems => ?_⟩
    obtain rfl : _ = items := Option.some.inj hitems
    refine ⟨_, rfl, fun upload hupload => ?_⟩
    rw [List.mem_singleton.mp hupload]
    refine ⟨_, rfl, fun snippet hsnippet => ?_⟩
    obtain rfl : _ = snippet := Option.some.inj hsnippet
    refine ⟨_, rfl, fun resource hresource => ?_⟩
    obtain rfl : _ = resource := Option.some.inj hresource
    exact ⟨_, rfl, fun video hvideo => ⟨_, (Option.some.inj hvideo).symm⟩⟩
  · cases hjson

/-- Both checks fetch the same video, and only the one that settles first reports it. -/
theorem reports_changes_overtaking :
    (∀ step ∈ overtaking, step.IsRegular) ∧
      committed "UCa" (play overtaking).settled = ["v", "v"] ∧
      reported "UCa" (play overtaking).settled = [addressOf "v"] := by
  have hregular : ∀ step ∈ overtaking, step.IsRegular := by
    intro step hstep
    simp only [overtaking, List.mem_cons, List.not_mem_nil, or_false] at hstep
    rcases hstep with rfl | rfl | rfl | rfl | rfl | rfl
    · exact isRegular_listing
    · exact .inl ⟨_, rfl⟩
    · exact isRegular_listing
    all_goals trivial
  have hlisted : fetch "UCa" Execution.listing = .ok (some (.text "v")) := Execution.latest_listing
  have hcommitted : committed "UCa" (play overtaking).settled = ["v", "v"] := by
    have hfailed : fetch "UCa" (.reply 503 "") = .error (.badStatus 503) := rfl
    simp only [play, overtaking, List.foldl_cons, List.foldl_nil, committed_take_settled, find?_take_settled]
    simp [Overlap.take, Entries.put, Entries.find?, committed, hlisted, hfailed]
  refine ⟨hregular, hcommitted, ?_⟩
  rw [(reports_changes hregular).2.1, hcommitted]
  rfl

end Overlap

end Videos

end Deskhand
