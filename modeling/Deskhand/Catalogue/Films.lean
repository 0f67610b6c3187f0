import Deskhand.Calendar.Instant
import Deskhand.Catalogue.Web

/-!
# New films of a genre

A check of a genre asks for the releases of the last day, week or month in a region and reports each film once
for that genre and region. `FilmMemory` holds the ids that were seen; `Films.commit` goes through an answer,
marks every new id as seen and reports the first ten of them.
-/

namespace Deskhand

/-- The ids that were seen, by genre and region. -/
abbrev FilmMemory := Entries String (List Value)

namespace Films

/-- Where releases are listed. -/
def listUrl : String := "https://api.themoviedb.org/3/discover/movie"

/-- How many new films a check reports. -/
def maxReported : Nat := 10

/-- The number of each genre. -/
def genres : List (String × Int) :=
  [("Action", 28), ("Adventure", 12), ("Animation", 16), ("Comedy", 35), ("Crime", 80), ("Documentary", 99),
   ("Drama", 18), ("Family", 10751), ("Fantasy", 14), ("History", 36), ("Horror", 27), ("Music", 10402),
   ("Mystery", 9648), ("Romance", 10749), ("Science Fiction", 878), ("TV Movie", 10770), ("Thriller", 53),
   ("War", 10752), ("Western", 37)]

/-- The number of a genre that is named, or given as a number. -/
def genreNumber? (genre : String) : Option Int :=
  (genres.lookup genre).orElse fun _ => Integer.read? genre

/-- The days that a period reaches back; a week unless it is another one. -/
def daysBack : String → Nat
  | "Day" => 1
  | "Month" => 30
  | _ => 7

/-- The request for the releases since a date. -/
def request (language : String) (genre : Int) (region key : String) (since : Date) : Request :=
  ⟨listUrl, [("api_key", key), ("language", language), ("region", region),
    ("with_genres", Integer.text genre), ("primary_release_date.gte", since.text),
    ("sort_by", "primary_release_date.desc"),
    ("vote_count.gte", "5"), ("page", "1")]⟩

/-- The date a number of days before the day of an instant. -/
def dateBefore (now : Instant) (days : Nat) : Except Fault Date :=
  if days ≤ now.days then .ok (Date.ofDays (now.days - days)) else .error .dateOverflow

/-- A rating as a double; nothing and zero are no rating. -/
def rating (v : Value) : Except Fault Float :=
  match v with
  | .float x => .ok x
  | .bool b => .ok (if b then 1.0 else 0.0)
  | .int n =>
    match Binary.ofInt? n with
    | some x => .ok x
    | none => .error (.overflow "int too large to convert to float")
  | .text s =>
    match Decimal.read? s with
    | some x => .ok x
    | none => .error (.notNumber s)
  | _ => .error (.unsuited ("float() argument must be a string or a real number, not '" ++ v.kindName ++ "'"))

/-- A field of a film, or a default where it is missing or counts as nothing. -/
def fieldOr (name : String) (default : Value) (film : Entries String Value) : Value :=
  ((film.find? name).filter Value.isTruthy).getD default

/-- One line about a film: title, release, rating and address. -/
def line (film : Entries String Value) : Except Fault String := do
  let title := (fieldOr "title" (.text "Unknown") film).toText
  let release := (fieldOr "release_date" (.text "N/A") film).toText
  let stars ← rating (fieldOr "vote_average" (.float 0.0) film)
  match Entries.find? film "id" with
  | some id =>
    return title ++ " (" ++ release ++ ") [⭐" ++ Decimal.fixed 1 stars
      ++ "] — https://www.themoviedb.org/movie/" ++ id.toText
  | none => throw (.missingKey (.text "id"))

/-- The releases that an answer lists. -/
def results (answer : Answer) : Except Fault Value := do
  let body ← answer.json
  return ((← body.member "results").filter Value.isTruthy).getD (.list [])

/-- The elements of a list of releases. -/
def elements : Value → Except Fault (List Value)
  | .list items => .ok items
  | .text s => .ok (s.toList.map fun c => .text (String.singleton c))
  | .record fields => .ok (fields.map fun f => .text f.1)
  | v => .error (.unsuited ("'" ++ v.kindName ++ "' object is not iterable"))

/-- Whether an id can be looked up among those that were seen. -/
def isKey : Value → Bool
  | .list _ | .record _ => false
  | _ => true

/-- Go through the elements of an answer: mark new ids as seen and collect the lines to report. The ids seen
are given back also when an element turns out to be no film. -/
def collect (seen : List Value) (lines : List String) : List Value → Except Fault (List String) × List Value
  | [] => (.ok lines, seen)
  | v :: rest =>
    match v with
    | .record film =>
      match Entries.find? film "id" with
      | none | some .null => collect seen lines rest
      | some id =>
        if !isKey id then (.error (.unsuited ("unhashable type: '" ++ id.kindName ++ "'")), seen)
        else if seen.any (·.scalarEqual id) then collect seen lines rest
        else
          let seen := seen ++ [id]
          if lines.length < maxReported then
            match line film with
            | .ok text => collect seen (lines ++ [text]) rest
            | .error fault => (.error fault, seen)
          else collect seen lines rest
    | _ => (.error (.missingMember v "get"), seen)

/-- The name under which the ids of a genre and region are kept. -/
def memoryKey (genre : Int) (region : String) : String :=
  Integer.text genre ++ "_" ++ region

/-- Take note of the releases of an answer; the new ones, if there are any. -/
def commit (memory : FilmMemory) (genre : Int) (region : String) (releases : Value) :
    Except Fault (Option (List String)) × FilmMemory :=
  let key := memoryKey genre region
  let seen := (memory.find? key).getD []
  match elements releases with
  | .error fault => (.error fault, memory.put key seen)
  | .ok items =>
    let (outcome, seen) := collect seen [] items
    (outcome.map fun lines => if lines.isEmpty then none else some lines, memory.put key seen)

/-- Ask for the releases of a genre since the start of a period. -/
def discover (language : String) (web : Web) (now : Instant) (genre : Int) (period region key : String) :
    Except Fault Value × Web :=
  match dateBefore now (daysBack period) with
  | .error fault => (.error fault, web)
  | .ok since =>
    let (answer, web) := web.send (request language genre region key since)
    (results answer, web)

/-- Check a genre: the films not reported before, if there are any. An unknown genre and a request that fails
report nothing; an answer of another shape is a fault. -/
def check (language : String) (web : Web) (memory : FilmMemory) (now : Instant)
    (genre period region key : String) : Except Fault (Option (List String)) × Web × FilmMemory :=
  match genreNumber? genre with
  | none => (.ok none, web, memory)
  | some number =>
    match discover language web now number period region key with
    | (.error fault, web) => (if fault.isFailedRequest then .ok none else .error fault, web, memory)
    | (.ok releases, web) =>
      let (outcome, memory) := commit memory number region releases
      (outcome, web, memory)

end Films

end Deskhand
