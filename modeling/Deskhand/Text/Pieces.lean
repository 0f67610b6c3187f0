/-!
# Pieces of a text

Cutting a text at a separator and replacing a character by a text. All of these work on the list of
characters, so that what they do is a fact about lists: `splitOn` cuts at every separator (`n` separators
give `n + 1` pieces), `cutAt` at the first one only, and `replaceChar` puts a text in the place of every
occurrence of a character.
-/

namespace Deskhand.Text

/-- The pieces of a list between the characters equal to `sep`; never empty. -/
def splitChars (sep : Char) : List Char → List (List Char)
  | [] => [[]]
  | c :: cs =>
    if c == sep then [] :: splitChars sep cs
    else
      match splitChars sep cs with
      | [] => [[c]]
      | piece :: rest => (c :: piece) :: rest

/-- The pieces of a text between the occurrences of a character. -/
def splitOn (sep : Char) (s : String) : List String :=
  (splitChars sep s.toList).map String.ofList

/-- The text before the first `sep`, and what follows it when there is one. -/
def cutAt (sep : Char) (s : String) : String × Option String :=
  let cs := s.toList
  let head := cs.takeWhile (· != sep)
  match cs.dropWhile (· != sep) with
  | [] => (String.ofList head, none)
  | _ :: rest => (String.ofList head, some (String.ofList rest))

/-- A text with another put in the place of each occurrence of a character. -/
def replaceChar (old : Char) (new : String) (s : String) : String :=
  String.ofList (s.toList.flatMap fun c => if c == old then new.toList else [c])

/-- Whether a list starts with another one; the rest of it if so. -/
def afterChars? : List Char → List Char → Option (List Char)
  | [], rest => some rest
  | _ :: _, [] => none
  | p :: ps, c :: cs => if p == c then afterChars? ps cs else none

/-- Whether a list occurs as a block of consecutive characters in another one. -/
def occursIn (needle : List Char) : List Char → Bool
  | [] => needle.isEmpty
  | c :: cs => (afterChars? needle (c :: cs)).isSome || occursIn needle cs

/-- Whether the first text occurs in the second one. -/
def contains (needle s : String) : Bool :=
  occursIn needle.toList s.toList

/-- The first `n` characters of a text. -/
def take (n : Nat) (s : String) : String :=
  String.ofList (s.toList.take n)

/-- A text without its first `n` characters. -/
def drop (n : Nat) (s : String) : String :=
  String.ofList (s.toList.drop n)

/-- Texts joined with a separator between neighbours. -/
def join (sep : String) : List String → String
  | [] => ""
  | s :: rest => rest.foldl (fun acc t => acc ++ sep ++ t) s

/-- A number in decimal, with zeros in front up to a width. -/
def padded (width n : Nat) : String :=
  let digits := toString n
  String.ofList (List.replicate (width - digits.length) '0') ++ digits

end Deskhand.Text
