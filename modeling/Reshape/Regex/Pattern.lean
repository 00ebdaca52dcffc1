import Reshape.Regex.CharSet

/-! Patterns: what a regular expression describes, and which parts of a text it
matches. `Pattern.ends` lists where a match that starts at a place can end, in the
order of preference: the first alternative before the second, and more repetitions
before fewer unless the repetition is lazy. -/

namespace Reshape.Regex

/-- A condition on a place between two characters. -/
inductive Look where
  | textStart
  | textEnd
  | lineStart
  | lineEnd
  /-- The start of a line, where a carriage return ends lines too. -/
  | lineStartCR
  /-- The end of a line, where a carriage return ends lines too. -/
  | lineEndCR
  /-- There is a word character on one side and none on the other. -/
  | boundary
  | notBoundary
  | wordStart
  | wordEnd
  /-- There is no word character in front. -/
  | wordStartHalf
  /-- There is no word character after. -/
  | wordEndHalf
deriving DecidableEq, Repr

inductive Pattern where
  /-- Matches nothing at all, everywhere. -/
  | empty
  /-- Matches a character of a set. -/
  | set (chars : CharSet)
  /-- Matches nothing at all where a condition holds; `ascii` is about the words that
  it means. -/
  | look (condition : Look) (ascii : Bool)
  /-- A pattern in parentheses, which matches what it does. -/
  | group (body : Pattern)
  /-- One pattern and then another one. -/
  | seq (first second : Pattern)
  /-- One pattern or else another one. -/
  | alt (first second : Pattern)
  /-- A pattern from `least` to `most` times; a lazy repetition prefers fewer. -/
  | rep (body : Pattern) (least : Nat) (most : Option Nat) (greedy : Bool)

/-- A text whose characters are looked up by their place. -/
abbrev Subject := Array Char

namespace Look

/-- Whether the character at a place of a text is one of a set. -/
def charIs (text : Subject) (test : Char → Bool) (place : Nat) : Bool :=
  match text[place]? with
  | some c => test c
  | none => false

/-- Whether the character in front of a place is one of a set. -/
def charBefore (text : Subject) (test : Char → Bool) (place : Nat) : Bool :=
  match place with
  | 0 => false
  | before + 1 => charIs text test before

/-- Whether a condition holds at a place of a text. -/
def holds (text : Subject) (ascii : Bool) (place : Nat) (condition : Look) : Bool :=
  let isWord := (if ascii then CharSet.asciiWord else Property.word).contains
  let before := charBefore text isWord place
  let after := charIs text isWord place
  let lineFeed := fun c => c == '\n'
  let carriage := fun c => c == '\x0d'
  let atStart := place == 0
  let atEnd := place == text.size
  match condition with
  | textStart => atStart
  | textEnd => atEnd
  | lineStart => atStart || charBefore text lineFeed place
  | lineEnd => atEnd || charIs text lineFeed place
  | lineStartCR =>
    atStart || charBefore text lineFeed place ||
      (charBefore text carriage place && !charIs text lineFeed place)
  | lineEndCR =>
    atEnd || charIs text carriage place ||
      (charIs text lineFeed place && !charBefore text carriage place)
  | boundary => before != after
  | notBoundary => before == after
  | wordStart => !before && after
  | wordEnd => before && !after
  | wordStartHalf => !before
  | wordEndHalf => !after

end Look

namespace Pattern

/-- Whether a pattern is the one that matches nothing at all, everywhere. -/
def isEmpty : Pattern → Bool
  | empty => true
  | _ => false

/-- Whether a pattern can only match a place, with no character in it. -/
def isPlace : Pattern → Bool
  | empty => true
  | set _ => false
  | look _ _ => true
  | group body => isPlace body
  | seq first second => isPlace first && isPlace second
  | alt first second => isPlace first && isPlace second
  | rep body _ _ _ => isPlace body

end Pattern

/-- Adds a place at the end of a list unless it is there. -/
def addPlace (places : List Nat) (place : Nat) : List Nat :=
  if places.contains place then places else places ++ [place]

/-- The places of a list without repetitions; the first of each stays. -/
def distinct (places : List Nat) : List Nat :=
  places.foldl addPlace []

/-- The ends of a match of `step` that starts at one of some places. -/
def stepAll (step : Nat → List Nat) (places : List Nat) : List Nat :=
  distinct (places.flatMap step)

/-- The ends of exactly `count` matches of `step`. -/
def exactly (step : Nat → List Nat) : Nat → List Nat → List Nat
  | 0, places => places
  | count + 1, places => exactly step count (stepAll step places)

/-- Places in the order in which they were found, and the places from which
repetitions were already tried. -/
structure Found where
  tried : List (Nat × Nat)
  places : List Nat

def Found.add (f : Found) (place : Nat) : Found :=
  { f with places := addPlace f.places place }

/-- Finds the places that are reached from a place by up to `count` matches of
`step`. -/
def upTo (step : Nat → List Nat) (greedy : Bool) : Nat → Nat → Found → Found
  | 0, place, found => found.add place
  | count + 1, place, found =>
    if found.tried.contains (count, place) then found
    else
      let found := { found with tried := (count, place) :: found.tried }
      if greedy then
        ((step place).foldl (fun f next => upTo step greedy count next f) found).add place
      else
        (step place).foldl (fun f next => upTo step greedy count next f) (found.add place)

/-- Finds the places that are reached from a place by any number of matches of
`step`, each of which moves on. `fuel` bounds how many places there are to move to. -/
def closure (step : Nat → List Nat) (greedy : Bool) : Nat → Nat → Found → Found
  | 0, place, found => found.add place
  | fuel + 1, place, found =>
    if found.tried.contains (0, place) then found
    else
      let found := { found with tried := (0, place) :: found.tried }
      if greedy then
        ((step place).foldl (fun f next => closure step greedy fuel next f) found).add place
      else
        (step place).foldl (fun f next => closure step greedy fuel next f) (found.add place)

/-- The ends of at least one match of `step`. A match that does not move on ends the
repetition. -/
def atLeastOne (step : Nat → List Nat) (greedy : Bool) (fuel place : Nat) : List Nat :=
  let follow (found : Found) (next : Nat) : Found :=
    if next = place then { found with tried := (0, place) :: found.tried }.add place
    else closure step greedy fuel next found
  ((step place).foldl follow ⟨[], []⟩).places

/-- The ends of a repetition that starts at a place. -/
def repeated (step : Nat → List Nat) (least : Nat) (most : Option Nat) (greedy : Bool)
    (fuel place : Nat) : List Nat :=
  match most with
  | some most =>
    let starts := exactly step least [place]
    distinct (starts.flatMap fun start => (upTo step greedy (most - least) start ⟨[], []⟩).places)
  | none =>
    match least with
    | 0 =>
      let more := atLeastOne step greedy fuel place
      distinct (if greedy then more ++ [place] else place :: more)
    | count + 1 =>
      let starts := exactly step count [place]
      distinct (starts.flatMap fun start => atLeastOne step greedy fuel start)

namespace Pattern

/-- Where a match that starts at a place can end, the preferred ends first. -/
def ends (text : Subject) : Pattern → Nat → List Nat
  | empty, place => [place]
  | set chars, place => if Look.charIs text chars.contains place then [place + 1] else []
  | look condition ascii, place => if condition.holds text ascii place then [place] else []
  | group body, place => ends text body place
  | seq first second, place => stepAll (ends text second) (ends text first place)
  | alt first second, place => distinct (ends text first place ++ ends text second place)
  | rep body least most greedy, place =>
    repeated (ends text body) least most greedy (text.size + 1) place

/-- Whether a pattern matches a part of a text that starts at a place. -/
def startsAt (text : Subject) (p : Pattern) (place : Nat) : Bool :=
  !(p.ends text place).isEmpty

def isMatch (p : Pattern) (text : String) : Bool :=
  let subject := text.toList.toArray
  (List.range (subject.size + 1)).any (p.startsAt subject)

/-- The leftmost match among `count` starts from a place on: its start and its preferred
end. -/
def findFrom (text : Subject) (p : Pattern) : Nat → Nat → Option (Nat × Nat)
  | 0, _ => none
  | count + 1, start =>
    match p.ends text start with
    | stop :: _ => some (start, stop)
    | [] => findFrom text p count (start + 1)

/-- The leftmost match that starts at a place or later. -/
def find? (text : Subject) (p : Pattern) (place : Nat) : Option (Nat × Nat) :=
  findFrom text p (text.size + 1 - place) place

/-- The next match after an earlier one: it starts where that one ended or later, and
it is not empty at that very place. -/
def next? (text : Subject) (p : Pattern) (last : Option Nat) : Option (Nat × Nat) :=
  let start := last.getD 0
  match find? text p start with
  | some (first, stop) =>
    if first = stop ∧ last = some stop then find? text p (start + 1)
    else some (first, stop)
  | none => none

/-- All matches, from left to right. `fuel` bounds their number. -/
def allMatches (text : Subject) (p : Pattern) : Nat → Option Nat → List (Nat × Nat)
  | 0, _ => []
  | fuel + 1, last =>
    match next? text p last with
    | some (start, stop) => (start, stop) :: allMatches text p fuel (some stop)
    | none => []

/-- The characters of a text between two places. -/
def slice (text : Subject) (start stop : Nat) : String :=
  String.ofList (text.extract start stop).toList

def partsBetween (text : Subject) (last : Nat) : List (Nat × Nat) → List String
  | [] => [slice text last text.size]
  | (start, stop) :: rest => slice text last start :: partsBetween text stop rest

def split (p : Pattern) (text : String) : List String :=
  let subject := text.toList.toArray
  partsBetween subject 0 (p.allMatches subject (2 * subject.size + 2) none)

end Pattern

end Reshape.Regex
