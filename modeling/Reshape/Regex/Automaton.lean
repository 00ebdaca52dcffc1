import Reshape.Regex.Pattern

/-! How much space the automata of a pattern take. One reads a text forward, byte by
byte, and finds where a match ends; the other reads it backward and finds where one
starts. Forward, a set of characters is a graph in which equal ends are shared; backward,
it is a tree of first bytes. -/

namespace Reshape.Regex

/-- Which way an automaton reads a text. -/
inductive Direction where
  | forward
  | backward
deriving DecidableEq, Repr

namespace Automaton

def stateBytes : Nat := 32

/-- The bytes that one of several edges out of a state takes, which reads a range. -/
def edgeBytes : Nat := 8

/-- The bytes that a way out of a branch takes, which reads nothing. -/
def branchBytes : Nat := 4

/-- The sum of some counts of bytes. -/
def total (counts : List Nat) : Nat := counts.foldl (· + ·) 0

abbrev ByteRange := Nat × Nat

/-- The numbers from `low` to `high` as ranges of their `depth + 1` digits to the base
64. -/
def digitRanges : Nat → Nat → Nat → List (List ByteRange)
  | 0, low, high => [[(low, high)]]
  | depth + 1, low, high =>
    let unit := Nat.pow 64 (depth + 1)
    let first := low / unit
    let last := high / unit
    let under (digit : Nat) (rests : List (List ByteRange)) := rests.map ((digit, digit) :: ·)
    if first = last then under first (digitRanges depth (low % unit) (high % unit))
    else
      let fromStart := low % unit = 0
      let toEnd := high % unit = unit - 1
      let head := if fromStart then [] else under first (digitRanges depth (low % unit) (unit - 1))
      let tail := if toEnd then [] else under last (digitRanges depth 0 (high % unit))
      let start := if fromStart then first else first + 1
      let stop := if toEnd then last + 1 else last
      let middle := if start < stop
        then [(start, stop - 1) :: List.replicate (depth + 1) (0, 63)] else []
      head ++ middle ++ tail

/-- The code points that take the same number of bytes: the first and the last of them,
how many bytes follow the first byte, and the mark in the first byte. -/
def lengthClasses : List (Nat × Nat × Nat × Nat) :=
  [(0, 0x7f, 0, 0), (0x80, 0x7ff, 1, 0xc0), (0x800, 0xd7ff, 2, 0xe0), (0xe000, 0xffff, 2, 0xe0),
    (0x10000, 0x10ffff, 3, 0xf0)]

/-- Puts the mark of a length into the first byte. -/
def markFirst (mark : Nat) : List ByteRange → List ByteRange
  | [] => []
  | (low, high) :: rest => (mark + low, mark + high) :: rest

def byteRanges (range : Nat × Nat) : List (List ByteRange) :=
  lengthClasses.flatMap fun (first, last, depth, mark) =>
    let low := max range.1 first
    let high := min range.2 last
    if low ≤ high then (digitRanges depth low high).map (markFirst mark) else []

/-- The characters of a set as ranges of bytes. -/
def sequences (s : CharSet) : List (List ByteRange) :=
  (Text.CodeRanges.ofRanges s.ranges).ranges.flatMap byteRanges

/-- A state that reads a byte: its edges, each with the number of the state after it. -/
abbrev Node := List (ByteRange × Nat)

/-- The number of a state among those that are known, which it joins if it is new. Zero is
the state after the last byte. -/
def Node.number (known : List Node) (node : Node) : List Node × Nat :=
  match known.idxOf? node with
  | some i => (known, i + 1)
  | none => (known ++ [node], known.length + 1)

/-- Sequences by their first range, where equal ones stand together. -/
def byFirst : List (List ByteRange) → List (ByteRange × List (List ByteRange))
  | [] => []
  | [] :: rest => byFirst rest
  | (first :: tail) :: rest =>
    match byFirst rest with
    | (next, tails) :: groups =>
      if next = first then (first, tail :: tails) :: groups
      else (first, [tail]) :: (next, tails) :: groups
    | [] => [(first, [tail])]

/-- The states that read some sequences of at most `depth` ranges. -/
def nodes : Nat → List Node → List (List ByteRange) → List Node × Nat
  | 0, known, _ => (known, 0)
  | depth + 1, known, seqs =>
    match byFirst seqs with
    | [] => (known, 0)
    | groups =>
      let (known, node) := groups.foldl (fun (known, node) (range, tails) =>
        let (known, next) := nodes depth known tails
        (known, node ++ [(range, next)])) (known, [])
      Node.number known node

/-- How many ranges two sequences share at their start. -/
def sharedStart : List ByteRange → List ByteRange → Nat
  | a :: s, b :: t => if a = b then sharedStart s t + 1 else 0
  | _, _ => 0

/-- How many states a tree of sequences has, where those that start alike stand
together. -/
def treeStates (before : List ByteRange) : List (List ByteRange) → Nat
  | [] => 0
  | s :: rest => s.length - sharedStart before s + treeStates s rest

def setBytes (d : Direction) (s : CharSet) : Nat :=
  let ranges := (Text.CodeRanges.ofRanges s.ranges).ranges
  match ranges with
  | [(low, high)] =>
    if low = high then stateBytes * (Char.ofNat low).utf8Size
    else if high < 128 then 2 * stateBytes
    else several ranges
  | _ => several ranges
where
  /-- The bytes that more than one character takes. -/
  several (ranges : List (Nat × Nat)) : Nat :=
    if ranges.all fun (_, high) => high < 128 then
      2 * stateBytes + edgeBytes * ranges.length
    else
      let seqs := ranges.flatMap byteRanges
      match d with
      | .forward =>
        let (known, _) := nodes 4 [] seqs
        stateBytes + total (known.map fun node => stateBytes + edgeBytes * node.length)
      | .backward =>
        2 * stateBytes + stateBytes * treeStates [] seqs + branchBytes * seqs.length

/-- The bytes of a text that is the one match of a pattern. -/
def word? : Pattern → Option (List Nat)
  | .set ⟨[(low, high)]⟩ =>
    if low = high then some ((Char.ofNat low).toString.toUTF8.toList.map UInt8.toNat) else none
  | .seq first second =>
    match word? first, word? second with
    | some u, some v => some (u ++ v)
    | _, _ => none
  | _ => none

/-- Words between those that are empty. -/
def runsOfWords : List (List Nat) → List (List (List Nat))
  | [] => [[]]
  | [] :: rest => [] :: runsOfWords rest
  | word :: rest =>
    match runsOfWords rest with
    | run :: runs => (word :: run) :: runs
    | [] => [[word]]

/-- What follows a first byte in some words. -/
def after (byte : Nat) (words : List (List Nat)) : List (List Nat) :=
  words.filterMap fun word =>
    match word with
    | [] => none
    | first :: rest => if first = byte then some rest else none

/-- The bytes of the states that tell some words apart, each of at most `depth` bytes. The
first word that matches is preferred, so that an empty word keeps those before it apart from
those after it. -/
def wordsBytes : Nat → List (List Nat) → Nat
  | 0, _ => 0
  | depth + 1, words =>
    if words.all (·.isEmpty) then 0
    else
      let runs := runsOfWords words
      let runBytes (run : List (List Nat)) : Nat :=
        match (run.filterMap List.head?).eraseDups with
        | [] => 0
        | [byte] => branchBytes + stateBytes + wordsBytes depth (after byte run)
        | edges =>
          branchBytes + stateBytes + edgeBytes * edges.length +
            total (edges.map fun byte => wordsBytes depth (after byte run))
      stateBytes + branchBytes * (runs.length - 1) + total (runs.map runBytes)

def branches : Pattern → List Pattern
  | .alt first second => branches first ++ branches second
  | p => [p]

def alternativeWords? (d : Direction) (p : Pattern) : Option Nat :=
  ((branches p).mapM word?).map fun words =>
    let words := if d = .forward then words else words.map List.reverse
    stateBytes + wordsBytes ((words.map List.length).foldl max 0) words

/-- Whether each match of a pattern has a character. -/
def hasLength : Pattern → Bool
  | .empty => false
  | .set s => !s.ranges.isEmpty
  | .look _ _ => false
  | .group body => hasLength body
  | .seq first second => hasLength first || hasLength second
  | .alt first second => hasLength first && hasLength second
  | .rep body least _ _ => least != 0 && hasLength body

/-- The bytes that a repetition takes, whose body takes some bytes. -/
def repeatedBytes (body : Nat) (bodyHasLength : Bool) (least : Nat) (most : Option Nat) : Nat :=
  match least, most with
  | 0, some 1 => body + 2 * stateBytes + 2 * branchBytes
  | 0, none =>
    if bodyHasLength then body + stateBytes + 2 * branchBytes
    else body + 3 * stateBytes + 4 * branchBytes
  | least, none => least * body + stateBytes + 2 * branchBytes
  | least, some most =>
    if least = most then least * body
    else
      (if least = 0 then stateBytes else least * body) + stateBytes +
        (most - least) * (body + stateBytes + 2 * branchBytes)

/-- The bytes that a pattern takes; `inside` tells that it is one of some alternatives. -/
def patternBytes (d : Direction) (inside : Bool) : Pattern → Nat
  | .empty => stateBytes + entry
  | .set s => setBytes d s + entry
  | .look _ _ => stateBytes + entry
  | .group body =>
    patternBytes d false body + (if d = .forward then 2 * stateBytes else 0) + entry
  | .seq first second => patternBytes d false first + patternBytes d false second + entry
  | .alt first second =>
    let several := patternBytes d true first + patternBytes d true second
    if inside then several
    else (alternativeWords? d (.alt first second)).getD (several + 2 * stateBytes)
  | .rep body least most _ =>
    repeatedBytes (patternBytes d false body) (hasLength body) least most + entry
where
  /-- The bytes of the way into an alternative. -/
  entry : Nat := if inside then branchBytes else 0

def startsText : Pattern → Bool
  | .look .textStart _ => true
  | .group body => startsText body
  | .seq first _ => startsText first
  | .alt first second => startsText first && startsText second
  | .rep body least _ _ => least != 0 && startsText body
  | _ => false

def endsText : Pattern → Bool
  | .look .textEnd _ => true
  | .group body => endsText body
  | .seq _ second => endsText second
  | .alt first second => endsText first && endsText second
  | .rep body least _ _ => least != 0 && endsText body
  | _ => false

/-- The bytes of the automaton of a pattern that reads one way. What skips the characters
before a match is left out where there are none. -/
def bytesToward (d : Direction) (p : Pattern) : Nat :=
  let skip := 3 * stateBytes + 2 * branchBytes
  match d with
  | .forward =>
    (if startsText p then stateBytes else skip) + 3 * stateBytes + patternBytes d false p
  | .backward => (if endsText p then stateBytes else skip) + stateBytes + patternBytes d false p

def bytes (p : Pattern) : Nat :=
  max (bytesToward .forward p) (bytesToward .backward p)

end Automaton

end Reshape.Regex
