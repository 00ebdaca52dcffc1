import Reshape.Error
import Reshape.Regex.Automaton
import Reshape.Regex.Bracket
import Reshape.Text.Property

/-! Reading regular expressions. Groups that are open form a stack; each knows the
flags in force in it, so that flags end with the group in which they were set. A
pattern whose automaton would be too large is refused. -/

namespace Reshape.Regex

/-- A part of an expression: its pattern, how deep its description nests, and whether
it can be repeated, which a change of flags can not. -/
structure Part where
  pattern : Pattern
  height : Nat
  repeatable : Bool

/-- A group that is open: the flags in force, whether what it matches counts as a part of
its own, the alternatives before the one at work, and the parts of that one, newest first. -/
structure OpenGroup where
  flags : Flags
  captures : Bool
  branches : List Part
  parts : List Part

def nestLimit : Nat := 250

def maxHeight (parts : List Part) : Nat :=
  (parts.map (·.height)).foldl max 0

/-- Patterns one after the other, nested to the left: the ends of each beginning are
then found only once. -/
def sequence (patterns : List Pattern) : Pattern :=
  match patterns.filter fun p => !p.isEmpty with
  | [] => .empty
  | p :: rest => rest.foldl .seq p

def setOf? : Pattern → Option CharSet
  | .set s => some s
  | _ => none

/-- Patterns as alternatives; sets are one set. -/
def alternatives (patterns : List Pattern) : Pattern :=
  match patterns, patterns.mapM setOf? with
  | [p], _ => p
  | _, some sets => .set (.unions sets)
  | patterns, none => inOrder patterns
where
  /-- One pattern after the other is tried. -/
  inOrder : List Pattern → Pattern
    | [] => .empty
    | [p] => p
    | p :: rest => .alt p (inOrder rest)

/-- A repetition of a pattern. What never has a character is matched once at most, and one
repetition is no repetition. -/
def repetition (body : Pattern) (least : Nat) (most : Option Nat) (greedy : Bool) : Pattern :=
  let (least, most) :=
    if body.isPlace then (min least 1, some (min (most.getD 1) 1)) else (least, most)
  if most = some 0 then .empty
  else if least = 1 ∧ most = some 1 then body
  else .rep body least most greedy

namespace OpenGroup

/-- Adds a part to the alternative at work. -/
def add (g : OpenGroup) (p : Part) : OpenGroup :=
  { g with parts := p :: g.parts }

def branch (g : OpenGroup) : Part :=
  let parts := g.parts.reverse
  let pattern := sequence (parts.map (·.pattern))
  match parts with
  | [] => ⟨pattern, 0, true⟩
  | [p] => p
  | _ => ⟨pattern, 1 + maxHeight parts, true⟩

def bar (g : OpenGroup) : OpenGroup :=
  { g with branches := g.branch :: g.branches, parts := [] }

def body (g : OpenGroup) : Part :=
  let branches := (g.branch :: g.branches).reverse
  let pattern := alternatives (branches.map (·.pattern))
  match branches with
  | [p] => p
  | _ => ⟨pattern, 1 + maxHeight branches, true⟩

/-- The group as a part of the one around it. -/
def close (g : OpenGroup) : Part :=
  let body := g.body
  ⟨if g.captures then .group body.pattern else body.pattern, body.height + 1, true⟩

end OpenGroup

def repeatLast (g : OpenGroup) (least : Nat) (most : Option Nat) (lazy : Bool) :
    Except SyntaxFault OpenGroup :=
  match g.parts with
  | [] => .error .nothingToRepeat
  | last :: rest =>
    if last.repeatable then
      let greedy := lazy == g.flags.swapGreed
      .ok { g with parts := ⟨repetition last.pattern least most greedy, last.height + 1, true⟩ :: rest }
    else .error .nothingToRepeat

/-- Drops a question mark, which makes a repetition lazy. -/
def readLazy (cs : List Char) : Bool × List Char :=
  match cs with
  | '?' :: rest => (true, rest)
  | _ => (false, cs)

/-- Reads digits, with blanks that do not count between them. -/
def readCountDigits (f : Flags) : Nat → List Char → List Char × List Char
  | 0, cs => ([], cs)
  | fuel + 1, cs =>
    match cs with
    | [] => ([], [])
    | c :: _ =>
      if Decimal.isDigit c then
        let (digits, rest) := readCountDigits f fuel (advance f cs)
        (c :: digits, rest)
      else ([], cs)

def dropCountBlanks (f : Flags) : Nat → List Char → List Char
  | 0, cs => cs
  | fuel + 1, cs =>
    match cs with
    | [] => []
    | c :: _ => if Text.isBlank c then dropCountBlanks f fuel (advance f cs) else cs

/-- Reads a count with blanks around it; none if there are no digits. Counts fit in 32
bits. -/
def readCount (f : Flags) (cs : List Char) : Except SyntaxFault (Option Nat × List Char) :=
  let (digits, rest) := readCountDigits f cs.length (cs.dropWhile Text.isBlank)
  let rest := dropCountBlanks f rest.length rest
  match Decimal.readNat digits with
  | none => .ok (none, rest)
  | some n => if n < 4294967296 then .ok (some n, rest) else .error .repetition

/-- Reads a repetition in braces, from its opening brace on. -/
def readCounted (g : OpenGroup) (cs : List Char) : Except SyntaxFault (OpenGroup × List Char) := do
  let f := g.flags
  let _ ← repeatLast g 0 none false
  let (least, rest) ← readCount f (advance f cs)
  match least with
  | none => .error .repetition
  | some least => do
    let (most, rest) ← match rest with
      | ',' :: _ =>
        match advance f rest with
        | '\x7d' :: after => Except.ok (none, '\x7d' :: after)
        | after => do
          let (most, rest) ← readCount f after
          match most with
          | none => .error .repetition
          | some most => .ok (some most, rest)
      | _ => .ok (some least, rest)
    match rest with
    | '\x7d' :: _ =>
      let (lazy, rest) := readLazy (advance f rest)
      if most.any (· < least) then .error .repetition
      else do
        let g ← repeatLast g least most lazy
        .ok (g, rest)
    | _ => .error .repetition

/-- Reads the letters of a change of flags, up to a colon or parenthesis. `seen` holds
the letters so far, `minus` tells whether there was a minus sign and `dangling`
whether it came last. -/
def readFlags (f : Flags) (seen : List Char) (minus dangling : Bool) : List Char →
    Except SyntaxFault (Flags × Bool × List Char)
  | [] => .error .flags
  | c :: rest =>
    if c = ':' ∨ c = ')' then
      if dangling then .error .flags else .ok (f, seen.isEmpty && !minus, c :: rest)
    else if c = '-' then
      if minus then .error .flags else readFlags f seen true true rest
    else if seen.contains c then .error .flags
    else
      match f.set? c (!minus) with
      | some f => readFlags f (c :: seen) minus false rest
      | none => .error .flags

def isGroupName : List Char → Bool
  | [] => false
  | c :: rest =>
    (c == '_' || Text.isAlphabetic c) &&
      rest.all fun c =>
        c == '_' || c == '.' || c == '[' || c == ']' || Text.isAlphanumeric c

def readGroupName (names : List String) (cs : List Char) :
    Except SyntaxFault (String × List Char) :=
  match cs.span (· != '>') with
  | (name, _ :: rest) =>
    let text := String.ofList name
    if !isGroupName name then .error .groupName
    else if names.contains text then .error .duplicateName
    else .ok (text, rest)
  | _ => .error .groupName

/-- The reader of an expression: the innermost open group, those around it, and the
names of groups so far. -/
structure Reader where
  current : OpenGroup
  outer : List OpenGroup
  names : List String

namespace Reader

def enter (r : Reader) (f : Flags) (captures : Bool) : Reader :=
  { r with current := ⟨f, captures, [], []⟩, outer := r.current :: r.outer }

def openNamed (r : Reader) (cs : List Char) : Except SyntaxFault (Reader × List Char) := do
  let (name, rest) ← readGroupName r.names cs
  .ok ({ r.enter r.current.flags true with names := name :: r.names }, rest)

/-- Reads what follows an opening parenthesis. -/
def readGroup (r : Reader) (cs : List Char) : Except SyntaxFault (Reader × List Char) :=
  let f := r.current.flags
  match skip f cs with
  | '?' :: '=' :: _ => .error .lookAround
  | '?' :: '!' :: _ => .error .lookAround
  | '?' :: '<' :: '=' :: _ => .error .lookAround
  | '?' :: '<' :: '!' :: _ => .error .lookAround
  | '?' :: 'P' :: '<' :: rest => r.openNamed rest
  | '?' :: '<' :: rest => r.openNamed rest
  | '?' :: rest => do
    let (inner, unchanged, after) ← readFlags f [] false false rest
    match after with
    | ')' :: after =>
      if unchanged then .error .nothingToRepeat
      else
        let g := { r.current with flags := inner }
        .ok ({ r with current := g.add ⟨.empty, 0, false⟩ }, after)
    | _ => .ok (r.enter inner false, after.drop 1)
  | cs => .ok (r.enter f true, cs)

def update (r : Reader) (g : OpenGroup) : Reader := { r with current := g }

/-- Adds a pattern to the innermost group. -/
def add (r : Reader) (p : Pattern) (height : Nat) : Reader :=
  r.update (r.current.add ⟨p, height, true⟩)

def close (r : Reader) : Except SyntaxFault Reader :=
  match r.outer with
  | [] => .error .unopenedGroup
  | parent :: outer => .ok { r with current := parent.add r.current.close, outer := outer }

def literal (f : Flags) (c : Char) (byte : Bool) : Except SyntaxFault Pattern :=
  if f.unicode then .ok (.set (foldSet f (.single c)))
  else if byte && 127 < c.toNat then .error .notUnicode
  else .ok (.set (if c.toNat < 128 then foldSet f (.single c) else .single c))

def dot (f : Flags) : Except SyntaxFault Pattern :=
  if !f.unicode then .error .notUnicode
  else if f.dotAll then .ok (.set Property.any)
  else if f.crlf then .ok (.set (⟨[(10, 10), (13, 13)]⟩ : CharSet).complement)
  else .ok (.set (CharSet.single '\n').complement)

def caret (f : Flags) : Pattern :=
  .look (if !f.multiLine then .textStart else if f.crlf then .lineStartCR else .lineStart) false

def dollar (f : Flags) : Pattern :=
  .look (if !f.multiLine then .textEnd else if f.crlf then .lineEndCR else .lineEnd) false

def primitive (f : Flags) : Primitive → Except SyntaxFault Pattern
  | .literal c byte => literal f c byte
  | .set s => .ok (.set s)
  | .look condition => .ok (.look condition (!f.unicode))

/-- Repeats the last part, as one of the marks `?`, `*` and `+` says. -/
def repeatMark (r : Reader) (least : Nat) (most : Option Nat) (cs : List Char) :
    Except SyntaxFault (Reader × List Char) := do
  let (lazy, rest) := readLazy cs
  let g ← repeatLast r.current least most lazy
  .ok (r.update g, rest)

/-- Reads the part of an expression that starts with a character. -/
def step (r : Reader) (c : Char) (rest : List Char) : Except SyntaxFault (Reader × List Char) :=
  let f := r.current.flags
  match c with
  | '(' => r.readGroup rest
  | ')' => r.close.map fun r => (r, rest)
  | '|' => .ok (r.update r.current.bar, rest)
  | '[' => (readClass f (c :: rest)).map fun (m, rest) => (r.add (.set m.set) m.height, rest)
  | '?' => r.repeatMark 0 (some 1) rest
  | '*' => r.repeatMark 0 none rest
  | '+' => r.repeatMark 1 none rest
  | '\x7b' => (readCounted r.current (c :: rest)).map fun (g, rest) => (r.update g, rest)
  | '\\' => do
    let (p, rest) ← readEscape f rest
    let p ← primitive f p
    .ok (r.add p 0, rest)
  | '.' => (dot f).map fun p => (r.add p 0, rest)
  | '^' => .ok (r.add (caret f) 0, rest)
  | '$' => .ok (r.add (dollar f) 0, rest)
  | _ => (literal f c false).map fun p => (r.add p 0, rest)

def run : Nat → Reader → List Char → Except SyntaxFault Part
  | 0, _, _ => .error .openGroup
  | fuel + 1, r, cs =>
    match skip r.current.flags cs with
    | [] => if r.outer.isEmpty then .ok r.current.body else .error .openGroup
    | c :: rest => do
      let (r, rest) ← r.step c rest
      run fuel r rest

end Reader

/-- Reads a regular expression, whatever the size of its automaton. -/
def readExpression (source : String) : Except SyntaxFault Pattern := do
  let cs := source.toList
  let whole ← Reader.run (cs.length + 1) ⟨⟨.initial, false, [], []⟩, [], []⟩ cs
  if nestLimit < whole.height then .error .nesting else .ok whole.pattern

/-- How many bytes the automaton of a pattern may take. -/
def sizeLimit : Nat := 10485760

def parse (source : String) : Except PatternError Pattern :=
  match readExpression source with
  | .error fault => .error (.grammar fault.reason)
  | .ok p => if sizeLimit < Automaton.bytes p then .error (.tooLarge sizeLimit) else .ok p

end Reshape.Regex
