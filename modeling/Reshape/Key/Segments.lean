import Reshape.Key.Fault
import Reshape.Key.Lexeme

/-! The segments of a path. Points separate segments and empty segments are
dropped. A bracket starts a segment of its own, as in `a[0]` for `a.[0]`; a lookup
in parentheses is one segment, points and all; and a bare lookup such as `@abc.def`
ends at its first point, as in `@(abc).def`. -/

namespace Reshape.Key

/-- Puts a point before each opening bracket outside parentheses, unless it starts
the path or follows a point or an at sign. `depth` parentheses are open, and
`before` is the lexeme in front. -/
def spreadBrackets (depth : Nat) (before : Option Lexeme) : List Lexeme → List Lexeme
  | [] => []
  | l :: rest =>
    let inner := if l.is '(' then depth + 1 else if l.is ')' then depth - 1 else depth
    let joined := match before with
      | none => true
      | some b => b.is '.' || b.is '@'
    if l.is '[' && depth == 0 && !joined then
      .plain '.' :: l :: spreadBrackets inner (some l) rest
    else l :: spreadBrackets inner (some l) rest

/-- Where a scan for the ends of segments stands. -/
inductive SegmentMode where
  /-- Outside lookups. -/
  | plain
  /-- Right after an at sign. -/
  | at
  /-- In the parentheses of a lookup, `depth` of them open. -/
  | group (depth : Nat)
  /-- In a lookup without parentheses. -/
  | bare
deriving DecidableEq, Repr

/-- Adds a finished segment in front of later ones, unless it is empty. -/
def addSegment (current : List Lexeme) (later : List (List Lexeme)) : List (List Lexeme) :=
  if current.isEmpty then later else current :: later

/-- Splits lexemes into segments. `current` is the segment so far; a bare lookup
gets its parentheses here. -/
def splitSegments (mode : SegmentMode) (current : List Lexeme) :
    List Lexeme → Except Fault (List (List Lexeme))
  | [] =>
    match mode with
    | .plain | .at => .ok (addSegment current [])
    | .group _ => .error .openLookupInPath
    | .bare => .ok (addSegment (current ++ [.plain ')']) [])
  | l :: rest =>
    match mode with
    | .plain =>
      if l.is '.' then (splitSegments .plain [] rest).map (addSegment current)
      else if l.is '@' then splitSegments .at (current ++ [l]) rest
      else splitSegments .plain (current ++ [l]) rest
    | .at =>
      if l.is '(' then splitSegments (.group 1) (current ++ [l]) rest
      else if l.is '.' then .error .dotAfterAt
      else if l.is ']' then splitSegments .plain (current ++ [l]) rest
      else splitSegments .bare (current ++ [.plain '(', l]) rest
    | .group depth =>
      if l.is '(' then splitSegments (.group (depth + 1)) (current ++ [l]) rest
      else if l.is ')' then
        if depth ≤ 1 then splitSegments .plain (current ++ [l]) rest
        else splitSegments (.group (depth - 1)) (current ++ [l]) rest
      else splitSegments (.group depth) (current ++ [l]) rest
    | .bare =>
      if l.is '.' then
        (splitSegments .plain [] rest).map (addSegment (current ++ [.plain ')']))
      else if l.is ']' then splitSegments .plain (current ++ [.plain ')', l]) rest
      else splitSegments .bare (current ++ [l]) rest

def segments (path : String) : Except GrammarError (List String) :=
  match splitSegments .plain [] (spreadBrackets 0 none (lex path)) with
  | .ok parts => .ok (parts.map reescape)
  | .error fault => .error ⟨path, fault⟩

end Reshape.Key
