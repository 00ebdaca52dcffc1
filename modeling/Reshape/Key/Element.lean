import Reshape.Key.Reference
import Reshape.Key.Segments
import Reshape.Key.Star

namespace Reshape.Key

inductive Piece where
  | text (value : String)
  | captured (reference : Reference)
deriving DecidableEq, Repr

abbrev Template := List Piece

/-- A step of a path that needs no data of the document to be known. -/
inductive PlainStep where
  /-- The member with this key. -/
  | key (text : String)
  /-- The member whose key is the text of a template. -/
  | template (pieces : Template)
  /-- The item at an index. -/
  | item (index : Nat)
  /-- The item at the index that a match counter shows. -/
  | counter (level : Nat)
  /-- The item at a captured index. -/
  | captured (reference : Reference)
deriving DecidableEq, Repr

/-- A lookup: `level` levels up, then along a path. -/
structure Lookup where
  level : Nat
  path : List PlainStep
deriving DecidableEq, Repr

/-- A step of a path that is read or written. -/
inductive Step where
  | plain (step : PlainStep)
  /-- The member whose key a lookup finds. -/
  | lookup (target : Lookup)
  /-- A new item at the end of an array. -/
  | append
  /-- The item whose index a lookup finds. -/
  | itemLookup (target : Lookup)
deriving DecidableEq, Repr

/-- What a key or a segment stands for. -/
inductive Element where
  | step (value : Step)
  /-- A wildcard. -/
  | star (pattern : Star)
  /-- Matches always, with this text as the key. -/
  | constant (text : String)
  /-- Matches always, with a captured text as the key. -/
  | captured (reference : Reference)
  /-- The current node itself. -/
  | here
deriving DecidableEq, Repr

namespace Element

@[match_pattern]
abbrev literal (text : String) : Element := .step (.plain (.key text))

@[match_pattern]
abbrev template (pieces : Template) : Element := .step (.plain (.template pieces))

@[match_pattern]
abbrev lookup (target : Lookup) : Element := .step (.lookup target)

end Element

/-- The canonical form of a piece of a template. -/
def Piece.chars : Piece → List Char
  | text value => escapeChars value.toList
  | captured r => r.chars '&'

/-- The canonical form of a step without lookups. -/
def PlainStep.chars : PlainStep → List Char
  | key text => escapeChars text.toList
  | template pieces => pieces.flatMap Piece.chars
  | item index => '[' :: Decimal.natChars index ++ [']']
  | counter level => '[' :: counterChars level ++ [']']
  | captured r => '[' :: r.chars '&' ++ [']']

def joinDots : List (List Char) → List Char
  | [] => []
  | [segment] => segment
  | segment :: rest => segment ++ '.' :: joinDots rest

def Lookup.chars (l : Lookup) : List Char :=
  '@' :: '(' :: Decimal.natChars l.level ++
    ',' :: joinDots (l.path.map PlainStep.chars) ++ [')']

def Step.chars : Step → List Char
  | plain s => s.chars
  | lookup l => l.chars
  | append => ['[', ']']
  | itemLookup l => '[' :: l.chars ++ [']']

/-- The canonical form of an element: without shorthand, with every reserved
character of a literal escaped. -/
def Element.chars : Element → List Char
  | step s => s.chars
  | star pattern => pattern.chars
  | constant text => '#' :: '(' :: escapeChars text.toList ++ [')']
  | captured r => r.chars '$'
  | here => ['@']

def Lookup.canonical (l : Lookup) : String :=
  String.ofList l.chars

def Step.canonical (s : Step) : String :=
  String.ofList s.chars

def Element.canonical (e : Element) : String :=
  String.ofList e.chars

/-- How a node treats a child with this element. -/
inductive Role where
  /-- Handles the one key with its text. -/
  | literal
  /-- Handles the keys that it matches. -/
  | computed
  /-- Handles the node whatever keys it has. -/
  | special
  /-- Handles an array position, which most nodes refuse. -/
  | index
deriving DecidableEq, Repr

def Element.role : Element → Role
  | literal _ => .literal
  | template _ => .computed
  | star _ => .computed
  | lookup _ => .special
  | constant _ => .special
  | captured _ => .special
  | here => .special
  | step _ => .index

/-- Whether an element is a literal or a wildcard, which need no walk to match. -/
def Element.isStatic : Element → Bool
  | literal _ => true
  | star _ => true
  | _ => false

/-- Whether an element is a wildcard other than the general form. -/
def Element.isSimpleStar : Element → Bool
  | star pattern => pattern.isSimple
  | _ => false

/-- Whether an element stands for a place in a document. -/
def Element.isStep : Element → Bool
  | step _ => true
  | _ => false

end Reshape.Key
