/-! The characters of a key or path with their escapes resolved. A backslash takes
the character after it literally, so whether a character has a meaning in the
grammar is a property of its lexeme. -/

namespace Reshape.Key

/-- A character of a key, and whether a backslash took away its meaning. -/
structure Lexeme where
  char : Char
  escaped : Bool
deriving DecidableEq, Repr

namespace Lexeme

def is (l : Lexeme) (c : Char) : Bool :=
  !l.escaped && l.char == c

def plain (c : Char) : Lexeme := ⟨c, false⟩

end Lexeme

/-- The lexemes of a key. A backslash at the end stands for itself. -/
def lexChars : List Char → List Lexeme
  | [] => []
  | [c] => [⟨c, c == '\\'⟩]
  | c :: next :: rest =>
    if c = '\\' then ⟨next, true⟩ :: lexChars rest else ⟨c, false⟩ :: lexChars (next :: rest)

def lex (key : String) : List Lexeme :=
  lexChars key.toList

def contains (ls : List Lexeme) (c : Char) : Bool :=
  ls.any (·.is c)

def count (ls : List Lexeme) (c : Char) : Nat :=
  ls.countP (·.is c)

/-- Whether the first lexeme is this character with its meaning. -/
def startsWith (ls : List Lexeme) (c : Char) : Bool :=
  match ls with
  | [] => false
  | l :: _ => l.is c

/-- Whether the last lexeme is this character with its meaning. -/
def endsWith (ls : List Lexeme) (c : Char) : Bool :=
  match ls.getLast? with
  | none => false
  | some l => l.is c

/-- The characters that have a meaning somewhere in keys and paths. -/
def special : List Char :=
  ['\\', '.', '*', '&', '@', '$', '#', '[', ']', '|', '(', ')', ',']

/-- The characters that are escaped in a canonical literal. Parentheses and commas
have a meaning only after one of these. -/
def reserved : List Char :=
  ['\\', '.', '*', '&', '@', '$', '#', '[', ']', '|']

def unescapeChars (ls : List Lexeme) : List Char :=
  ls.map (·.char)

def unescape (ls : List Lexeme) : String :=
  String.ofList (unescapeChars ls)

/-- One lexeme with its escape, if the escape takes away a meaning. -/
def reescapeOne (l : Lexeme) : List Char :=
  if l.escaped && special.contains l.char then ['\\', l.char] else [l.char]

/-- The characters of the lexemes with the escapes that take away a meaning. -/
def reescapeChars (ls : List Lexeme) : List Char :=
  ls.flatMap reescapeOne

/-- The text of the lexemes with the escapes that take away a meaning. -/
def reescape (ls : List Lexeme) : String :=
  String.ofList (reescapeChars ls)

/-- One character of a canonical literal. -/
def escapeOne (c : Char) : List Char :=
  if reserved.contains c then ['\\', c] else [c]

/-- The canonical form of the characters of a literal. -/
def escapeChars (cs : List Char) : List Char :=
  cs.flatMap escapeOne

/-- The canonical form of a literal: every reserved character is escaped. -/
def escape (text : String) : String :=
  String.ofList (escapeChars text.toList)

/-- Splits lexemes at each occurrence of a character with its meaning. -/
def splitAt (c : Char) : List Lexeme → List (List Lexeme)
  | [] => [[]]
  | l :: rest =>
    if l.is c then [] :: splitAt c rest
    else match splitAt c rest with
      | [] => [[l]]
      | part :: parts => (l :: part) :: parts

/-- The lexemes up to the parenthesis that closes the `depth` open ones, and the
lexemes after it; none if there is no such parenthesis. -/
def closing (depth : Nat) : List Lexeme → Option (List Lexeme × List Lexeme)
  | [] => none
  | l :: rest =>
    if l.is '(' then (closing (depth + 1) rest).map fun (inner, after) => (l :: inner, after)
    else if l.is ')' then
      if depth ≤ 1 then some ([l], rest)
      else (closing (depth - 1) rest).map fun (inner, after) => (l :: inner, after)
    else (closing depth rest).map fun (inner, after) => (l :: inner, after)

/-- Splits lexemes at the bars outside parentheses; `depth` parentheses are open.
A closing parenthesis too many is a character like any other. -/
def splitBars (depth : Nat) : List Lexeme → List (List Lexeme)
  | [] => [[]]
  | l :: rest =>
    if l.is '|' && depth == 0 then [] :: splitBars depth rest
    else
      let depth := if l.is '(' then depth + 1 else if l.is ')' then depth - 1 else depth
      match splitBars depth rest with
      | [] => [[l]]
      | part :: parts => (l :: part) :: parts

/-- The alternatives of a key, which bars separate. They keep their escapes. -/
def alternatives (key : String) : List String :=
  (splitBars 0 (lex key)).map reescape

end Reshape.Key
