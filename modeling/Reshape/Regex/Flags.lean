import Reshape.Decimal.Integer
import Reshape.Regex.Pattern
import Reshape.Text.Blank

namespace Reshape.Regex

/-- The flags that are in force at some place of an expression. -/
structure Flags where
  ignoreCase : Bool
  multiLine : Bool
  dotAll : Bool
  swapGreed : Bool
  unicode : Bool
  crlf : Bool
  verbose : Bool
deriving DecidableEq, Repr

namespace Flags

/-- The flags at the start of an expression: only `u` is set. -/
def initial : Flags := ⟨false, false, false, false, true, false, false⟩

def set? (f : Flags) (letter : Char) (value : Bool) : Option Flags :=
  match letter with
  | 'i' => some { f with ignoreCase := value }
  | 'm' => some { f with multiLine := value }
  | 's' => some { f with dotAll := value }
  | 'U' => some { f with swapGreed := value }
  | 'u' => some { f with unicode := value }
  | 'R' => some { f with crlf := value }
  | 'x' => some { f with verbose := value }
  | _ => none

end Flags

/-- Why a regular expression is refused. -/
inductive SyntaxFault where
  | openGroup
  | unopenedGroup
  | openClass
  | lookAround
  | groupName
  | duplicateName
  | flags
  | nothingToRepeat
  | repetition
  | escape
  | backReference
  | hexadecimal
  | property
  | classEscape
  | classRange
  | wordBoundary
  | notUnicode
  | nesting
deriving DecidableEq, Repr

def SyntaxFault.reason : SyntaxFault → String
  | openGroup => "unclosed group"
  | unopenedGroup => "unopened group"
  | openClass => "unclosed character class"
  | lookAround => "look-around, including look-ahead and look-behind, is not supported"
  | groupName => "invalid capture group name"
  | duplicateName => "duplicate capture group name"
  | flags => "invalid flags"
  | nothingToRepeat => "repetition operator missing expression"
  | repetition => "invalid repetition count"
  | escape => "unrecognized escape sequence"
  | backReference => "backreferences are not supported"
  | hexadecimal => "invalid hexadecimal escape"
  | property => "Unicode property not found"
  | classEscape => "invalid escape sequence found in character class"
  | classRange => "invalid character class range"
  | wordBoundary => "invalid word boundary"
  | notUnicode => "pattern can match invalid UTF-8"
  | nesting => "exceed the maximum number of nested parentheses or brackets"

/-- Drops blanks and comments; a comment goes from a number sign to the end of its
line. -/
def dropBlanks (inComment : Bool) : List Char → List Char
  | [] => []
  | c :: rest =>
    if inComment then dropBlanks (c != '\n') rest
    else if Text.isBlank c then dropBlanks false rest
    else if c = '#' then dropBlanks true rest
    else c :: rest

/-- Drops blanks and comments where they do not count. -/
def skip (f : Flags) (cs : List Char) : List Char :=
  if f.verbose then dropBlanks false cs else cs

/-- The characters after the first one, without blanks that do not count. -/
def advance (f : Flags) (cs : List Char) : List Char :=
  skip f (cs.drop 1)

/-- The character after the first one, past blanks that do not count. -/
def peek? (f : Flags) (cs : List Char) : Option Char :=
  let rest := cs.drop 1
  if f.verbose then
    match rest.dropWhile Text.isBlank with
    | '#' :: comment => (comment.find? fun c => !Text.isBlank c).or rest.head?
    | c :: _ => some c
    | [] => rest.head?
  else rest.head?

/-- What an escape or a single character stands for. -/
inductive Primitive where
  /-- A character; `byte` tells that it was written as two hexadecimal digits. -/
  | literal (c : Char) (byte : Bool)
  | set (chars : CharSet)
  | look (condition : Look)

/-- The number of `u` hexadecimal digits as a character. -/
def hexChar? (digits : List Char) : Option Char :=
  let value := digits.foldl (fun value c => 16 * value + Text.hexDigitValue c) 0
  if value < 0xd800 ∨ (0xdfff < value ∧ value < 0x110000) then some (Char.ofNat value) else none

def isHexDigit (c : Char) : Bool :=
  Decimal.isDigit c || ('a' ≤ c && c ≤ 'f') || ('A' ≤ c && c ≤ 'F')

/-- The first characters up to one with which they end, blanks that do not count left
out, and what follows; none if that one does not come. -/
def readUntil (f : Flags) (stop : Char) : Nat → List Char → Option (List Char × List Char)
  | 0, _ => none
  | fuel + 1, cs =>
    match cs with
    | [] => none
    | c :: _ =>
      if c = stop then some ([], cs)
      else (readUntil f stop fuel (advance f cs)).map fun (found, rest) => (c :: found, rest)

/-- Reads a fixed number of hexadecimal digits. -/
def readHexDigits (f : Flags) : Nat → List Char → Except SyntaxFault (List Char × List Char)
  | 0, cs => .ok ([], cs)
  | count + 1, cs =>
    match cs with
    | [] => .error .hexadecimal
    | c :: _ =>
      if isHexDigit c then do
        let (digits, rest) ← readHexDigits f count (advance f cs)
        .ok (c :: digits, rest)
      else .error .hexadecimal

/-- Reads what follows `\x`, `\u` or `\U`, which take `count` digits or any number in
braces. -/
def readHex (f : Flags) (count : Nat) (cs : List Char) :
    Except SyntaxFault (Primitive × List Char) :=
  match cs with
  | '\x7b' :: _ =>
    match readUntil f '\x7d' cs.length (advance f cs) with
    | none => .error .hexadecimal
    | some (digits, rest) =>
      if digits.isEmpty || !digits.all isHexDigit then .error .hexadecimal
      else
        match hexChar? digits with
        | some c => .ok (.literal c false, advance f rest)
        | none => .error .hexadecimal
  | _ => do
    let (digits, rest) ← readHexDigits f count cs
    match hexChar? digits with
    | some c => .ok (.literal c (count == 2), rest)
    | none => .error .hexadecimal

/-- Splits characters at the first one for which a test holds. -/
def splitFirst? (c : Char) (cs : List Char) : Option (List Char × List Char) :=
  match cs.span (· != c) with
  | (before, _ :: after) => some (before, after)
  | _ => none

/-- The set of a property in braces, and whether an unequal sign takes the others. -/
def propertySet? (name : List Char) : Option (CharSet × Bool) :=
  let unequal := (splitFirst? '!' name).bind fun (before, after) =>
    match after with
    | '=' :: value => some (before, value)
    | _ => none
  match unequal with
  | some (property, value) => (CharSet.byValue? property value).map fun s => (s, true)
  | none =>
    match (splitFirst? ':' name).or (splitFirst? '=' name) with
    | some (property, value) => (CharSet.byValue? property value).map fun s => (s, false)
    | none => (CharSet.byName? name).map fun s => (s, false)

/-- A set whose case may not matter. -/
def foldSet (f : Flags) (s : CharSet) : CharSet :=
  if f.ignoreCase then (if f.unicode then s.folded else s.foldedAscii) else s

/-- A set or its complement, which only Unicode characters have. -/
def complementIf (f : Flags) (negated : Bool) (s : CharSet) : Except SyntaxFault CharSet :=
  if negated then (if f.unicode then .ok s.complement else .error .notUnicode) else .ok s

/-- Reads what follows `\p` or `\P`. -/
def readProperty (f : Flags) (negated : Bool) (cs : List Char) :
    Except SyntaxFault (Primitive × List Char) :=
  let finish (found : Option (CharSet × Bool)) (rest : List Char) :
      Except SyntaxFault (Primitive × List Char) :=
    match found with
    | none => .error .property
    | some (s, unequal) =>
      if f.unicode then do
        let s ← complementIf f (negated != unequal) (foldSet f s)
        .ok (.set s, rest)
      else .error .notUnicode
  match cs with
  | [] => .error .escape
  | '\x7b' :: _ =>
    match readUntil f '\x7d' cs.length (advance f cs) with
    | none => .error .escape
    | some (name, rest) => finish (propertySet? name) (rest.drop 1)
  | c :: _ =>
    if c = '\\' then .error .property
    else finish ((CharSet.byName? [c]).map fun s => (s, false)) (advance f cs)

/-- The sets of `\d`, `\s` and `\w` and their complements. -/
def perlSet (f : Flags) (letter : Char) : Except SyntaxFault CharSet :=
  match letter with
  | 'd' => .ok (if f.unicode then Property.decimalNumber else .asciiDigits)
  | 's' => .ok (if f.unicode then Property.whiteSpace else .asciiBlanks)
  | 'w' => .ok (if f.unicode then Property.word else .asciiWord)
  | 'D' => complementIf f true Property.decimalNumber
  | 'S' => complementIf f true Property.whiteSpace
  | _ => complementIf f true Property.word

def metaChars : List Char :=
  ['\\', '.', '+', '*', '?', '(', ')', '|', '[', ']', '\x7b', '\x7d', '^', '$', '#', '&', '-',
    '~']

/-- Whether a backslash in front of a character makes it stand for itself. -/
def isEscapable (c : Char) : Bool :=
  metaChars.contains c ||
    (c.toNat < 128 && !Decimal.isDigit c && !('a' ≤ c && c ≤ 'z') && !('A' ≤ c && c ≤ 'Z') &&
      c != '<' && c != '>')

def isBoundaryChar (c : Char) : Bool :=
  ('a' ≤ c && c ≤ 'z') || ('A' ≤ c && c ≤ 'Z') || c == '-'

def readBoundaryName (f : Flags) : Nat → List Char → List Char × List Char
  | 0, cs => ([], cs)
  | fuel + 1, cs =>
    match cs with
    | [] => ([], [])
    | c :: _ =>
      if isBoundaryChar c then
        let (name, rest) := readBoundaryName f fuel (advance f cs)
        (c :: name, rest)
      else ([], cs)

def boundaryNamed? (name : String) : Option Look :=
  match name with
  | "start" => some .wordStart
  | "end" => some .wordEnd
  | "start-half" => some .wordStartHalf
  | "end-half" => some .wordEndHalf
  | _ => none

/-- Reads what follows `\b`: nothing, or the name of a boundary in braces. Braces with
a number in them are a repetition. -/
def readBoundary (f : Flags) (cs : List Char) : Except SyntaxFault (Primitive × List Char) :=
  match cs with
  | '\x7b' :: _ =>
    match advance f cs with
    | [] => .error .wordBoundary
    | c :: inner =>
      if !isBoundaryChar c then .ok (.look .boundary, cs)
      else
        let (name, rest) := readBoundaryName f cs.length (c :: inner)
        match rest with
        | '\x7d' :: after =>
          match boundaryNamed? (String.ofList name) with
          | some condition => .ok (.look condition, after)
          | none => .error .wordBoundary
        | _ => .error .wordBoundary
  | _ => .ok (.look .boundary, cs)

def readEscape (f : Flags) (cs : List Char) : Except SyntaxFault (Primitive × List Char) :=
  match cs with
  | [] => .error .escape
  | c :: rest =>
    if Decimal.isDigit c then .error .backReference
    else if metaChars.contains c then .ok (.literal c false, rest)
    else
      match c with
      | 'x' => readHex f 2 (advance f cs)
      | 'u' => readHex f 4 (advance f cs)
      | 'U' => readHex f 8 (advance f cs)
      | 'p' => readProperty f false (advance f cs)
      | 'P' => readProperty f true (advance f cs)
      | 'd' | 's' | 'w' | 'D' | 'S' | 'W' => (perlSet f c).map fun s => (.set s, rest)
      | 'a' => .ok (.literal '\x07' false, rest)
      | 'f' => .ok (.literal '\x0c' false, rest)
      | 't' => .ok (.literal '\t' false, rest)
      | 'n' => .ok (.literal '\n' false, rest)
      | 'r' => .ok (.literal '\x0d' false, rest)
      | 'v' => .ok (.literal '\x0b' false, rest)
      | 'A' => .ok (.look .textStart, rest)
      | 'z' => .ok (.look .textEnd, rest)
      | 'b' => readBoundary f rest
      | 'B' => .ok (.look .notBoundary, rest)
      | '<' => .ok (.look .wordStart, rest)
      | '>' => .ok (.look .wordEnd, rest)
      | _ => if isEscapable c then .ok (.literal c false, rest) else .error .escape

end Reshape.Regex
