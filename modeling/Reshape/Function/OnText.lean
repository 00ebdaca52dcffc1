import Reshape.Function.Basic
import Reshape.Regex.Expression
import Reshape.Text.Case
import Reshape.Text.Quoted

namespace Reshape.Function

/-- A scalar as a part of a longer text. -/
def piece? : Json → Option String
  | .str s => some s
  | .num n => some n.text
  | .bool b => some (if b then "true" else "false")
  | _ => none

/-- The pieces of some values; nulls are left out. -/
def pieces? : List Json → Option (List String)
  | [] => some []
  | .null :: rest => pieces? rest
  | value :: rest => do
    let first ← piece? value
    let more ← pieces? rest
    some (first :: more)

def concat : Function := fun args =>
  (pieces? (spread args)).map fun texts => .str (String.intercalate "" texts)

/-- The values after the first one as one text, with that between them. -/
def join : Function
  | .str separator :: rest =>
    (pieces? (spread rest)).map fun texts => .str (String.intercalate separator texts)
  | _ => none

/-- The parts of a text between the matches of a regular expression. -/
def split : Function
  | [.str source, .str text] =>
    match Regex.parse source with
    | .ok pattern => some (.arr ((pattern.split text).map .str))
    | .error _ => none
  | _ => none

/-- The characters of a text from one position to another. -/
def substring : Function
  | [.str text, first, last] => do
    let first ← position? first
    let last ← position? last
    let chars := text.toList
    if first ≤ last ∧ last ≤ chars.length then
      some (.str (String.ofList ((chars.drop first).take (last - first))))
    else none
  | _ => none

inductive Side where
  | left
  | right
deriving DecidableEq, Repr

/-- A text with a character repeated on one side up to a width. -/
def pad (side : Side) : Function
  | [.str text, width, .str fill] => do
    let width ← position? width
    match fill.toList with
    | [c] =>
      let padding := String.ofList (List.replicate (width - text.length) c)
      some (.str (if side = .left then padding ++ text else text ++ padding))
    | _ => none
  | _ => none

def testTexts (test : List Char → List Char → Bool) : Function
  | [.str text, .str part] => some (.bool (test text.toList part.toList))
  | _ => none

def textFunctions : List (String × Function) :=
  [("toLower", ofText fun s => .str (Text.lower s)),
    ("toUpper", ofText fun s => .str (Text.upper s)),
    ("trim", ofText fun s => .str (Text.trim s)),
    ("concat", concat),
    ("join", join),
    ("split", split),
    ("substring", substring),
    ("leftPad", pad .left),
    ("rightPad", pad .right),
    ("startsWith", testTexts fun text part => part.isPrefixOf text),
    ("endsWith", testTexts fun text part => part.isSuffixOf text)]

end Reshape.Function
