import Reshape.Json

namespace Reshape.Json

def hexDigit (n : Nat) : Char :=
  if n < 10 then Char.ofNat (48 + n) else Char.ofNat (87 + n)

/-- A character inside quotes: quote, backslash and the characters below U+0020
are escaped, by a letter where there is one. -/
def escapeChar (c : Char) : String :=
  if c = '\x22' then "\\\""
  else if c = '\\' then "\\\\"
  else if c = '\n' then "\\n"
  else if c = '\x0d' then "\\r"
  else if c = '\t' then "\\t"
  else if c = '\x08' then "\\b"
  else if c = '\x0c' then "\\f"
  else if c.toNat < 32 then
    "\\u00" ++ String.ofList [hexDigit (c.toNat / 16), hexDigit (c.toNat % 16)]
  else String.singleton c

def writeText (out : String) (s : String) : String :=
  (s.toList.foldl (fun out c => out ++ escapeChar c) (out.push '\x22')).push '\x22'

mutual

/-- Writes a document without blanks after `out`. -/
def write (out : String) : Json → String
  | null => out ++ "null"
  | bool b => out ++ (if b then "true" else "false")
  | num n => out ++ n.text
  | str s => writeText out s
  | arr items => (writeItems (out.push '[') true items).push ']'
  | obj members => (writeMembers (out.push '\x7b') true members).push '\x7d'

/-- Writes the items of an array; a comma precedes all but the first. -/
def writeItems (out : String) (first : Bool) : List Json → String
  | [] => out
  | item :: rest => writeItems (write (if first then out else out.push ',') item) false rest

/-- Writes the members of an object; a comma precedes all but the first. -/
def writeMembers (out : String) (first : Bool) : Members → String
  | [] => out
  | (key, value) :: rest =>
    let out := if first then out else out.push ','
    writeMembers (write ((writeText out key).push ':') value) false rest

end

/-- The text of a document without blanks. -/
def compact (doc : Json) : String :=
  write "" doc

/-- A new line indented to a depth, two spaces a level. -/
def newline (out : String) (depth : Nat) : String :=
  out ++ String.ofList ('\n' :: List.replicate (2 * depth) ' ')

mutual

/-- Writes a document after `out`, one item or member a line. -/
def writePretty (out : String) (depth : Nat) : Json → String
  | arr [] => out ++ "[]"
  | arr (item :: rest) =>
    (newline (prettyItems (out.push '[') (depth + 1) true (item :: rest)) depth).push ']'
  | obj [] => out ++ "\x7b\x7d"
  | obj (member :: rest) =>
    (newline (prettyMembers (out.push '\x7b') (depth + 1) true (member :: rest)) depth).push '\x7d'
  | doc => write out doc

def prettyItems (out : String) (depth : Nat) (first : Bool) : List Json → String
  | [] => out
  | item :: rest =>
    let out := newline (if first then out else out.push ',') depth
    prettyItems (writePretty out depth item) depth false rest

/-- Writes members on lines of their own, with a space after the colon. -/
def prettyMembers (out : String) (depth : Nat) (first : Bool) : Members → String
  | [] => out
  | (key, value) :: rest =>
    let out := newline (if first then out else out.push ',') depth
    prettyMembers (writePretty (writeText out key ++ ": ") depth value) depth false rest

end

/-- The indented text of a document. -/
def pretty (doc : Json) : String :=
  writePretty "" 0 doc

end Reshape.Json
