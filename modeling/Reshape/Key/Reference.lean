import Reshape.Decimal.Integer
import Reshape.Key.Fault
import Reshape.Text.Blank

namespace Reshape.Key

/-- A captured text: `level` levels up, capture `group` of the key matched there. -/
structure Reference where
  level : Nat
  group : Nat
deriving DecidableEq, Repr

/-- Reads a number of a reference; blanks around it are dropped. -/
def readLevel (cs : List Char) : Except Fault Nat :=
  let cs := Text.trimChars cs
  if cs.head? = some '-' then .error (.negativeReference (String.ofList cs))
  else
    match Decimal.readNat cs with
    | none => .error (.badReference (String.ofList cs))
    | some n =>
      if n < Decimal.wordBound then .ok n else .error (.hugeReference (String.ofList cs))

/-- The characters between parentheses that enclose all of them. -/
def unwrap? : List Char → Option (List Char)
  | '(' :: rest => if rest.getLast? = some ')' then some rest.dropLast else none
  | _ => none

def splitCommas : List Char → List (List Char)
  | [] => [[]]
  | c :: rest =>
    if c = ',' then [] :: splitCommas rest
    else match splitCommas rest with
      | [] => [[c]]
      | part :: parts => (c :: part) :: parts

namespace Reference

/-- Reads what follows the token of a reference: nothing, a level, or a level and a
capture in parentheses. -/
def parse (token : Char) (body : List Char) : Except Fault Reference :=
  if body.isEmpty then .ok ⟨0, 0⟩
  else
    match unwrap? body with
    | some inner =>
      match splitCommas inner with
      | [level] => (readLevel level).map fun level => ⟨level, 0⟩
      | [level, group] => do
        let level ← readLevel level
        let group ← readLevel group
        .ok ⟨level, group⟩
      | _ => .error (.longReference token (String.ofList (token :: body)))
    | none => (readLevel body).map fun level => ⟨level, 0⟩

/-- The characters of a reference with its level and capture written out. -/
def chars (token : Char) (r : Reference) : List Char :=
  token :: '(' :: Decimal.natChars r.level ++ ',' :: Decimal.natChars r.group ++ [')']

def canonical (token : Char) (r : Reference) : String :=
  String.ofList (r.chars token)

end Reference

/-- Reads what follows the number sign of a counter: nothing or a level, with or
without parentheses. -/
def parseCounter (body : List Char) : Except Fault Nat :=
  if body.isEmpty then .ok 0 else readLevel ((unwrap? body).getD body)

def counterChars (level : Nat) : List Char :=
  '#' :: '(' :: Decimal.natChars level ++ [')']

def counterCanonical (level : Nat) : String :=
  String.ofList (counterChars level)

end Reshape.Key
