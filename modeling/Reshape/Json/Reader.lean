import Reshape.Json

/-! Reading JSON text. The grammar is strict: blanks are the four JSON ones, nothing
follows the document, escapes form whole characters, and at most 127 containers are
nested. A key that stands twice keeps its first place and its last value. -/

namespace Reshape.Json

/-- The largest number of containers around a value. -/
def maxNesting : Nat := 127

/-- The blanks between the tokens of JSON text. -/
def isSpace (c : Char) : Bool :=
  c = ' ' || c = '\t' || c = '\n' || c = '\x0d'

def skipSpace (cs : List Char) : List Char :=
  cs.dropWhile isSpace

def hexValue? (c : Char) : Option Nat :=
  if '0' ≤ c ∧ c ≤ '9' then some (c.toNat - 48)
  else if 'a' ≤ c ∧ c ≤ 'f' then some (c.toNat - 87)
  else if 'A' ≤ c ∧ c ≤ 'F' then some (c.toNat - 55)
  else none

/-- Reads four hexadecimal digits as a code unit. -/
def readUnit : List Char → Option (Nat × List Char)
  | a :: b :: c :: d :: rest => do
    let a ← hexValue? a
    let b ← hexValue? b
    let c ← hexValue? c
    let d ← hexValue? d
    some (((a * 16 + b) * 16 + c) * 16 + d, rest)
  | _ => none

/-- Reads a code unit after its backslash and letter. A high surrogate needs a low
one after it; a low surrogate has no place of its own. -/
def readUnicode (cs : List Char) : Option (Char × List Char) := do
  let (unit, rest) ← readUnit cs
  if unit < 0xD800 ∨ 0xDFFF < unit then some (Char.ofNat unit, rest)
  else if 0xDBFF < unit then none
  else
    match rest with
    | '\\' :: 'u' :: rest => do
      let (low, rest) ← readUnit rest
      if 0xDC00 ≤ low ∧ low ≤ 0xDFFF then
        some (Char.ofNat (0x10000 + (unit - 0xD800) * 1024 + (low - 0xDC00)), rest)
      else none
    | _ => none

/-- The character that a letter after a backslash stands for. -/
def simpleEscape? (c : Char) : Option Char :=
  if c = '\x22' ∨ c = '\\' ∨ c = '/' then some c
  else if c = 'b' then some '\x08'
  else if c = 'f' then some '\x0c'
  else if c = 'n' then some '\n'
  else if c = 'r' then some '\x0d'
  else if c = 't' then some '\t'
  else none

/-- Reads the rest of a quoted text after its opening quote. `done` holds the
characters so far in reverse; `fuel` bounds the characters still read. -/
def readText : Nat → List Char → List Char → Option (String × List Char)
  | 0, _, _ => none
  | _ + 1, _, [] => none
  | fuel + 1, done, c :: rest =>
    if c = '\x22' then some (String.ofList done.reverse, rest)
    else if c = '\\' then
      match rest with
      | [] => none
      | e :: rest =>
        if e = 'u' then
          match readUnicode rest with
          | some (c, rest) => readText fuel (c :: done) rest
          | none => none
        else
          match simpleEscape? e with
          | some c => readText fuel (c :: done) rest
          | none => none
    else if c.toNat < 32 then none
    else readText fuel (c :: done) rest

/-- Splits leading digits from a text. -/
def spanDigits (cs : List Char) : List Char × List Char :=
  (cs.takeWhile Decimal.isDigit, cs.dropWhile Decimal.isDigit)

/-- The digits of a fraction after its point; no point is no fraction. -/
def readFraction : List Char → Option (List Char × List Char)
  | [] => some ([], [])
  | c :: rest =>
    if c = '.' then
      let digits := spanDigits rest
      if digits.1.isEmpty then none else some digits
    else some ([], c :: rest)

def isExponentMark (c : Char) : Bool :=
  c = 'e' || c = 'E'

/-- Splits a sign from the digits of an exponent, and tells whether it is a minus. -/
def readSign : List Char → Bool × List Char
  | [] => (false, [])
  | c :: rest =>
    if c = '-' then (true, rest)
    else if c = '+' then (false, rest)
    else (false, c :: rest)

/-- Reads an exponent with its mark; no mark is no exponent. -/
def readExponent : List Char → Option (Option Int × List Char)
  | [] => some (none, [])
  | c :: rest =>
    if isExponentMark c then
      let signed := readSign rest
      let digits := spanDigits signed.2
      (Decimal.readNat digits.1).map fun (n : Nat) =>
        (some (if signed.1 then -(n : Int) else n), digits.2)
    else some (none, c :: rest)

/-- The whole part of a number: one zero, or digits that do not start with one. -/
def readWhole : List Char → Option (List Char × List Char)
  | [] => none
  | c :: rest =>
    if c = '0' then some (['0'], rest)
    else
      let digits := spanDigits (c :: rest)
      if digits.1.isEmpty then none else some digits

/-- Adds digits to a significand as long as it stays a word: the significand, and the digits
that are left. -/
def takeWord (significand : Nat) : List Char → Nat × List Char
  | [] => (significand, [])
  | c :: rest =>
    let more := 10 * significand + Decimal.digitValue c
    if more < Decimal.wordBound then takeWord more rest else (significand, c :: rest)

/-- The largest exponent of ten that a float has. -/
def maxPower : Nat := 308

/-- The float nearest to a power of ten, for exponents up to `maxPower`. -/
def powerOfTen (exponent : Nat) : Float :=
  Float.ofScientific 1 false exponent

/-- Divides by the largest power of ten so many times. -/
def shrink : Nat → Float → Float
  | 0, x => x
  | times + 1, x => if x == 0.0 then x else shrink times (x / powerOfTen maxPower)

/-- A significand times a power of ten, by one multiplication or by divisions of floats. Each
of them rounds, so the result need not be the nearest float. One that is too large is
refused. -/
def scale? (significand : Nat) (exponent : Int) : Option Float :=
  let x := significand.toUInt64.toFloat
  if exponent < 0 then
    let times := (exponent.natAbs - 1) / maxPower
    some (shrink times x / powerOfTen (exponent.natAbs - times * maxPower))
  else if exponent.natAbs ≤ maxPower then
    let scaled := x * powerOfTen exponent.natAbs
    if scaled.isInf then none else some scaled
  else if significand = 0 then some x
  else none

def maxExponent : Nat := 2147483647

/-- The magnitude of a float. An exponent that is not counted decides it alone. -/
def magnitude? (significand : Nat) (point : Int) : Option Int → Option Float
  | none => scale? significand point
  | some exponent =>
    if exponent.natAbs ≤ maxExponent then scale? significand (point + exponent)
    else if 0 < exponent ∧ significand ≠ 0 then none
    else some 0.0

/-- The number of a literal. Without fraction and exponent it is an integer if it
fits in 64 bits, a minus sign before zero apart; a float that is too large is refused. A float
has no more digits than a word can hold: those after them in the whole part count for its size
alone, and those after them in the fraction do not count. -/
def literal (negative : Bool) (whole fraction : List Char) (exponent : Option Int) :
    Option Number :=
  let (digits, dropped) := takeWord 0 whole
  let integral := fraction.isEmpty && exponent.isNone && dropped.isEmpty &&
    (!negative || digits ≠ 0 && Decimal.minInteger ≤ -(digits : Int))
  if integral then some (.int (if negative then -(digits : Int) else digits))
  else
    let (significand, ignored) := takeWord digits fraction
    let point : Int := dropped.length - (fraction.length - ignored.length : Nat)
    (magnitude? significand point exponent).map fun x => .float (if negative then -x else x)

def readMinus : List Char → Bool × List Char
  | [] => (false, [])
  | c :: rest => if c = '-' then (true, rest) else (false, c :: rest)

/-- Reads a number. A digit after a leading zero is left for the caller to refuse. -/
def readNumber (cs : List Char) : Option (Number × List Char) := do
  let signed := readMinus cs
  let (whole, cs) ← readWhole signed.2
  let (fraction, cs) ← readFraction cs
  let (exponent, cs) ← readExponent cs
  let number ← literal signed.1 whole fraction exponent
  some (number, cs)

/-- The text after a word that it must start with. -/
def readWord (word cs : List Char) : Option (List Char) :=
  if word.isPrefixOf cs then some (cs.drop word.length) else none

mutual

/-- Reads a value at the head of a text; `room` containers may still be opened. -/
def readValue : Nat → Nat → List Char → Option (Json × List Char)
  | 0, _, _ => none
  | fuel + 1, room, cs =>
    match cs with
    | [] => none
    | c :: rest =>
      if c = '\x22' then
        (readText fuel [] rest).map fun (s, rest) => (.str s, rest)
      else if c = '[' then
        match room with
        | 0 => none
        | room + 1 =>
          match skipSpace rest with
          | ']' :: rest => some (.arr [], rest)
          | rest => readItems fuel room [] rest
      else if c = '\x7b' then
        match room with
        | 0 => none
        | room + 1 =>
          match skipSpace rest with
          | '\x7d' :: rest => some (.obj [], rest)
          | rest => readMembers fuel room [] rest
      else if c = 'n' then (readWord ['u', 'l', 'l'] rest).map fun rest => (.null, rest)
      else if c = 't' then (readWord ['r', 'u', 'e'] rest).map fun rest => (.bool true, rest)
      else if c = 'f' then
        (readWord ['a', 'l', 's', 'e'] rest).map fun rest => (.bool false, rest)
      else (readNumber (c :: rest)).map fun (n, rest) => (.num n, rest)

/-- Reads the items of an array up to its end; `done` holds the earlier ones in
reverse. -/
def readItems : Nat → Nat → List Json → List Char → Option (Json × List Char)
  | 0, _, _, _ => none
  | fuel + 1, room, done, cs =>
    match readValue fuel room (skipSpace cs) with
    | none => none
    | some (item, rest) =>
      match skipSpace rest with
      | ',' :: rest => readItems fuel room (item :: done) rest
      | ']' :: rest => some (.arr (item :: done).reverse, rest)
      | _ => none

/-- Reads the members of an object up to its end, after the ones already read. -/
def readMembers : Nat → Nat → Members → List Char → Option (Json × List Char)
  | 0, _, _, _ => none
  | fuel + 1, room, done, cs =>
    match skipSpace cs with
    | '\x22' :: rest =>
      match readText fuel [] rest with
      | none => none
      | some (key, rest) =>
        match skipSpace rest with
        | ':' :: rest =>
          match readValue fuel room (skipSpace rest) with
          | none => none
          | some (value, rest) =>
            match skipSpace rest with
            | ',' :: rest => readMembers fuel room (Members.put key value done) rest
            | '\x7d' :: rest => some (.obj (Members.put key value done), rest)
            | _ => none
        | _ => none
    | _ => none

end

/-- Reads a text that is one document and nothing else. -/
def parse? (text : String) : Option Json :=
  let cs := text.toList
  match readValue (2 * cs.length + 2) maxNesting (skipSpace cs) with
  | some (doc, rest) => if (skipSpace rest).isEmpty then some doc else none
  | none => none

end Reshape.Json
