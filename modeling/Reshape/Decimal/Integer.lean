namespace Reshape.Decimal

/-- One more than the largest index: indices and counts fit in 64 bits. -/
def wordBound : Nat := 18446744073709551616

/-- The largest integer of 64 bits with a sign. -/
def maxInteger : Int := 9223372036854775807

/-- The smallest integer of 64 bits with a sign. -/
def minInteger : Int := -9223372036854775808

/-- Whether a character is one of the ten ASCII digits. -/
def isDigit (c : Char) : Bool :=
  '0' ≤ c && c ≤ '9'

def digitValue (c : Char) : Nat :=
  c.toNat - 48

/-- The decimal digits of a natural number, without a leading zero. -/
def natChars (n : Nat) : List Char :=
  Nat.toDigits 10 n

def natText (n : Nat) : String :=
  String.ofList (natChars n)

/-- The decimal text of an integer, with a minus sign if it is negative. -/
def intText (n : Int) : String :=
  if n < 0 then "-" ++ natText n.natAbs else natText n.natAbs

/-- The value of the digits read so far followed by more of them. -/
def readFrom (value : Nat) : List Char → Option Nat
  | [] => some value
  | c :: rest => if isDigit c then readFrom (10 * value + digitValue c) rest else none

/-- Reads one or more digits and nothing else. -/
def readNat : List Char → Option Nat
  | [] => none
  | c :: rest => readFrom 0 (c :: rest)

/-- Reads digits that stand for a number of 64 bits without a sign. -/
def readWord (cs : List Char) : Option Nat :=
  (readNat cs).filter (· < wordBound)

/-- Reads an index: digits, after a plus sign if there is one, that fit in 64 bits. -/
def readIndexChars : List Char → Option Nat
  | '+' :: rest => readWord rest
  | cs => readWord cs

def readIndex (s : String) : Option Nat :=
  readIndexChars s.toList

/-- Keeps an integer that fits in 64 bits with a sign. -/
def keepInteger (n : Int) : Option Int :=
  if minInteger ≤ n ∧ n ≤ maxInteger then some n else none

/-- Reads an integer of 64 bits: an optional sign and digits. -/
def readInteger : List Char → Option Int
  | '+' :: rest => (readNat rest).bind fun n => keepInteger n
  | '-' :: rest => (readNat rest).bind fun n => keepInteger (-n)
  | cs => (readNat cs).bind fun n => keepInteger n

end Reshape.Decimal
