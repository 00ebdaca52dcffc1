import Reshape.Decimal.Shortest

namespace Reshape.Decimal

def takeDigits (cs : List Char) : List Char × List Char :=
  (cs.takeWhile isDigit, cs.dropWhile isDigit)

/-- The exponent of a decimal: nothing, or a mark, a sign and digits. -/
def readTenPower : List Char → Option Int
  | [] => some 0
  | mark :: rest =>
    if mark = 'e' ∨ mark = 'E' then
      match rest with
      | '-' :: digits => (readNat digits).map fun n => -(n : Int)
      | '+' :: digits => (readNat digits).map Int.ofNat
      | digits => (readNat digits).map Int.ofNat
    else none

/-- Reads a decimal without a sign. There is a digit before or after the point. -/
def readDecimal (negative : Bool) (cs : List Char) : Option Float :=
  let (whole, rest) := takeDigits cs
  let (fraction, rest) := match rest with
    | '.' :: after => takeDigits after
    | _ => ([], rest)
  if whole.isEmpty && fraction.isEmpty then none
  else
    (readTenPower rest).map fun power =>
      toFloat negative ((readNat (whole ++ fraction)).getD 0) (power - fraction.length)

def lowerLetter (c : Char) : Char :=
  if 'A' ≤ c && c ≤ 'Z' then Char.ofNat (c.toNat + 32) else c

def readMagnitude (negative : Bool) (cs : List Char) : Option Float :=
  let word := String.ofList (cs.map lowerLetter)
  if word = "inf" ∨ word = "infinity" then
    some (if negative then -(1.0 / 0.0) else 1.0 / 0.0)
  else if word = "nan" then some (0.0 / 0.0)
  else readDecimal negative cs

def readFloat : List Char → Option Float
  | '-' :: rest => readMagnitude true rest
  | '+' :: rest => readMagnitude false rest
  | cs => readMagnitude false cs

end Reshape.Decimal
