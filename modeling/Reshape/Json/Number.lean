import Reshape.Decimal.Shortest

/-! The numbers of a document. An integer and a float are different values even
where they are equal as quantities: `1` is written `1` and `1.0` is written `1.0`. -/

namespace Reshape

/-- A number of a document: an integer written without fraction and exponent that
fits in 64 bits with or without a sign, or a finite binary64 number. -/
inductive Number where
  | int (value : Int)
  | float (value : Float)
deriving DecidableEq

namespace Number

/-- The exponents of the leading digit for which a float is written without one. -/
def isPositional (leading : Int) : Bool :=
  -5 ≤ leading && leading < 16

/-- Digits with a decimal point; there is always a digit after the point. -/
def positional (digits : List Char) (leading : Int) : List Char :=
  if leading < 0 then
    '0' :: '.' :: (List.replicate (-leading - 1).toNat '0' ++ digits)
  else
    let whole := leading.toNat + 1
    let fraction := digits.drop whole
    digits.take whole ++ List.replicate (whole - digits.length) '0' ++
      '.' :: (if fraction.isEmpty then ['0'] else fraction)

/-- Digits with an exponent, which always has a sign and no leading zero. -/
def scientific (digits : List Char) (leading : Int) : List Char :=
  let fraction := digits.drop 1
  digits.take 1 ++ (if fraction.isEmpty then [] else '.' :: fraction) ++
    'e' :: (if leading < 0 then '-' else '+') :: Decimal.natChars leading.natAbs

/-- The text of a float: the fewest digits that read back, positional from `1e-5`
up to but not including `1e16`. -/
def floatText (x : Float) : String :=
  let p := Decimal.parts x
  let (digits, leading) := Decimal.shortest p
  let body := if isPositional leading then positional digits leading
    else scientific digits leading
  String.ofList (if p.negative then '-' :: body else body)

def text : Number → String
  | int n => Decimal.intText n
  | float x => floatText x

/-- Equality of values: an integer never equals a float, and the two zeros agree. -/
def same : Number → Number → Bool
  | int m, int n => m == n
  | float x, float y => x == y
  | _, _ => false

/-- The number as a binary64 number; integers go to the nearest one. -/
def toFloat : Number → Float
  | int n => Decimal.floatOfInt n
  | float x => x

/-- Cuts off the fraction of a float and takes it to the nearest integer of 64 bits
with a sign; a float that is no number gives zero. -/
def truncate (x : Float) : Int :=
  if x < 0.0 then max Decimal.minInteger (-((-x).toUInt64.toNat : Int))
  else min Decimal.maxInteger x.toUInt64.toNat

/-- The integer view of a number: integers of 64 bits with a sign are themselves,
everything else is truncated as a float. -/
def toInteger (n : Number) : Int :=
  match n with
  | int i => (Decimal.keepInteger i).getD (truncate n.toFloat)
  | float x => truncate x

/-- A float as a number of a document; infinities and not-a-number have none. -/
def ofFloat? (x : Float) : Option Number :=
  if x.isFinite then some (float x) else none

/-- The text of a number that is used as a key: a whole float below `1e15` is
written as an integer. -/
def keyText : Number → String
  | int n => Decimal.intText n
  | float x =>
    let whole := truncate x
    if x.abs < 1e15 && Decimal.floatOfInt whole == x then Decimal.intText whole
    else floatText x

end Number

end Reshape
