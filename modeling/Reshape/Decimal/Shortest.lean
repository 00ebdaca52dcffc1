import Reshape.Decimal.Integer

namespace Reshape.Decimal

/-- A finite binary64 number as `(-1) ^ negative * mantissa * 2 ^ exponent`. -/
structure Parts where
  negative : Bool
  mantissa : Nat
  exponent : Int
deriving DecidableEq, Repr

def partsOfBits (bits : Nat) : Parts :=
  let fraction := bits % 4503599627370496
  let scale := (bits / 4503599627370496) % 2048
  let negative := 9223372036854775808 ≤ bits
  if scale = 0 then ⟨negative, fraction, -1074⟩
  else ⟨negative, fraction + 4503599627370496, (scale : Int) - 1075⟩

def parts (x : Float) : Parts :=
  partsOfBits x.toBits.toNat

/-- The decimal exponent of the leading digit of `mantissa * 2 ^ exponent`, for
`0 < mantissa` and exponents from -1074 on. -/
def leadingExponent (p : Parts) : Int :=
  if 0 ≤ p.exponent then
    ((natChars (p.mantissa * Nat.pow 2 p.exponent.toNat)).length : Int) - 1
  else
    ((natChars (p.mantissa * Nat.pow 10 400 / Nat.pow 2 (-p.exponent).toNat)).length : Int) - 401

/-- The real numbers that round to `4 * mantissa` quarters of a unit, in quarters:
half a unit to each side, less below a power of two, where the numbers are denser. -/
def roundingBounds (p : Parts) : Nat × Nat :=
  let below := if p.mantissa = 4503599627370496 ∧ -1074 < p.exponent then 1 else 2
  (4 * p.mantissa - below, 4 * p.mantissa + 2)

/-- The multiple of `10 ^ k` nearest to the number among its two neighbours on that
grid, if one of them rounds to the number; an exact tie goes to the even one. -/
def onGrid (p : Parts) (k : Int) : Option Nat :=
  let quarter := p.exponent - 2
  let grid := Nat.pow 10 k.toNat * Nat.pow 2 (-quarter).toNat
  let unit := Nat.pow 10 (-k).toNat * Nat.pow 2 quarter.toNat
  let (low, high) := roundingBounds p
  let target := 4 * p.mantissa * unit
  let inside (n : Nat) : Bool :=
    if p.mantissa % 2 = 0 then low * unit ≤ n * grid && n * grid ≤ high * unit
    else low * unit < n * grid && n * grid < high * unit
  let down := target / grid
  let up := down + 1
  match inside down, inside up with
  | false, false => none
  | true, false => some down
  | false, true => some up
  | true, true =>
    let toDown := target - down * grid
    let toUp := up * grid - target
    if toDown < toUp then some down
    else if toUp < toDown then some up
    else if down % 2 = 0 then some down else some up

/-- Tries grids of one digit, two digits and so on; `fuel` more digits are allowed. -/
def firstGrid (p : Parts) (leading : Int) : Nat → Nat → Nat × Int
  | 0, count => ((onGrid p (leading - count + 1)).getD 0, leading - count + 1)
  | fuel + 1, count =>
    match onGrid p (leading - count + 1) with
    | some n => (n, leading - count + 1)
    | none => firstGrid p leading fuel (count + 1)

/-- Drops trailing zeros from the digits of a number in reverse order. -/
def dropZeros : List Char → List Char
  | '0' :: rest => dropZeros rest
  | cs => cs

/-- The fewest digits that read back as the number, without trailing zeros, and
the decimal exponent of the first of them. Zero has the one digit 0. -/
def shortest (p : Parts) : List Char × Int :=
  if p.mantissa = 0 then (['0'], 0)
  else
    let (n, k) := firstGrid p (leadingExponent p) 16 1
    let digits := natChars n
    ((dropZeros digits.reverse).reverse, k + (digits.length : Int) - 1)

/-- The binary64 number nearest to `digits * 10 ^ exponent`, ties to even. Decimals
far outside the range are decided by their size alone. -/
def toFloat (negative : Bool) (digits : Nat) (exponent : Int) : Float :=
  let size : Int := (natChars digits).length + exponent
  let magnitude : Float :=
    if digits = 0 ∨ size < -400 then 0.0
    else if 400 < size then 1.0 / 0.0
    else Float.ofScientific digits (exponent < 0) exponent.natAbs
  if negative then -magnitude else magnitude

/-- The binary64 number nearest to an integer. -/
def floatOfInt (n : Int) : Float :=
  toFloat (n < 0) n.natAbs 0

end Reshape.Decimal
