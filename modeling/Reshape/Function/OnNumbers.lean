import Reshape.Function.Basic

namespace Reshape.Function

/-- The better one of the best number so far and a value. -/
def better (wins : Float → Float → Bool) (best : Option Number) (value : Json) : Option Number :=
  match value, best with
  | .num n, none => some n
  | .num n, some b => if wins n.toFloat b.toFloat then some n else some b
  | _, best => best

/-- The number among the arguments that wins over all others, the first one of equals. -/
def extreme (wins : Float → Float → Bool) : Function := fun args =>
  ((spread args).foldl (better wins) none).map .num

def absolute : Function :=
  ofFirst fun value =>
    match value with
    | .num (.int n) =>
      match Decimal.keepInteger n with
      | some n => (Decimal.keepInteger n.natAbs).map .ofInt
      | none => ofFloat? (Decimal.floatOfInt n).abs
    | .num (.float x) => ofFloat? x.abs
    | _ => none

/-- The sum of floats, from the left. A sum of none is the negative zero. -/
def floatSum (xs : List Float) : Float :=
  xs.foldl (· + ·) (-0.0)

def average : Function := fun args =>
  match (spread args).filterMap float? with
  | [] => none
  | xs => ofFloat? (floatSum xs / Float.ofNat xs.length)

/-- Adds integers from the left as long as the sums fit in 64 bits. -/
def addIntegers (sum : Int) : List Int → Option Int
  | [] => some sum
  | n :: rest => (Decimal.keepInteger (sum + n)).bind fun sum => addIntegers sum rest

def integerSum : Function := fun args =>
  (addIntegers 0 ((spread args).filterMap integer?)).map .ofInt

def sum : Function := fun args =>
  ofFloat? (floatSum ((spread args).filterMap float?))

/-- The quotient of two numbers, if the second one is not zero. -/
def quotient? (numerator denominator : Json) : Option Float := do
  let d ← float? denominator
  if d == 0.0 then none
  else do
    let n ← float? numerator
    some (n / d)

def divide : Function := fun args =>
  match spread args with
  | [numerator, denominator] => (quotient? numerator denominator).bind ofFloat?
  | _ => none

/-- The product of `result` and the powers of ten that the bits of `n` name; `power`
is the one of the lowest bit. -/
def tenPowerFrom (power result : Float) : Nat → Nat → Float
  | 0, _ => result
  | fuel + 1, n =>
    let result := if n % 2 = 1 then result * power else result
    if n / 2 = 0 then result else tenPowerFrom (power * power) result fuel (n / 2)

/-- A power of ten by repeated squaring; for negative exponents the reciprocal. -/
def tenPower (exponent : Int) : Float :=
  let power := tenPowerFrom 10.0 1.0 32 exponent.natAbs
  if exponent < 0 then 1.0 / power else power

/-- The quotient of the second and third argument rounded to some decimal places; a
half goes away from zero. -/
def divideAndRound : Function
  | [digits, numerator, denominator] => do
    let digits ← integer? digits
    if -2147483648 ≤ digits ∧ digits ≤ 2147483647 then do
      let scale := tenPower digits
      let q ← quotient? numerator denominator
      ofFloat? ((q * scale).round / scale)
    else none
  | _ => none

/-- A truth value, or the word for one. -/
def toBoolean : Function :=
  ofFirst fun value =>
    match value with
    | .bool b => some (.bool b)
    | .str s =>
      let word := String.ofList ((Text.trimChars s.toList).map Decimal.lowerLetter)
      if word = "true" then some (.bool true)
      else if word = "false" then some (.bool false)
      else none
    | _ => none

def numberFunctions : List (String × Function) :=
  [("min", extreme fun candidate best => candidate < best),
    ("max", extreme fun candidate best => best < candidate),
    ("abs", absolute),
    ("avg", average),
    ("intSum", integerSum),
    ("longSum", integerSum),
    ("doubleSum", sum),
    ("divide", divide),
    ("divideAndRound", divideAndRound),
    ("toInteger", ofFirst fun value => (integer? value).map .ofInt),
    ("toLong", ofFirst fun value => (integer? value).map .ofInt),
    ("toDouble", ofFirst fun value => (float? value).bind ofFloat?),
    ("toBoolean", toBoolean)]

end Reshape.Function
