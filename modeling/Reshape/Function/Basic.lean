import Reshape.Decimal.FloatText
import Reshape.Json
import Reshape.Text.Blank

namespace Reshape

abbrev Function := List Json → Option Json

namespace Function

/-- One array in the place of all arguments stands for its items. -/
def spread : List Json → List Json
  | [.arr items] => items
  | args => args

/-- The number that a number or its text is, as a float. -/
def float? : Json → Option Float
  | .num n => some n.toFloat
  | .str s => Decimal.readFloat (Text.trimChars s.toList)
  | _ => none

/-- The integer that a text is; a float is cut off at its point. -/
def integerOfText? (cs : List Char) : Option Int :=
  (Decimal.readInteger cs).or ((Decimal.readFloat cs).map Number.truncate)

/-- The integer of 64 bits that a number or its text is; a float is cut off at its
point. -/
def integer? : Json → Option Int
  | .num n => some n.toInteger
  | .str s => integerOfText? (Text.trimChars s.toList)
  | _ => none

/-- A position: an integer that is not negative. -/
def position? (value : Json) : Option Nat :=
  (integer? value).bind fun n => if n < 0 then none else some n.toNat

def ofFloat? (x : Float) : Option Json :=
  (Number.ofFloat? x).map .num

/-- A function of one argument; more are ignored. -/
def ofFirst (f : Json → Option Json) : Function
  | [] => none
  | value :: _ => f value

/-- A function of a text; more arguments are ignored. -/
def ofText (f : String → Json) : Function :=
  ofFirst fun value =>
    match value with
    | .str s => some (f s)
    | _ => none

/-- A function that passes on what satisfies a test. -/
def passIf (test : Json → Bool) : Function :=
  ofFirst fun value => if test value then some value else none

end Function

end Reshape
