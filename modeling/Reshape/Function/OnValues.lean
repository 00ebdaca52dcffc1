import Reshape.Function.Basic
import Reshape.Json.Writer

namespace Reshape.Function

def toText : Function :=
  ofFirst fun value =>
    match value with
    | .str s => some (.str s)
    | other => some (.str other.compact)

def isText : Json → Bool
  | .str _ => true
  | _ => false

def isNumber : Json → Bool
  | .num _ => true
  | _ => false

def isBoolean : Json → Bool
  | .bool _ => true
  | _ => false

def valueFunctions : List (String × Function) :=
  [("toString", toText),
    ("isPresent", passIf fun _ => true),
    ("notNull", passIf fun value => !value.isNull),
    ("isNull", passIf Json.isNull),
    ("isString", passIf isText),
    ("isNumber", passIf isNumber),
    ("isBoolean", passIf isBoolean),
    ("isList", passIf Json.isArray),
    ("isMap", passIf Json.isObject),
    ("noop", fun _ => none)]

end Reshape.Function
