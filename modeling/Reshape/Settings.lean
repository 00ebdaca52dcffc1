import Reshape.Error

namespace Reshape

/-- Finds a name among some variants. -/
def variant? {α : Type} (variants : List (String × α)) (name : String) :
    Except DecodeError α :=
  match variants.lookup name with
  | some value => .ok value
  | none => .error (.unknownVariant name (variants.map (·.1)))

def decodeVariant {α : Type} (variants : List (String × α)) : Json → Except DecodeError α
  | .str name => variant? variants name
  | .obj [(name, value)] => do
    let found ← variant? variants name
    if value.isNull then .ok found else .error (.invalidType (.ofJson value) "unit")
  | .obj _ => .error (.invalidValue .map "map with a single key")
  | other => .error (.invalidType (.ofJson other) "string or map")

def ErrorCode.decode : Json → Except DecodeError ErrorCode :=
  decodeVariant (ErrorCode.all.map fun code => (code.text, code))

/-- The kind of a stage. -/
inductive Operation where
  | shift
  | default
  | remove
  | cardinality
  | filter
  | sort
  | modifyOverwrite
  | modifyDefault
  | modifyDefine
deriving DecidableEq, Repr

namespace Operation

def name : Operation → String
  | shift => "shift"
  | default => "default"
  | remove => "remove"
  | cardinality => "cardinality"
  | filter => "filtr"
  | sort => "sort"
  | modifyOverwrite => "modify-overwrite-beta"
  | modifyDefault => "modify-default-beta"
  | modifyDefine => "modify-define-beta"

/-- The names that are read; the kinds of modify have two each. -/
def variants : List (String × Operation) :=
  [("shift", shift), ("default", default), ("remove", remove), ("cardinality", cardinality),
    ("filtr", filter), ("sort", sort), ("modify-overwrite", modifyOverwrite),
    ("modify-overwrite-beta", modifyOverwrite), ("modify-default", modifyDefault),
    ("modify-default-beta", modifyDefault), ("modify-define", modifyDefine),
    ("modify-define-beta", modifyDefine)]

/-- Reads the name of a kind of stage. -/
def decode : Json → Except DecodeError Operation :=
  decodeVariant variants

end Operation

/-- The options of a chain: how deep specs may nest. -/
structure Options where
  maxDepth : Nat
deriving DecidableEq, Repr

namespace Options

/-- The options of a chain for which none are given. -/
def initial : Options := ⟨64⟩

/-- Reads a number of 64 bits without a sign. -/
def decodeCount : Json → Except DecodeError Nat
  | .num (.int n) =>
    if n < 0 then .error (.invalidValue (.number (.int n)) "usize") else .ok n.toNat
  | other => .error (.invalidType (.ofJson other) "usize")

/-- Reads options: an object, of which other members are ignored, or an array. -/
def decode : Json → Except DecodeError Options
  | .obj members =>
    match Members.get? "max-depth" members with
    | some value => (decodeCount value).map Options.mk
    | none => .ok initial
  | .arr [] => .ok initial
  | .arr (value :: rest) => do
    let count ← decodeCount value
    if rest.isEmpty then .ok ⟨count⟩
    else .error (.invalidLength (rest.length + 1) "fewer elements in array")
  | other => .error (.invalidType (.ofJson other) "struct TransformOptions")

def encode (o : Options) : Json :=
  .obj [("max-depth", .ofNat o.maxDepth)]

end Options

end Reshape
