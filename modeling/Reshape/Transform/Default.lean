import Reshape.Evaluation
import Reshape.Json.Entries
import Reshape.Spec.Compile
import Reshape.Transform.Root
import Reshape.Transform.WriteMode

/-! Default: values that are absent or null are filled in. Literal keys are created
where they are missing, wildcards apply to the keys that are there. A key that ends
in `[]` holds an array. -/

namespace Reshape.Transform.Default

open Key Spec

/-- The container that a node works on. -/
inductive Container where
  | object
  | array
deriving DecidableEq, Repr

def Container.accepts : Container → Json → Bool
  | object, doc => doc.isObject
  | array, doc => doc.isArray

def Container.empty : Container → Json
  | object => .obj []
  | array => .arr []

/-- A compiled node: leaves hold the value that is filled in. -/
abbrev Node := Tree Container Json

/-- Cuts off brackets at the end of a key, which declare an array. After a backslash
they are a part of the key. -/
def splitChars (key : List Char) : List Char × Container :=
  match key.reverse with
  | ']' :: '[' :: '\\' :: _ => (key, .object)
  | ']' :: '[' :: rest => (rest.reverse, .array)
  | _ => (key, .object)

/-- Cuts off brackets at the end of a key, which declare an array. -/
def splitKey (key : String) : String × Container :=
  let (chars, container) := splitChars key.toList
  (String.ofList chars, container)

/-- Refuses the elements that can not be keys inside a container. -/
def checkElement (outer : Container) : Element → Except SpecFault Unit
  | .literal text =>
    if outer = .array && (Decimal.readIndex text).isNone then .error (.arrayKey text) else .ok ()
  | .star _ => .ok ()
  | _ => .error .defaultKey

/-- Compiles a value: an object goes on, anything else is filled in. -/
def child (outer inner : Container) (pointer : Pointer) (element : Element) (value : Json)
    (below : Except BuildError (Container × Siblings Node)) :
    Except BuildError (Element × Node) :=
  match checkElement outer element with
  | .error fault => .error ⟨pointer, fault⟩
  | .ok () =>
    match value with
    | .obj _ => below.map fun (info, children) => (element, .branch info children)
    | filled =>
      if inner = .array then .error ⟨pointer, .arrayValue⟩ else .ok (element, .leaf filled)

def dialect : Dialect Container Container Json where
  label := "default"
  accept := acceptAny
  splitKey := splitKey
  child := child
  close := fun outer _ => .ok outer

/-- What a node makes of a value whose key it matches; null stands for no value. -/
abbrev Action := Match → Walk → Json → Except RunError Json

/-- What wildcards make of the value under a key, one after the other. -/
def fillEntry (w : Walk) (key : String) : List (Element × Action) → Json → Except RunError Json
  | [], value => .ok value
  | (element, act) :: rest, value => do
    match ← element.match? w key with
    | none => fillEntry w key rest value
    | some matched => do
      let filled ← act matched w value
      fillEntry w key rest filled

/-- Fills in the place of a literal key. An array grows with nulls up to it; a place
that an array can not have is left alone. -/
def fillPlace (w : Walk) (text : String) (act : Action) (node : Json) : Except RunError Json :=
  let slot := Slot.member text
  match slot.child? node with
  | none | some .null => do
    let filled ← act (.ofKey text) w .null
    .ok (WriteMode.fill.write slot filled none node)
  | some value => do
    let filled ← act (.ofKey text) w value
    .ok (slot.replace filled node)

/-- Fills in the places of literal keys, in order. -/
def fillPlaces (w : Walk) : List (String × Action) → Json → Except RunError Json
  | [], node => .ok node
  | (text, act) :: rest, node => do
    let filled ← fillPlace w text act node
    fillPlaces w rest filled

/-- What the children of a node make of its value: the literals first, which may
create keys, and then the wildcards at every key that is there by then. -/
def fillChildren (children : Siblings Action) (w : Walk) (node : Json) :
    Except RunError Json := do
  let filled ← fillPlaces w children.literals node
  filled.mapEntries fun key => fillEntry w key children.computed

/-- What a branch makes of a value: an empty container takes the place of null, and
anything that is not the container of the branch is left alone. -/
def runBranch (container : Container) (children : Siblings Action) : Action :=
  fun matched w value =>
    let node := if value.isNull then container.empty else value
    if container.accepts node then do
      let inner ← w.push none matched
      fillChildren children inner node
    else .ok value

/-- What a leaf makes of a value: its own takes the place of null. -/
def runLeaf (own : Json) : Action := fun _ _ value =>
  .ok (if value.isNull then own else value)

/-- What a compiled node makes of a value. -/
def run : Node → Action :=
  Tree.fold runLeaf runBranch

end Reshape.Transform.Default

namespace Reshape.Transform

open Spec

/-- A compiled default spec: for an object, and for an array if all keys at the top
are indices or wildcards. -/
structure Default where
  maxDepth : Nat
  forObject : Siblings Default.Node
  forArray : Option (Siblings Default.Node)

namespace Default

def compile (maxDepth : Nat) (spec : Json) : Except BuildError Default := do
  let (_, forObject) ← dialect.compileRoot maxDepth .object spec
  let forArray := match dialect.compileRoot maxDepth .array spec with
    | .ok (_, children) => some children
    | .error _ => none
  .ok ⟨maxDepth, forObject, forArray⟩

/-- The tree for a document; null is taken as an object. -/
def root (t : Default) : Json → Except RunError Node
  | .obj _ | .null => .ok (.branch .object t.forObject)
  | .arr _ =>
    match t.forArray with
    | some children => .ok (.branch .array children)
    | none => .error .arrayRoot
  | other => .error (.scalarRoot other.kind)

def apply (t : Default) (input : Json) : Except RunError Json := do
  let node ← t.root input
  let w ← rootWalk t.maxDepth none
  run node (.ofKey rootKey) w input

end Default

end Reshape.Transform
