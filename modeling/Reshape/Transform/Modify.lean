import Reshape.Spec.Compile
import Reshape.Transform.Formula
import Reshape.Transform.Root
import Reshape.Transform.WriteMode

namespace Reshape.Transform.Modify

open Key Spec

/-- What a branch works on. -/
inductive Shape where
  /-- An object or an array; an object is created. -/
  | container
  /-- An array, because there are indices among the keys. -/
  | array
deriving DecidableEq, Repr

def Shape.accepts : Shape → Json → Bool
  | container, doc => doc.isContainer
  | array, doc => doc.isArray

def Shape.empty : Shape → Json
  | container => .obj []
  | array => .arr []

abbrev Node := Tree Shape Formula

/-- The element that a key is used as: an index is the literal of its digits. -/
def usedElement? : Element → Option Element
  | .step (.plain (.item index)) => some (.literal (Decimal.natText index))
  | .literal text => some (.literal text)
  | .star pattern => some (.star pattern)
  | _ => none

/-- Compiles a value: an object goes on, anything else is a formula. -/
def child (functions : Registry) (pointer : Pointer) (element : Element) (value : Json)
    (below : Except BuildError (Shape × Siblings Node)) :
    Except BuildError (Element × Node) :=
  match usedElement? element with
  | none => .error ⟨pointer, .modifyKey⟩
  | some used =>
    if value.isObject then below.map fun (info, children) => (used, .branch info children)
    else
      match Formula.read functions value with
      | .ok formula => .ok (used, .leaf formula)
      | .error fault => .error ⟨pointer, fault⟩

def isIndex (entry : Entry Shape Formula) : Bool :=
  match entry.written with
  | .step (.plain (.item _)) => true
  | _ => false

def isLiteral (entry : Entry Shape Formula) : Bool :=
  match entry.written with
  | .literal _ => true
  | _ => false

/-- The shape that the keys of a node declare. -/
def close (entries : List (Entry Shape Formula)) : Except BuildError Shape :=
  if entries.any isIndex then
    match entries.find? isLiteral with
    | some entry => .error ⟨entry.path, .keyAmongIndices⟩
    | none => .ok .array
  else .ok .container

/-- The form of modify specs with some functions. -/
def dialect (functions : Registry) : Dialect Unit Shape Formula where
  label := "modify"
  accept := acceptAny
  splitKey := wholeKey
  child := fun _ _ => child functions
  close := fun _ => close

/-- What a node makes of a container at one of its places, given the container as it
was before the stage if it was there; none if the key is not one of the node. -/
abbrev Action :=
  Element → Slot → Option Json → Walk → Json → Except RunError (Option Json)

/-- Tries children one after the other until one handles the place. -/
def offer (slot : Slot) (snapshot : Option Json) (w : Walk) (parent : Json) :
    List (Element × Action) → Except RunError (Option Json)
  | [] => .ok none
  | (element, act) :: rest => do
    match ← act element slot snapshot w parent with
    | some changed => .ok (some changed)
    | none => offer slot snapshot w parent rest

/-- Makes the visits of a node, in order. -/
def runVisits (snapshot : Option Json) (w : Walk) :
    List (Visit Action) → Json → Except RunError Json
  | [], node => .ok node
  | visit :: rest, node => do
    let changed ← offer visit.slot snapshot w node visit.candidates
    runVisits snapshot w rest (changed.getD node)

/-- The length that the array at the current level had before the stage. -/
def sizeBefore (w : Walk) : Option Nat :=
  (w.frame? 0).bind (·.size)

/-- The container with an empty one at a place that has nothing or null, if the mode
allows it. -/
def prepare (mode : WriteMode) (shape : Shape) (slot : Slot) (size : Option Nat)
    (parent : Json) : Json :=
  match slot.child? parent with
  | none | some .null => mode.write slot shape.empty size parent
  | _ => parent

def runBranch (mode : WriteMode) (shape : Shape) (children : Siblings Action) : Action :=
  fun element slot snapshot w parent => do
    match ← element.match? w slot.key with
    | none => .ok none
    | some matched =>
      let before := snapshot.bind slot.child?
      let parent := prepare mode shape slot (sizeBefore w) parent
      match slot.child? parent with
      | none => .ok (some parent)
      | some node =>
        if shape.accepts node then do
          let inner ← w.push before matched
          let node ← runVisits before inner (children.visits true node) node
          .ok (some (slot.replace node parent))
        else .ok (some parent)

/-- What a leaf makes of a container; `compute` is how it computes its value from the
current one. -/
def runLeafWith (mode : WriteMode)
    (compute : Walk → Option Json → Except RunError (Option Json)) : Action :=
  fun element slot snapshot w parent => do
    match ← element.match? w slot.key with
    | none => .ok none
    | some matched => do
      let inner ← w.push (snapshot.bind slot.child?) matched
      match ← compute inner (slot.child? parent) with
      | none => .ok (some parent)
      | some value => .ok (some (mode.write slot value (sizeBefore w) parent))

/-- What a leaf with a formula makes of a container. -/
def runLeaf (mode : WriteMode) (context : Json) (formula : Formula) : Action :=
  runLeafWith mode fun inner current => formula.evaluate inner context current

/-- What a compiled node makes of a container. -/
def run (mode : WriteMode) (context : Json) : Node → Action :=
  Tree.fold (runLeaf mode context) (runBranch mode)

end Reshape.Transform.Modify

namespace Reshape.Transform

open Spec

/-- A compiled modify spec. -/
structure Modify where
  maxDepth : Nat
  mode : WriteMode
  shape : Modify.Shape
  children : Siblings Modify.Node

namespace Modify

def compile (maxDepth : Nat) (functions : Registry) (mode : WriteMode) (spec : Json) :
    Except BuildError Modify :=
  ((dialect functions).compileRoot maxDepth () spec).map fun (shape, children) =>
    ⟨maxDepth, mode, shape, children⟩

def apply (t : Modify) (context input : Json) : Except RunError Json := do
  let snapshot := wrap input
  let w ← rootWalk t.maxDepth (some snapshot)
  let output ← run t.mode context (.branch t.shape t.children) (.literal rootKey)
    (.member rootKey) (some snapshot) w snapshot
  .ok (unwrap (output.getD snapshot))

end Modify

end Reshape.Transform
