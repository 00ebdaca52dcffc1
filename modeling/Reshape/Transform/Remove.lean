import Reshape.Evaluation
import Reshape.Json.Entries
import Reshape.Spec.Compile
import Reshape.Text.Blank
import Reshape.Transform.Root

/-! Remove: the values under matching keys are removed. All children of a node are
applied to all keys, so wildcards and literals add up. -/

namespace Reshape.Transform.Remove

open Key Spec

/-- A compiled node: what a leaf matches is removed. -/
abbrev Node := Tree Unit Unit

def isBlankText (text : String) : Bool :=
  text.toList.all Text.isBlank

/-- Compiles a value: an object goes on, an empty text removes. -/
def child (pointer : Pointer) (element : Element) (value : Json)
    (below : Except BuildError (Unit × Siblings Node)) :
    Except BuildError (Element × Node) :=
  if element.isStatic then
    match value with
    | .obj _ => below.map fun (info, children) => (element, .branch info children)
    | .str text =>
      if isBlankText text then .ok (element, .leaf ()) else .error ⟨pointer, .removeValue⟩
    | _ => .error ⟨pointer, .removeValue⟩
  else .error ⟨pointer, .removeKey⟩

def dialect : Dialect Unit Unit Unit where
  label := "remove"
  accept := acceptAny
  splitKey := wholeKey
  child := fun _ _ => child
  close := closePlain

/-- What a node leaves of a value whose key it matches; none if nothing. -/
abbrev Action := Match → Walk → Json → Except RunError (Option Json)

/-- What children leave of the value under a key, one after the other. -/
def leave? (w : Walk) (key : String) : List (Element × Action) → Json →
    Except RunError (Option Json)
  | [], value => .ok (some value)
  | (element, act) :: rest, value => do
    match ← element.match? w key with
    | none => leave? w key rest value
    | some matched =>
      match ← act matched w value with
      | none => .ok none
      | some left => leave? w key rest left

/-- What the children of a node leave of its value. -/
def sweep (children : Siblings Action) (w : Walk) (value : Json) : Except RunError Json :=
  value.filterMapEntries fun key => leave? w key children.all

/-- What a branch leaves: a value that it goes on into. -/
def runBranch (_ : Unit) (children : Siblings Action) : Action := fun matched w value => do
  let inner ← w.push none matched
  (sweep children inner value).map some

def runLeaf (_ : Unit) : Action := fun _ _ _ => .ok none

/-- What compiled children leave of the value of their node. -/
def runChildren (children : Siblings Node) : Walk → Json → Except RunError Json :=
  sweep (Tree.foldSiblings runLeaf runBranch children)

end Reshape.Transform.Remove

namespace Reshape.Transform

open Spec

/-- A compiled remove spec. -/
structure Remove where
  maxDepth : Nat
  children : Siblings Remove.Node

namespace Remove

def compile (maxDepth : Nat) (spec : Json) : Except BuildError Remove :=
  (dialect.compileRoot maxDepth () spec).map fun (_, children) => ⟨maxDepth, children⟩

def apply (t : Remove) (input : Json) : Except RunError Json := do
  let w ← rootWalk t.maxDepth none
  runChildren t.children w input

end Remove

end Reshape.Transform
