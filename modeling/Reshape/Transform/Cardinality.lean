import Reshape.Text.Blank
import Reshape.Spec.Compile
import Reshape.Transform.Root

namespace Reshape.Transform.Cardinality

open Key Spec

/-- What a value becomes. -/
inductive Relation where
  | one
  | many
deriving DecidableEq, Repr

namespace Relation

/-- An ASCII letter in upper case; any other character stays. -/
def upperLetter (c : Char) : Char :=
  if 'a' ≤ c && c ≤ 'z' then Char.ofNat (c.toNat - 32) else c

/-- Reads `ONE` or `MANY`, in any case and with blanks around it. -/
def read? (text : String) : Option Relation :=
  let letters := String.ofList ((Text.trimChars text.toList).map upperLetter)
  if letters = "ONE" then some one
  else if letters = "MANY" then some many
  else none

/-- What a value becomes. The first item of an empty list is null, and null becomes
an empty list. -/
def apply : Relation → Json → Json
  | one, .arr items => items.head?.getD .null
  | one, value => value
  | many, .arr items => .arr items
  | many, .null => .arr []
  | many, value => .arr [value]

end Relation

abbrev Node := Tree Unit Relation

def isKey : Element → Bool
  | .literal _ => true
  | .star _ => true
  | .template _ => true
  | .here => true
  | _ => false

/-- Compiles a value: an object goes on, a text names the relation. -/
def child (pointer : Pointer) (element : Element) (value : Json)
    (below : Except BuildError (Unit × Siblings Node)) :
    Except BuildError (Element × Node) :=
  if isKey element then
    match value with
    | .obj _ =>
      if element = .here then .error ⟨pointer, .hereOverObject⟩
      else below.map fun (info, children) => (element, .branch info children)
    | .str text =>
      match Relation.read? text with
      | some relation => .ok (element, .leaf relation)
      | none => .error ⟨pointer, .cardinalityText text⟩
    | _ => .error ⟨pointer, .cardinalityValue⟩
  else .error ⟨pointer, .cardinalityKey⟩

def dialect : Dialect Unit Unit Relation where
  label := "cardinality"
  accept := acceptAny
  splitKey := wholeKey
  child := fun _ _ => child
  close := closePlain

/-- What a node makes of the value under a key; none if the key is not one of it. -/
abbrev Action := Element → String → Json → Walk → Except RunError (Option Json)

/-- Tries children one after the other until one handles the value. -/
def offer (key : String) (value : Json) (w : Walk) :
    List (Element × Action) → Except RunError (Option Json)
  | [] => .ok none
  | (element, act) :: rest => do
    match ← act element key value w with
    | some changed => .ok (some changed)
    | none => offer key value w rest

/-- Makes the visits of a node, in order. -/
def runVisits (w : Walk) : List (Visit Action) → Json → Except RunError Json
  | [], node => .ok node
  | visit :: rest, node => do
    match visit.slot.child? node with
    | none => runVisits w rest node
    | some value =>
      match ← offer visit.slot.key value w visit.candidates with
      | some changed => runVisits w rest (visit.slot.replace changed node)
      | none => runVisits w rest node

/-- Applies the special children to the node itself. -/
def runSpecial (key : String) (w : Walk) : List (Element × Action) → Json → Except RunError Json
  | [], node => .ok node
  | (element, act) :: rest, node => do
    let changed ← act element key node w
    runSpecial key w rest (changed.getD node)

/-- What a branch makes of a value: first what its special children make of the
value itself, then what the others make of the values in it. -/
def runBranch (children : Siblings Action) : Action := fun element key value w => do
  match ← element.match? w key with
  | none => .ok none
  | some matched => do
    let inner ← w.push none matched
    let node ← runSpecial key inner children.special value
    if node.isContainer then
      (runVisits inner (children.visits false node) node).map some
    else .ok (some node)

def runLeaf (relation : Relation) : Action := fun element key value w => do
  match ← element.match? w key with
  | none => .ok none
  | some _ => .ok (some (relation.apply value))

/-- What a compiled node makes of a value. -/
def run : Node → Action :=
  Tree.fold runLeaf fun _ children => runBranch children

end Reshape.Transform.Cardinality

namespace Reshape.Transform

open Spec

/-- A compiled cardinality spec. -/
structure Cardinality where
  maxDepth : Nat
  children : Siblings Cardinality.Node

namespace Cardinality

def compile (maxDepth : Nat) (spec : Json) : Except BuildError Cardinality :=
  (dialect.compileRoot maxDepth () spec).map fun (_, children) => ⟨maxDepth, children⟩

def apply (t : Cardinality) (input : Json) : Except RunError Json := do
  let w ← rootWalk t.maxDepth none
  let output ← run (.branch () t.children) (.literal rootKey) rootKey input w
  .ok (output.getD input)

end Cardinality

end Reshape.Transform
