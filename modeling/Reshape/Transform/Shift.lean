import Reshape.Spec.Compile
import Reshape.Transform.Root

/-! Shift: data is copied from where it is in the input to where the spec says in a
new document. The spec has the shape of the input, and its leaves are the paths that
are written. -/

namespace Reshape.Transform.Shift

open Key Spec

/-- A compiled leaf: the paths that its data is written to. -/
abbrev Node := Tree Unit (List Path)

/-- Reads a path of the output, which starts below the root. -/
def readPath (pointer : Pointer) (text : String) : Except BuildError Path :=
  match Path.parse text with
  | .ok steps => .ok (.plain (.key rootKey) :: steps)
  | .error e => .error ⟨pointer, .grammar e⟩

def readEntry (pointer : Pointer) : Json → Except BuildError Path
  | .str text => readPath pointer text
  | _ => .error ⟨pointer, .pathEntry⟩

/-- Whether an element names a text that has no data below it. -/
def isText : Element → Bool
  | .constant _ => true
  | .captured _ => true
  | _ => false

/-- Compiles a value: an object goes on, paths are written to, null ignores what it
matches. -/
def child (pointer : Pointer) (element : Element) (value : Json)
    (below : Except BuildError (Unit × Siblings Node)) :
    Except BuildError (Element × Node) :=
  match value with
  | .obj _ =>
    if isText element then .error ⟨pointer, .keyOverObject⟩
    else below.map fun (info, children) => (element, .branch info children)
  | .str text => (readPath pointer text).map fun path => (element, .leaf [path])
  | .arr entries =>
    (entries.mapM (readEntry pointer)).map fun paths => (element, .leaf paths)
  | .null => .ok (element, .leaf [])
  | _ => .error ⟨pointer, .shiftValue⟩

def dialect : Dialect Unit Unit (List Path) where
  label := "shift"
  accept := acceptAny
  splitKey := wholeKey
  child := fun _ _ => child
  close := closePlain

/-- What a node does with a key and the data under it: whether it was a match that
counts, and the output. -/
abbrev Action :=
  Element → String → Option Json → Walk → Json → Except RunError (Bool × Json)

/-- The walk after a child was tried. -/
def countIf (handled : Bool) (w : Walk) : Walk :=
  if handled then w.counted else w

/-- Tries children one after the other until one handles the key. -/
def offer (key : String) (data : Option Json) (w : Walk) :
    List (Element × Action) → Json → Except RunError (Bool × Json)
  | [], output => .ok (false, output)
  | (element, act) :: rest, output => do
    let (handled, output) ← act element key data w output
    if handled then .ok (true, output) else offer key data w rest output

/-- Applies all special children to the current node. -/
def runSpecial (key : String) (data : Option Json) :
    List (Element × Action) → Walk → Json → Except RunError (Walk × Json)
  | [], w, output => .ok (w, output)
  | (element, act) :: rest, w, output => do
    let (handled, output) ← act element key data w output
    runSpecial key data rest (countIf handled w) output

/-- Makes the visits of a node, in order. -/
def runVisits (node : Json) : List (Visit Action) → Walk → Json → Except RunError (Walk × Json)
  | [], w, output => .ok (w, output)
  | visit :: rest, w, output => do
    let (handled, output) ←
      offer visit.slot.key (visit.slot.child? node) w visit.candidates output
    runVisits node rest (countIf handled w) output

/-- The data that a branch goes on with: what a lookup finds takes the place of the
data at hand. The outer option is none if a lookup finds nothing. -/
def branchData (element : Element) (data : Option Json) (w : Walk) :
    Except RunError (Option (Option Json)) :=
  match element with
  | .lookup l => (l.object? w).map fun found => found.map some
  | _ => .ok (some data)

def runBranch (children : Siblings Action) : Action := fun element key data w output => do
  match ← element.match? w key with
  | none => .ok (false, output)
  | some matched =>
    match ← branchData element data w with
    | none => .ok (false, output)
    | some data => do
      let inner ← w.push data matched
      let (inner, output) ← runSpecial key data children.special inner output
      match data with
      | none => .ok (true, output)
      | some node => do
        let (_, output) ← runVisits node (children.visits false node) inner output
        .ok (true, output)

/-- What a leaf writes, and whether its match counts: constants and captured keys
write themselves, lookups what they find, and the current node and these do not
count. The outer option is none if a lookup finds nothing. -/
def leafData (element : Element) (matched : Match) (data : Option Json) (w : Walk) :
    Except RunError (Option (Option Json × Bool)) :=
  match element with
  | .constant _ => .ok (some (some (.str matched.key), false))
  | .captured _ => .ok (some (some (.str matched.key), false))
  | .here => .ok (some (data, false))
  | .lookup l => (l.object? w).map fun found => found.map fun doc => (some doc, false)
  | _ => .ok (some (data, true))

/-- Writes data to paths, in order. -/
def writeAll (w : Walk) (data : Json) : List Path → Json → Except RunError Json
  | [], output => .ok output
  | path :: rest, output => do
    let (_, output) ← path.write w data output
    writeAll w data rest output

/-- What a leaf does with a key that it matches; `write` is how it writes its data. -/
def runLeafWith (write : Walk → Json → Json → Except RunError Json) : Action :=
  fun element key data w output => do
    match ← element.match? w key with
    | none => .ok (false, output)
    | some matched =>
      match ← leafData element matched data w with
      | none => .ok (false, output)
      | some (written, counts) => do
        let inner ← w.push data matched
        match written with
        | none => .ok (counts, output)
        | some value => do
          let output ← write inner value output
          .ok (counts, output)

def runLeaf (paths : List Path) : Action :=
  runLeafWith fun inner value output => writeAll inner value paths output

def run : Node → Action :=
  Tree.fold runLeaf fun _ children => runBranch children

end Reshape.Transform.Shift

namespace Reshape.Transform

open Spec

structure Shift where
  maxDepth : Nat
  children : Siblings Shift.Node

namespace Shift

def compile (maxDepth : Nat) (spec : Json) : Except BuildError Shift :=
  (dialect.compileRoot maxDepth () spec).map fun (_, children) => ⟨maxDepth, children⟩

/-- How the keys at the top of the spec are matched. -/
def strategy (t : Shift) : Strategy := t.children.strategy

def apply (t : Shift) (input : Json) : Except RunError Json := do
  let w ← rootWalk t.maxDepth (some input)
  let (_, output) ← run (.branch () t.children) (.literal rootKey) rootKey (some input) w
    Json.emptyObject
  .ok (unwrap output)

end Shift

end Reshape.Transform
