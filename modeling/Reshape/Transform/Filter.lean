import Reshape.Regex.Expression
import Reshape.Spec.Compile
import Reshape.Transform.Root

/-! Filter: of the values of a container those stay that satisfy one of some
predicates. The spec leads to the container, and the node for its values is an object
of fields and what they must match: a text is a regular expression for the whole
value, an array matches what one of its members matches, and anything else must be
equal. The values that go are dropped only after all places were visited, so that
places keep their indices until then. -/

namespace Reshape.Transform.Filter

open Key Spec

/-- What the value of a field must match. -/
inductive Matcher where
  | regex (pattern : Regex.Pattern)
  | equal (value : Json)
  | anyOf (members : List Matcher)

/-- The expression that matches a text as a whole. -/
def anchored (source : String) : String :=
  "^(?:" ++ source ++ ")$"

namespace Matcher

/-- Compiles a regular expression for whole texts. -/
def ofPattern (path : Pointer) (source : String) : Except BuildError Matcher :=
  match Regex.parse (anchored source) with
  | .ok pattern => .ok (.regex pattern)
  | .error e => .error ⟨path, .pattern source e⟩

mutual

/-- Compiles what a field must match. -/
def compile (path : Pointer) : Json → Except BuildError Matcher
  | .str source => ofPattern path source
  | .arr members => (compileAll path members).map .anyOf
  | value => .ok (.equal value)

def compileAll (path : Pointer) : List Json → Except BuildError (List Matcher)
  | [] => .ok []
  | member :: rest => do
    let first ← compile path member
    let more ← compileAll path rest
    .ok (first :: more)

end

/-- The text that a regular expression is tried on: texts, numbers and truth values
have one. -/
def subject? (value : Json) : Option String :=
  value.keyText?

mutual

def accepts : Matcher → Json → Bool
  | .regex pattern, value =>
    match subject? value with
    | some text => pattern.isMatch text
    | none => false
  | .equal expected, value => expected.same value
  | .anyOf members, value => anyAccepts members value

/-- Whether a value matches one of some members. -/
def anyAccepts : List Matcher → Json → Bool
  | [], _ => false
  | m :: rest, value => accepts m value || anyAccepts rest value

end

end Matcher

/-- A field and what its value must match. -/
structure Predicate where
  field : Path
  matcher : Matcher

def compilePredicates (path : Pointer) : Members → Except BuildError (List Predicate)
  | [] => .ok []
  | (field, value) :: rest => do
    let here := Pointer.child path field
    match Path.parse field with
    | .error e => .error ⟨here, .grammar e⟩
    | .ok steps => do
      let matcher ← Matcher.compile here value
      let more ← compilePredicates path rest
      .ok (⟨steps, matcher⟩ :: more)

/-- Whether one of the predicates finds its field and is satisfied. -/
def satisfies (w : Walk) (value : Json) : List Predicate → Except RunError Bool
  | [] => .ok false
  | p :: rest => do
    let found ← p.field.read w value
    if found.any p.matcher.accepts then .ok true else satisfies w value rest

/-- A compiled node: leaves hold predicates. -/
abbrev Node := Tree Unit (List Predicate)

/-- Whether a document is a set of predicates: an object with members none of which
is an object. -/
def isPredicates : Json → Bool
  | .obj members => !members.isEmpty && members.all fun m => !m.2.isObject
  | _ => false

/-- Refuses values that are no objects, and objects with some members that are. -/
def accept (value : Json) : Except SpecFault Unit :=
  match value with
  | .obj members =>
    if !isPredicates value && members.any fun m => !m.2.isObject then .error .mixedFilter
    else .ok ()
  | _ => .error .filterValue

/-- Compiles a value: predicates are a leaf, any other object goes on. -/
def child (pointer : Pointer) (element : Element) (value : Json)
    (below : Except BuildError (Unit × Siblings Node)) :
    Except BuildError (Element × Node) :=
  if element.isStatic then
    match value, isPredicates value with
    | .obj members, true =>
      (compilePredicates pointer members).map fun predicates => (element, .leaf predicates)
    | _, _ => below.map fun (info, children) => (element, .branch info children)
  else .error ⟨pointer, .filterKey⟩

def dialect : Dialect Unit Unit (List Predicate) where
  label := "filter"
  accept := accept
  splitKey := wholeKey
  child := fun _ _ => child
  close := closePlain

/-- What a node says about a value. -/
inductive Verdict where
  /-- The key is not one of the node. -/
  | unmatched
  /-- The value stays, perhaps changed. -/
  | keep (value : Json)
  /-- The value goes. -/
  | drop

/-- What a node says about a key and the value under it. -/
abbrev Judge := Element → String → Json → Walk → Except RunError Verdict

/-- A container under work: its values so far and the places that will go. -/
structure Sifted where
  node : Json
  doomed : List Slot

def Sifted.result (s : Sifted) : Json :=
  Slot.discard s.doomed s.node

/-- Takes a verdict on the value at a place into account. -/
def Sifted.take (s : Sifted) (slot : Slot) : Verdict → Sifted
  | .unmatched => s
  | .keep value => { s with node := slot.replace value s.node }
  | .drop => { s with doomed := slot :: s.doomed }

/-- Asks a node about the value at a place, if there is one. -/
def Sifted.ask (s : Sifted) (slot : Slot) (w : Walk) (element : Element) (judge : Judge) :
    Except RunError Verdict :=
  match slot.child? s.node with
  | some value => judge element slot.key value w
  | none => .ok .unmatched

/-- Asks children one after the other until one has a verdict. -/
def offer (slot : Slot) (w : Walk) (s : Sifted) : List (Element × Judge) →
    Except RunError Verdict
  | [] => .ok .unmatched
  | (element, judge) :: rest => do
    match ← s.ask slot w element judge with
    | .unmatched => offer slot w s rest
    | verdict => .ok verdict

/-- Makes the visits of a node, in order. -/
def runVisits (w : Walk) : List (Visit Judge) → Sifted → Except RunError Sifted
  | [], s => .ok s
  | visit :: rest, s => do
    let verdict ← offer visit.slot w s visit.candidates
    runVisits w rest (s.take visit.slot verdict)

def sift (children : Siblings Judge) (w : Walk) (node : Json) : Except RunError Json :=
  if node.isContainer then
    (runVisits w (children.visits false node) ⟨node, []⟩).map Sifted.result
  else .ok node

/-- What a branch says about a value. -/
def judgeBranch (_ : Unit) (children : Siblings Judge) : Judge := fun element key value w => do
  match ← element.match? w key with
  | none => .ok .unmatched
  | some matched => do
    let inner ← w.push none matched
    (sift children inner value).map .keep

/-- What a leaf says about a value; `test` is how it tells the values that stay. -/
def judgeLeafWith (test : Walk → Json → Except RunError Bool) : Judge :=
  fun element key value w => do
    match ← element.match? w key with
    | none => .ok .unmatched
    | some matched => do
      let inner ← w.push none matched
      if ← test inner value then .ok (.keep value) else .ok .drop

/-- What a leaf with predicates says about a value. -/
def judgeLeaf (predicates : List Predicate) : Judge :=
  judgeLeafWith fun inner value => satisfies inner value predicates

/-- What compiled children say about the values of their node. -/
def judges (children : Siblings Node) : Siblings Judge :=
  Tree.foldSiblings judgeLeaf judgeBranch children

end Reshape.Transform.Filter

namespace Reshape.Transform

open Spec

/-- A compiled filter spec. -/
structure Filter where
  maxDepth : Nat
  children : Siblings Filter.Node

namespace Filter

def compile (maxDepth : Nat) (spec : Json) : Except BuildError Filter :=
  if isPredicates spec then .error ⟨[], .topPredicates⟩
  else (dialect.compileRoot maxDepth () spec).map fun (_, children) => ⟨maxDepth, children⟩

def apply (t : Filter) (input : Json) : Except RunError Json := do
  let w ← rootWalk t.maxDepth none
  sift (judges t.children) w input

end Filter

end Reshape.Transform
