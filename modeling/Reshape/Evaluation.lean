import Reshape.Key.Grammar
import Reshape.Traversal
import Reshape.Walk

namespace Reshape.Key

def indexText? (text : String) : Option String :=
  if (Decimal.readIndex text).isSome then some text else none

/-- Evaluates the items of a list in order and stops at the first that has no value. -/
def evaluateAll {α : Type} (evaluate : α → Except RunError (Option String)) :
    List α → Except RunError (Option (List String))
  | [] => .ok (some [])
  | item :: rest => do
    match ← evaluate item with
    | none => .ok none
    | some key => (evaluateAll evaluate rest).map fun keys => keys.map (key :: ·)

def Template.evaluate (w : Walk) : Template → Except RunError String
  | [] => .ok ""
  | .text value :: rest => (Template.evaluate w rest).map (value ++ ·)
  | .captured r :: rest => do
    let text ← w.resolve '&' r
    (Template.evaluate w rest).map (text ++ ·)

def PlainStep.evaluate (w : Walk) : PlainStep → Except RunError (Option String)
  | key text => .ok (some text)
  | template pieces => (Template.evaluate w pieces).map some
  | item index => .ok (some (Decimal.natText index))
  | counter level => (w.counter level).map fun n => some (Decimal.natText n)
  | captured r => (w.resolve '&' r).map indexText?

/-- The kind of a step, which its canonical text shows. -/
def Step.kind (s : Step) : StepKind :=
  .classify s.canonical

def Path.traversal (path : Path) : Traversal :=
  path.map Step.kind

def Lookup.object? (w : Walk) (l : Lookup) : Except RunError (Option Json) := do
  match ← w.frameAt l.level with
  | none => .error (.outOfRange l.canonical w.depth 0)
  | some frame =>
    match frame.tree with
    | none => .ok none
    | some tree => do
      match ← evaluateAll (PlainStep.evaluate w) l.path with
      | none => .ok none
      | some keys => (Path.traversal (l.path.map .plain)).get? keys tree

/-- The data that a lookup finds, as a key: only scalars are keys. -/
def Lookup.key? (w : Walk) (l : Lookup) : Except RunError (Option String) :=
  (l.object? w).map fun found => found.bind Json.keyText?

def Step.evaluate (w : Walk) : Step → Except RunError (Option String)
  | plain s => s.evaluate w
  | lookup l => l.key? w
  | append => .ok (some "[]")
  | itemLookup l => (l.key? w).map fun key => key.bind indexText?

namespace Path

def evaluate (w : Walk) (path : Path) : Except RunError (Option (List String)) :=
  evaluateAll (Step.evaluate w) path

def read (w : Walk) (path : Path) (doc : Json) : Except RunError (Option Json) := do
  match ← path.evaluate w with
  | none => .ok none
  | some keys => path.traversal.get? keys doc

/-- Writes at the end of a path; what is there already is collected in an array. -/
def write (w : Walk) (path : Path) (data doc : Json) : Except RunError (Bool × Json) := do
  match ← path.evaluate w with
  | none => .ok (false, doc)
  | some keys => path.traversal.set .collect keys data doc

end Path

namespace Element

/-- The key that an element stands for. -/
def evaluate (w : Walk) : Element → Except RunError (Option String)
  | step s => s.evaluate w
  | _ => .ok none

/-- Whether an element matches a key whatever the walk is. -/
def matchesText : Element → String → Bool
  | literal text, key => text == key
  | star pattern, key => (pattern.captures? key).isSome
  | _, _ => false

/-- The match of the innermost level, if a walk has levels. -/
def currentMatch? (w : Walk) : Option Match :=
  (w.frame? 0).map (·.matched)

/-- The match of an element with a key. Constants, captured keys, lookups and the
current node match every key; positions in arrays match none. -/
def match? (w : Walk) (key : String) : Element → Except RunError (Option Match)
  | literal text => .ok (if text = key then some (.ofKey key) else none)
  | star pattern =>
    .ok ((pattern.captures? key).map fun captures => ⟨key, captures, 0⟩)
  | template pieces =>
    (Template.evaluate w pieces).map fun text =>
      if text = key then some (.ofKey key) else none
  | constant text => .ok (some (.ofKey text))
  | captured r => (w.resolve '$' r).map fun text => some (.ofKey text)
  | here => .ok (currentMatch? w)
  | lookup _ => .ok (currentMatch? w)
  | step _ => .ok none

end Element

end Reshape.Key
