import Reshape.Error
import Reshape.Evaluation
import Reshape.Spec.Slot
import Reshape.Spec.Strategy

namespace Reshape.Spec

open Key

/-- How specific a computed element is; the most specific ones come first. -/
def rank : Element → Nat
  | .template _ => 0
  | .star (.double ..) | .star (.many _) => 1
  | .star (.single ..) => 2
  | .star .any => 3
  | _ => 4

/-- Whether a computed element is tried no later than another one: by kind, then the
longer canonical text, then in alphabetical order. -/
def precedes (a b : Element) : Bool :=
  if rank a ≠ rank b then rank a < rank b
  else
    let (s, t) := (a.canonical, b.canonical)
    if s.utf8ByteSize ≠ t.utf8ByteSize then t.utf8ByteSize < s.utf8ByteSize
    else s ≤ t

/-- Puts a child in front of the first one that it precedes. -/
def insertChild {α : Type} (child : Element × α) : List (Element × α) → List (Element × α)
  | [] => [child]
  | other :: rest =>
    if precedes child.1 other.1 then child :: other :: rest
    else other :: insertChild child rest

/-- The computed children in the order in which they are tried. -/
def sortChildren {α : Type} : List (Element × α) → List (Element × α)
  | [] => []
  | child :: rest => insertChild child (sortChildren rest)

/-- The children of a node. -/
structure Siblings (α : Type) where
  literals : List (String × α)
  computed : List (Element × α)
  special : List (Element × α)
  strategy : Strategy

/-- A place and the children that are tried for it, one after the other until one
handles it. -/
structure Visit (α : Type) where
  slot : Slot
  candidates : List (Element × α)

namespace Siblings

variable {α : Type}

/-- All children, in the order in which they are applied where all of them are. -/
def all (s : Siblings α) : List (Element × α) :=
  s.literals.map (fun (text, child) => (Element.literal text, child)) ++ s.computed ++ s.special

/-- The visit of a place by the literal child with this text. -/
def literalVisit (slot : Slot) (text : String) (child : α) : Visit α :=
  ⟨slot, [(Element.literal text, child)]⟩

/-- The visits of the literal children: where their key is, and where it could be
if `absent` is set. -/
def literalVisits (s : Siblings α) (absent : Bool) (input : Json) : List (Visit α) :=
  s.literals.filterMap fun (text, child) =>
    let slot := (Slot.ofPresent? text input).or
      (if absent then Slot.ofAbsent? text input else none)
    slot.map fun slot => literalVisit slot text child

def computedVisits (s : Siblings α) (input : Json) : List (Visit α) :=
  (Slot.ofInput input).map fun slot => ⟨slot, s.computed⟩

def literal? (s : Siblings α) (text : String) : Option α :=
  (s.literals.find? fun child => child.1 == text).map (·.2)

/-- The visit of a place by the literal child of its key, else by the computed
children. -/
def literalFirstVisit (s : Siblings α) (slot : Slot) : Visit α :=
  match s.literal? slot.key with
  | some child => literalVisit slot slot.key child
  | none => ⟨slot, s.computed⟩

/-- The visits of the literal children whose key is not there. -/
def absentVisits (s : Siblings α) (input : Json) : List (Visit α) :=
  s.literals.filterMap fun (text, child) =>
    (Slot.ofAbsent? text input).map fun slot => literalVisit slot text child

/-- What is tried for which places of an input, in order. With `absent`, literal
children are also tried for keys that are not there yet. -/
def visits (s : Siblings α) (absent : Bool) (input : Json) : List (Visit α) :=
  match s.strategy with
  | .literalsOnly => s.literalVisits absent input
  | .computedOnly => s.computedVisits input
  | .disjoint => s.literalVisits absent input ++ s.computedVisits input
  | .literalFirst =>
    (Slot.ofInput input).map s.literalFirstVisit ++
      (if absent then s.absentVisits input else [])

/-- Refuses children that are the same element, and positions in arrays, in the
order of the children. -/
def check (path : Pointer) (seen : List String) :
    List (Element × α) → Except BuildError Unit
  | [] => .ok ()
  | (element, _) :: rest =>
    let canonical := element.canonical
    if seen.contains canonical then .error ⟨path, .duplicateKey canonical⟩
    else if element.role = .index then .error ⟨Pointer.child path canonical, .indexKey⟩
    else check path (canonical :: seen) rest

def literalText? : Element → Option String
  | .literal text => some text
  | _ => none

def literalsOf (children : List (Element × α)) : List (String × α) :=
  children.filterMap fun (element, child) =>
    (literalText? element).map fun text => (text, child)

/-- The siblings of the node at `path` of a spec. -/
def ofChildren (path : Pointer) (children : List (Element × α)) :
    Except BuildError (Siblings α) := do
  check path [] children
  let literals := literalsOf children
  let computed := sortChildren (children.filter fun child => child.1.role = .computed)
  let special := children.filter fun child => child.1.role = .special
  let strategy := Strategy.determine (literals.map (·.1)) (computed.map (·.1))
  .ok ⟨literals, computed, special, strategy⟩

end Siblings

end Reshape.Spec
