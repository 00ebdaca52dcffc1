import Reshape.Json
import Reshape.Decimal.Integer

namespace Reshape.Spec

/-- A place in a node of a document. Items of arrays have an index; it is kept apart
from the key, which can be another spelling of it. -/
structure Slot where
  key : String
  index : Option Nat
deriving DecidableEq, Repr

namespace Slot

def member (key : String) : Slot := ⟨key, none⟩

def item (index : Nat) : Slot := ⟨Decimal.natText index, some index⟩

def index? (s : Slot) : Option Nat :=
  s.index.or (Decimal.readIndex s.key)

def child? (s : Slot) : Json → Option Json
  | .obj members => Members.get? s.key members
  | .arr items => s.index?.bind fun index => items[index]?
  | _ => none

/-- The document with another value at a place that is there. -/
def replace (s : Slot) (value : Json) : Json → Json
  | .obj members => .obj (Members.put s.key value members)
  | .arr items =>
    match s.index? with
    | some index => .arr (items.set index value)
    | none => .arr items
  | doc => doc

def items (length : Nat) : List Slot :=
  (List.range length).map item

def ofContainer : Json → List Slot
  | .obj members => members.map fun m => member m.1
  | .arr items => Slot.items items.length
  | _ => []

/-- The places in a document; a scalar is one place, and null has none. -/
def ofInput (doc : Json) : List Slot :=
  match doc with
  | .obj _ | .arr _ => ofContainer doc
  | scalar => (scalar.keyText?.map member).toList

/-- The place that a literal key names in a document, if it is there. -/
def ofPresent? (key : String) (doc : Json) : Option Slot :=
  match doc with
  | .obj members => if Members.has key members then some (member key) else none
  | .arr items =>
    ((Decimal.readIndex key).filter (· < items.length)).map fun index => ⟨key, some index⟩
  | scalar => if scalar.keyText? = some key then some (member key) else none

/-- The place that a literal key names in a container that has no value there. -/
def ofAbsent? (key : String) (doc : Json) : Option Slot :=
  match doc with
  | .obj members => if Members.has key members then none else some (member key)
  | .arr items =>
    ((Decimal.readIndex key).filter (items.length ≤ ·)).map fun index => ⟨key, some index⟩
  | _ => none

/-- A container without the values at some of its places. -/
def discard (doomed : List Slot) : Json → Json
  | .obj members =>
    .obj (members.filter fun m => !(doomed.any fun s => s.key == m.1))
  | .arr items =>
    let indices := doomed.filterMap (·.index)
    .arr ((items.zipIdx.filter fun (_, index) => !indices.contains index).map (·.1))
  | doc => doc

end Slot

end Reshape.Spec
