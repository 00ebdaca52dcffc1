import Reshape.Json

namespace Reshape.Transform.Sort

/-- Whether a key is put no later than another one. -/
def precedes (a b : String) : Bool :=
  let tildeA := a.startsWith "~"
  let tildeB := b.startsWith "~"
  if tildeA = tildeB then a ≤ b else tildeA

/-- The members of an object in the order of their keys. -/
def sortMembers (members : Members) : Members :=
  members.mergeSort fun a b => precedes a.1 b.1

mutual

def apply : Json → Json
  | .obj members => .obj (sortMembers (applyMembers members))
  | .arr items => .arr (applyItems items)
  | doc => doc

def applyItems : List Json → List Json
  | [] => []
  | item :: rest => apply item :: applyItems rest

def applyMembers : Members → Members
  | [] => []
  | (key, value) :: rest => (key, apply value) :: applyMembers rest

end

end Reshape.Transform.Sort
