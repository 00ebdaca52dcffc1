import Reshape.Evaluation

namespace Reshape.Spec

open Key

/-- How a node finds the children for the keys of its input. -/
inductive Strategy where
  /-- There are only literals: each one is looked up. -/
  | literalsOnly
  /-- There are only computed children: each key is offered to them. -/
  | computedOnly
  /-- No literal matches a computed sibling: both happen, one after the other. -/
  | disjoint
  /-- For each key a literal wins over the computed siblings. -/
  | literalFirst
deriving DecidableEq, Repr

/-- Whether a computed element is known to match none of the literals. Only for the
simple wildcards is that asked. -/
def avoids (literals : List String) (element : Element) : Bool :=
  element.isSimpleStar && literals.all fun text => !element.matchesText text

/-- The strategy for these literal and computed children. -/
def Strategy.determine (literals : List String) (computed : List Element) : Strategy :=
  if computed.isEmpty then literalsOnly
  else if literals.isEmpty then computedOnly
  else if computed.all (avoids literals) then disjoint
  else literalFirst

end Reshape.Spec
