import Reshape.Proofs.Spec.Spreading
import Reshape.Proofs.Transform.Widening

/-! A wildcard that matches nothing. It can be added to any node of a shift without a change to
the output, unless the node handles its keys in the order of the document from then on and did
not do so before. -/

namespace Reshape

open Key Spec Outcome

namespace Spec

open Transform

/-- The nodes at the end of a way through a spec, one for each choice among the alternatives of
the keys on the way. -/
def Surroundings.Leads : Surroundings → Position → Position → Prop
  | [], outer, position => position = outer
  | (_, key, _) :: rest, outer, position =>
    ∃ elements, readKey [] key = .ok elements ∧
      ∃ element ∈ elements, Leads rest (element :: outer) position

/-- Where the node at the end of a way stands in a spec at a pointer. -/
def Surroundings.pointer (path : Pointer) : Surroundings → Pointer
  | [] => path
  | (_, key, _) :: rest => pointer (Pointer.child path key) rest

theorem readKey_placeless (path other : Pointer) (key : String) :
    Both Eq (readKey path key) (readKey other key) := by
  have each : ∀ alternative ∈ alternatives key,
      Both Eq (Dialect.readAlternative path alternative)
        (Dialect.readAlternative other alternative) := by
    intro alternative _
    unfold Dialect.readAlternative
    cases Element.parse alternative with
    | error e => exact .failed _ _
    | ok element => exact .done rfl
  have both := Both.mapM each
  simp only [List.forall₂_eq_eq_eq] at both
  exact both

end Spec

namespace Transform.Shift

variable {limit maxDepth depth : Nat} {path : Pointer} {key text : String} {pattern : Star}

section Members

variable {members before after : Members} {found : List (Entry Unit (List Path))}
variable {u : Siblings Node}

/-- The elements of a key are the same wherever it stands. -/
theorem compileMember_eq_ok {value : Json} :
    dialect.compileMember limit () depth path (key, value) = .ok found ↔
      ∃ elements, readKey [] key = .ok elements ∧
        elements.mapM (dialect.compileElement () () (Pointer.child path key) value
          (dialect.compile limit () (depth + 1) (Pointer.child path key) value)) = .ok found := by
  rw [Dialect.compileMember_eq_ok]
  simp only [(readKey_placeless _ [] _).eq_ok_iff]
  exact ⟨fun ⟨_, made⟩ => made, fun made => ⟨rfl, made⟩⟩

end Members

variable {site : Site} {s u : Siblings Node} {output : Json} {steps : Path}

/-- A document to which a node does the same with one more wildcard: the wildcard matches none of
its keys, and if the node then goes through them in order, it has done so before. -/
def Keeps (s : Siblings Node) (pattern : Star) (doc : Json) : Prop :=
  (∀ name ∈ Slot.names doc, pattern.captures? name = none) ∧
    (s.Switches (.star pattern) → s.InDocumentOrder doc)

/-- A place between two keys, below another key. -/
def between : Site := ⟨[([], "n", [])], [("a", .str "x")], [("b", .str "x")]⟩

/-- A document with both keys. -/
def pair : Json := .obj [("a", .bool true), ("b", .bool false)]

/-- A wildcard that cannot be told apart from the keys in advance. -/
def guarded : Star := .many ["q", "", ""]

end Transform.Shift

end Reshape
