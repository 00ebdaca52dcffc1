import Reshape.Proofs.Entries
import Reshape.Proofs.Spec.Nesting
import Reshape.Proofs.Spec.Orders

namespace Reshape.Spec

open Key Decimal

namespace Slot

variable {slot other : Slot} {doc : Json} {text : String}

end Slot

namespace Siblings

variable {α : Type} {s wide : Siblings α} {path : Pointer} {child : Element × α}
variable {before after children : List (Element × α)} {doc : Json}

/-- Siblings with one more computed child. -/
structure Widens (child : Element × α) (s wide : Siblings α) : Prop where
  literals : wide.literals = s.literals
  special : wide.special = s.special
  computed : ∃ before after, s.computed = before ++ after ∧
    wide.computed = before ++ child :: after

/-- Literals and computed children are found key by key if some computed child may match a
literal. -/
theorem strategy_eq_literalFirst (accepted : ofChildren path children = .ok s) :
    s.strategy = .literalFirst ↔ s.literals ≠ [] ∧
      ∃ child ∈ s.computed, avoids (s.literals.map (·.1)) child.1 = false := by
  rw [(ofChildren_eq accepted).2.2.2]
  unfold Strategy.determine
  simp only [List.isEmpty_map, List.isEmpty_iff]
  split
  · rename_i none
    simp [none]
  split
  · rename_i none
    simp [none]
  split
  · rename_i apart
    simp only [List.all_eq_true, List.forall_mem_map] at apart
    simp only [reduceCtorEq, false_iff, not_and, not_exists, Bool.not_eq_false]
    exact fun _ child => apart child
  · rename_i filled apart
    simp only [List.all_eq_true, List.forall_mem_map, not_forall, Bool.not_eq_true] at apart
    obtain ⟨child, present, meets⟩ := apart
    simp only [true_iff]
    exact ⟨filled, child, present, meets⟩

/-- With one more computed element a node would find its children key by key, which it does not
do without it. -/
def Switches (s : Siblings α) (element : Element) : Prop :=
  s.strategy ≠ .literalFirst ∧
    Strategy.determine (s.literals.map (·.1)) (element :: s.computed.map (·.1)) = .literalFirst

theorem Widens.strategy (widens : Widens child s wide)
    (also : ofChildren path children = .ok wide) :
    wide.strategy = Strategy.determine (s.literals.map (·.1)) (child.1 :: s.computed.map (·.1)) := by
  obtain ⟨before, after, same, wider⟩ := widens.computed
  rw [(ofChildren_eq also).2.2.2, widens.literals, same, wider, List.map_append, List.map_cons,
    List.map_append]
  unfold Strategy.determine
  rw [List.perm_middle.isEmpty_eq, List.perm_middle.all_eq]

theorem Widens.literalFirst (widens : Widens child s wide)
    (accepted : ofChildren path children = .ok s) {other : Pointer} {others : List (Element × α)}
    (also : ofChildren other others = .ok wide) (first : s.strategy = .literalFirst) :
    wide.strategy = .literalFirst := by
  obtain ⟨before, after, same, wider⟩ := widens.computed
  obtain ⟨filled, other, present, meets⟩ := (strategy_eq_literalFirst accepted).mp first
  rw [strategy_eq_literalFirst also, widens.literals, wider]
  rw [same, List.mem_append] at present
  refine ⟨filled, other, ?_, meets⟩
  rw [List.mem_append, List.mem_cons]
  exact present.imp id .inr

end Siblings

namespace Siblings

variable {α : Type} {s : Siblings α} {path : Pointer} {first last : List (Element × α)}
variable {elements : List Element} {old : α}

end Siblings

/-- Whether one of the candidates of a visit matches its key by its text. -/
def Visit.matchesText {α : Type} (visit : Visit α) : Bool :=
  visit.candidates.any fun child => child.1.matchesText visit.slot.key

namespace Siblings

variable {α : Type} {s : Siblings α} {path : Pointer} {children : List (Element × α)} {doc : Json}

/-- Whether a child of a node matches a key by its text. -/
def matchesText (s : Siblings α) (key : String) : Bool :=
  s.literals.any (·.1 == key) || s.computed.any fun child => child.1.matchesText key

/-- A node handles the keys of a document that its children match in the order in which they
stand in the document. -/
def InDocumentOrder (s : Siblings α) (doc : Json) : Prop :=
  ((s.visits false doc).filter Visit.matchesText).map (·.slot.key) =
    (Slot.names doc).filter s.matchesText

end Siblings

end Reshape.Spec
