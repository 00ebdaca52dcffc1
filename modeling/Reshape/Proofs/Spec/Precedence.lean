import Mathlib.Data.Prod.Lex
import Mathlib.Data.String.Basic
import Reshape.Spec.Siblings

namespace Reshape.Spec

open Key

/-- What decides when a computed child is tried: its kind, then the length of its
canonical form, longer ones first, then the form itself. -/
def priority (e : Element) : ℕ ×ₗ ℕᵒᵈ ×ₗ String :=
  toLex (rank e, toLex (OrderDual.toDual e.canonical.utf8ByteSize, e.canonical))

theorem precedes_iff {a b : Element} : precedes a b = true ↔ priority a ≤ priority b := by
  rw [priority, priority, Prod.Lex.toLex_le_toLex, Prod.Lex.toLex_le_toLex,
    OrderDual.toDual_lt_toDual, OrderDual.toDual_inj]
  unfold precedes
  by_cases ranked : rank a = rank b
  · by_cases sized : a.canonical.utf8ByteSize = b.canonical.utf8ByteSize
    · simp [ranked, sized]
    · simp [ranked, sized]
  · simp [ranked]

theorem precedes_total (a b : Element) : precedes a b = true ∨ precedes b a = true := by
  rw [precedes_iff, precedes_iff]
  exact le_total _ _

theorem precedes_trans {a b c : Element} (first : precedes a b = true)
    (second : precedes b c = true) : precedes a c = true := by
  rw [precedes_iff] at first second ⊢
  exact first.trans second

/-- Elements that precede each other have the same canonical form. -/
theorem canonical_eq_of_precedes {a b : Element} (first : precedes a b = true)
    (second : precedes b a = true) : a.canonical = b.canonical := by
  rw [precedes_iff] at first second
  have same : priority a = priority b := le_antisymm first second
  simp only [priority, toLex_inj, Prod.mk.injEq] at same
  exact same.2.2

variable {α : Type}

def Ordered (children : List (Element × α)) : Prop :=
  children.Pairwise fun first later => precedes first.1 later.1 = true

theorem insertChild_perm (child : Element × α) (children : List (Element × α)) :
    List.Perm (insertChild child children) (child :: children) := by
  induction children with
  | nil => exact .refl _
  | cons other rest ih =>
    by_cases before : precedes child.1 other.1 = true
    · rw [insertChild, if_pos before]
    · rw [insertChild, if_neg before]
      exact (ih.cons other).trans (.swap child other rest)

theorem sortChildren_perm (children : List (Element × α)) :
    List.Perm (sortChildren children) children := by
  induction children with
  | nil => exact .refl _
  | cons child rest ih => exact (insertChild_perm child _).trans (ih.cons child)

private theorem insertChild_ordered (child : Element × α) {children : List (Element × α)}
    (ordered : Ordered children) : Ordered (insertChild child children) := by
  induction children with
  | nil => exact List.pairwise_singleton _ _
  | cons other rest ih =>
    obtain ⟨first, later⟩ := List.pairwise_cons.mp ordered
    by_cases before : precedes child.1 other.1 = true
    · rw [insertChild, if_pos before]
      refine List.pairwise_cons.mpr ⟨?_, ordered⟩
      intro member present
      rcases List.mem_cons.mp present with rfl | present
      · exact before
      · exact precedes_trans before (first member present)
    · rw [insertChild, if_neg before]
      refine List.pairwise_cons.mpr ⟨?_, ih later⟩
      intro member present
      rcases List.mem_cons.mp ((insertChild_perm child rest).mem_iff.mp present) with rfl | present
      · exact (precedes_total _ _).resolve_left before
      · exact first member present

theorem sortChildren_ordered (children : List (Element × α)) :
    Ordered (sortChildren children) := by
  induction children with
  | nil => exact .nil
  | cons child rest ih => exact insertChild_ordered child ih

/-- The first child with a property precedes all others that have it. -/
theorem precedes_of_find? {children : List (Element × α)} (ordered : Ordered children)
    {property : Element × α → Bool} {child : Element × α}
    (found : children.find? property = some child) {other : Element × α}
    (present : other ∈ children) (holds : property other = true) :
    precedes child.1 other.1 = true := by
  obtain ⟨-, before, after, rfl, missed⟩ := List.find?_eq_some_iff_append.mp found
  rcases List.mem_append.mp present with early | late
  · have fails := missed other early
    simp [holds] at fails
  · rcases List.mem_cons.mp late with rfl | late
    · exact (precedes_total _ _).elim id id
    · exact (List.pairwise_cons.mp (List.pairwise_append.mp ordered).2.1).1 other late

end Reshape.Spec
