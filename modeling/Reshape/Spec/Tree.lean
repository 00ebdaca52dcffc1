import Reshape.Spec.Siblings

/-! Compiled specs. What a spec does with a node of a document is told by a fold
over the tree of the spec: the children of a branch come as what they do. -/

namespace Reshape.Spec

/-- A compiled spec: branches know their children, leaves know what to do. -/
inductive Tree (B L : Type) where
  | leaf (value : L)
  | branch (info : B) (children : Siblings (Tree B L))

namespace Tree

variable {B L α : Type}

mutual

/-- Replaces leaves and branches from the bottom up. -/
def fold (leaf : L → α) (branch : B → Siblings α → α) : Tree B L → α
  | .leaf value => leaf value
  | .branch info ⟨literals, computed, special, strategy⟩ =>
    branch info
      ⟨foldLiterals leaf branch literals, foldChildren leaf branch computed,
        foldChildren leaf branch special, strategy⟩

def foldLiterals (leaf : L → α) (branch : B → Siblings α → α) :
    List (String × Tree B L) → List (String × α)
  | [] => []
  | (text, child) :: rest =>
    (text, fold leaf branch child) :: foldLiterals leaf branch rest

def foldChildren (leaf : L → α) (branch : B → Siblings α → α) :
    List (Key.Element × Tree B L) → List (Key.Element × α)
  | [] => []
  | (element, child) :: rest =>
    (element, fold leaf branch child) :: foldChildren leaf branch rest

end

def foldSiblings (leaf : L → α) (branch : B → Siblings α → α) (s : Siblings (Tree B L)) :
    Siblings α :=
  ⟨foldLiterals leaf branch s.literals, foldChildren leaf branch s.computed,
    foldChildren leaf branch s.special, s.strategy⟩

theorem fold_branch (leaf : L → α) (branch : B → Siblings α → α) (info : B)
    (s : Siblings (Tree B L)) :
    fold leaf branch (.branch info s) = branch info (foldSiblings leaf branch s) := by
  cases s; rfl

theorem foldLiterals_eq_map (leaf : L → α) (branch : B → Siblings α → α)
    (children : List (String × Tree B L)) :
    foldLiterals leaf branch children =
      children.map fun child => (child.1, fold leaf branch child.2) := by
  induction children with
  | nil => rfl
  | cons child rest ih => simp [foldLiterals, ih]

theorem foldChildren_eq_map (leaf : L → α) (branch : B → Siblings α → α)
    (children : List (Key.Element × Tree B L)) :
    foldChildren leaf branch children =
      children.map fun child => (child.1, fold leaf branch child.2) := by
  induction children with
  | nil => rfl
  | cons child rest ih => simp [foldChildren, ih]

end Tree

end Reshape.Spec
