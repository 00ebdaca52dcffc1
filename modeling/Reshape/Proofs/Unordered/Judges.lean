import Reshape.Proofs.Unordered.Predicates
import Reshape.Proofs.Unordered.Visits
import Reshape.Proofs.WalkShape

namespace Reshape.Transform.Filter

open Key Spec Outcome

/-- A walk has a shape, and no level of it has a part of the document. -/
structure Asked (shape : List Nat) (w : Walk) : Prop where
  shaped : w.shape = shape
  bare : ∀ frame ∈ w.frames, frame.tree = none

theorem Asked.push {shape : List Nat} {w inner : Walk} {element : Element} {key : String}
    {matched : Match} (asked : Asked shape w) (found : element.match? w key = .ok (some matched))
    (entered : w.push none matched = .ok inner) : Asked (element.groups shape :: shape) inner where
  shaped := by rw [Element.shape_push found entered, asked.shaped]
  bare := by
    rw [Walk.frames_push entered]
    exact List.forall_mem_cons.mpr ⟨rfl, asked.bare⟩

variable {w : Walk}

/-- What a compiled node says about a value, where `test` tells the values that stay. -/
def judgeWith (test : List Predicate → Walk → Json → Except RunError Bool) : Node → Judge :=
  Tree.fold (fun predicates => judgeLeafWith (test predicates)) judgeBranch

/-- Something is known of the predicates of all leaves and of the shapes of the walks that they
are tried on. -/
inductive Leaves (holds : List Nat → List Predicate → Prop) : List Nat → Node → Prop where
  | leaf {shape : List Nat} {predicates : List Predicate} (held : holds shape predicates) :
      Leaves holds shape (.leaf predicates)
  | branch {shape : List Nat} {s : Siblings Node}
      (below : ∀ child ∈ s.all, Leaves holds (child.1.groups shape :: shape) child.2) :
      Leaves holds shape (.branch () s)

/-- How two sets of predicates may differ so that a test tells the same of both of them, where
something is known of the first one. -/
structure Tells (related : List Predicate → List Predicate → Prop)
    (holds : List Nat → List Predicate → Prop)
    (test : List Predicate → Walk → Json → Except RunError Bool) : Prop where
  moves : ∀ {shape predicates others}, related predicates others → holds shape predicates →
    holds shape others
  agree : ∀ {shape predicates others w}, related predicates others → holds shape predicates →
    Asked shape w → Json.Twins.Agree Eq (test predicates w) (test others w)

variable {related : List Predicate → List Predicate → Prop}
  {holds : List Nat → List Predicate → Prop}
  {test : List Predicate → Walk → Json → Except RunError Bool} {t u : Node} {shape : List Nat}
  {element : Element}

theorem Leaves.reordered (tells : Tells related holds test) (reordered : t.Reordered related u)
    (leaves : Leaves holds shape t) : Leaves holds shape u := by
  induction reordered generalizing shape with
  | trans _ _ one two => exact two (one leaves)
  | leaf same =>
    cases leaves with
    | leaf held => exact .leaf (tells.moves same held)
  | shuffle same each ih =>
    cases leaves with
    | branch below =>
      refine .branch fun child present => ih child present (below child ?_)
      exact (Siblings.all_perm same).mem_iff.mpr present
  | children each ih =>
    cases leaves with
    | branch below =>
      rw [Siblings.all_map] at below
      refine .branch ?_
      rw [Siblings.all_map, List.forall_mem_map]
      exact fun child present => ih child present (below _ (List.mem_map_of_mem present))

theorem judgeWith_branch (s : Siblings Node) :
    judgeWith test (.branch () s) = judgeBranch () (s.map fun _ => judgeWith test) := by
  rw [judgeWith, Tree.fold_branch, Siblings.foldSiblings_eq_map]

theorem judgeLeafWith_twins {first second : Walk → Json → Except RunError Bool}
    (asked : Asked shape w)
    (agree : ∀ inner, Asked (element.groups shape :: shape) inner →
      Json.Twins.Agree Eq (first inner) (second inner)) :
    Agreeing w element (judgeLeafWith first) (judgeLeafWith second) := by
  intro key value other twins
  refine Both.bind_same fun found matching => ?_
  cases found with
  | none => exact .done .unmatched
  | some matched =>
    refine Both.bind_same fun inner entered => ?_
    refine (agree inner (asked.push matching entered) value other twins).bind fun same => ?_
    subst same
    exact .ite (fun _ => .done (.keep twins)) fun _ => .done .drop

private theorem judgeBranch_twins {α : Type} {siblings : Siblings α} {literals : List (String × α)}
    {f g : Element → α → Judge} (asked : Asked shape w)
    (separate : Siblings.Separate (siblings.literals.map (·.1)))
    (same : literals.Perm siblings.literals)
    (agree : ∀ inner, Asked (element.groups shape :: shape) inner →
      ∀ child ∈ siblings.all, Agreeing inner child.1 (f child.1 child.2) (g child.1 child.2)) :
    Agreeing w element (judgeBranch () (({ siblings with literals } : Siblings α).map f))
      (judgeBranch () (siblings.map g)) := by
  intro key value other twins
  refine Both.bind_same fun found matching => ?_
  cases found with
  | none => exact .done .unmatched
  | some matched =>
    refine Both.bind_same fun inner entered => ?_
    have judged := agree inner (asked.push matching entered)
    exact (sift_twins separate same judged twins).map .keep

private theorem Agreeing.trans {f g h : Judge} (one : Agreeing w element f g)
    (two : Agreeing w element g h) : Agreeing w element f h :=
  fun key => (one key).trans (two key) fun one two => one.trans two

/-- Trees that are equal up to the order of literals say the same about twins. -/
theorem judgeWith_twins (tells : Tells related holds test) (reordered : t.Reordered related u)
    (separate : t.Throughout fun _ => Siblings.Separate) (asked : Asked shape w)
    (leaves : Leaves holds (element.groups shape :: shape) t) :
    Agreeing w element (judgeWith test t) (judgeWith test u) := by
  induction reordered generalizing shape element w with
  | trans first _ one two =>
    have further := first.throughout (fun same separate => separate.perm same) separate
    exact (one separate asked leaves).trans (two further asked (leaves.reordered tells first))
  | leaf same =>
    cases leaves with
    | leaf held =>
      simp only [judgeWith, Tree.fold]
      exact judgeLeafWith_twins asked fun inner further => tells.agree same held further
  | @shuffle _ s literals same each ih =>
    cases leaves with
    | branch below =>
      cases separate with
      | branch admitted others =>
        rw [judgeWith_branch, judgeWith_branch]
        refine judgeBranch_twins asked (admitted.perm (same.map _)) same ?_
        intro inner further child present
        have held := (Siblings.all_perm same).mem_iff.mpr present
        exact ih child present (others child held) further (below child held)
  | @children _ pairs each ih =>
    cases leaves with
    | branch below =>
      cases separate with
      | branch admitted others =>
        rw [Siblings.texts_map] at admitted
        rw [Siblings.all_map, List.forall_mem_map] at below others
        rw [judgeWith_branch, judgeWith_branch, Siblings.map_map, Siblings.map_map]
        refine judgeBranch_twins asked admitted (.refl _) ?_
        intro inner further child present
        exact ih child present (others child present) further (below child present)

end Reshape.Transform.Filter
