import Reshape.Proofs.Transform.Runner
import Reshape.Transform.Cardinality

namespace Reshape.Transform.Cardinality

open Key Spec

/-- Two actions do the same for an element on all walks of a shape. -/
def Agree (shape : List Nat) (element : Element) (f g : Action) : Prop :=
  ∀ key value w, w.shape = shape → f element key value w = g element key value w

variable {α : Type} {shape : List Nat} {f g : Element → α → Action}

private theorem offer_agree {children : List (Element × α)}
    (agree : ∀ child ∈ children, Agree shape child.1 (f child.1 child.2) (g child.1 child.2))
    (key : String) (value : Json) {w : Walk} (shaped : w.shape = shape) :
    offer key value w (children.map fun child => (child.1, f child.1 child.2)) =
      offer key value w (children.map fun child => (child.1, g child.1 child.2)) := by
  induction children with
  | nil => rfl
  | cons child rest ih =>
    obtain ⟨first, later⟩ := List.forall_mem_cons.mp agree
    simp only [List.map_cons, offer, first key value w shaped]
    congr 1
    funext handled
    cases handled with
    | none => exact ih later
    | some changed => rfl

private theorem runSpecial_agree {children : List (Element × α)}
    (agree : ∀ child ∈ children, Agree shape child.1 (f child.1 child.2) (g child.1 child.2))
    (key : String) {w : Walk} (shaped : w.shape = shape) (node : Json) :
    runSpecial key w (children.map fun child => (child.1, f child.1 child.2)) node =
      runSpecial key w (children.map fun child => (child.1, g child.1 child.2)) node := by
  induction children generalizing node with
  | nil => rfl
  | cons child rest ih =>
    obtain ⟨first, later⟩ := List.forall_mem_cons.mp agree
    simp only [List.map_cons, runSpecial, first key node w shaped]
    congr 1
    funext changed
    exact ih later (changed.getD node)

private theorem runVisits_agree {visits : List (Visit α)}
    (agree : ∀ visit ∈ visits, ∀ child ∈ visit.candidates,
      Agree shape child.1 (f child.1 child.2) (g child.1 child.2))
    {w : Walk} (shaped : w.shape = shape) (node : Json) :
    runVisits w (visits.map (Visit.map f)) node = runVisits w (visits.map (Visit.map g)) node := by
  induction visits generalizing node with
  | nil => rfl
  | cons visit rest ih =>
    obtain ⟨first, later⟩ := List.forall_mem_cons.mp agree
    simp only [List.map_cons, runVisits, Visit.map]
    cases visit.slot.child? node with
    | none => exact ih later node
    | some value =>
      simp only [offer_agree first _ value shaped]
      congr 1
      funext handled
      cases handled with
      | none => exact ih later node
      | some changed => exact ih later (visit.slot.replace changed node)

theorem runBranch_agree {element : Element} {s : Siblings α}
    (agree : ∀ child ∈ s.all,
      Agree (element.groups shape :: shape) child.1 (f child.1 child.2) (g child.1 child.2)) :
    Agree shape element (runBranch (s.map f)) (runBranch (s.map g)) := by
  intro key value w shaped
  refine Outcome.bind_congr_of_ok fun found matching => ?_
  cases found with
  | none => rfl
  | some matched =>
    refine Outcome.bind_congr_of_ok fun inner entered => ?_
    have deeper := Element.shape_push matching entered
    rw [shaped] at deeper
    have specials : runSpecial key inner (s.map f).special value =
        runSpecial key inner (s.map g).special value :=
      runSpecial_agree (Siblings.forall_special agree) key deeper value
    rw [specials]
    congr 1
    funext node
    have visits := runVisits_agree (Siblings.forall_visits agree false node) deeper node
    simp only [Siblings.visits_map, visits]

/-- A cardinality from the children at the top of its spec. -/
def start (maxDepth : Nat) (input : Json) (children : Siblings Action) : Except RunError Json := do
  let w ← rootWalk maxDepth none
  let output ← runBranch children (.literal rootKey) rootKey input w
  .ok (output.getD input)

private theorem start_agree (maxDepth : Nat) (input : Json) {s : Siblings α}
    (agree : ∀ child ∈ s.all, Agree [1, 1] child.1 (f child.1 child.2) (g child.1 child.2)) :
    start maxDepth input (s.map f) = start maxDepth input (s.map g) := by
  refine Outcome.bind_congr_of_ok fun w entered => ?_
  have branch : Agree [1] (.literal rootKey) (runBranch (s.map f)) (runBranch (s.map g)) :=
    runBranch_agree agree
  rw [branch rootKey input w (Walk.shape_push entered)]

/-- The runner of a cardinality of an input. Its leaves evaluate nothing. -/
def runner (maxDepth : Nat) (input : Json) : Runner Unit Relation where
  Action := Action
  Args := String × Json
  Answer := Option Json
  Query := Unit
  Reply := Unit
  call act element args w := act element args.1 args.2 w
  action act element key value w := act element (key, value) w
  evaluate _ _ _ := .ok ()
  leaf relation _ := runLeaf relation
  branch _ := runBranch
  base := [1, 1]
  start := start maxDepth input

theorem runner_lawful (maxDepth : Nat) (input : Json) :
    (Layout.shapes (runner maxDepth input)).Lawful where
  call_action _ := rfl
  leaf _ _ _ _ := fun _ _ _ => rfl
  branch _ _ _ _ _ agree := fun args w shaped =>
    runBranch_agree (fun child present key value w deeper =>
      agree child present (key, value) w deeper) args.1 args.2 w shaped
  start _ _ _ _ agree := start_agree maxDepth input fun child present key value w shaped =>
    agree child present (key, value) w shaped

theorem apply_eq (t : Cardinality) (input : Json) :
    t.apply input = (runner t.maxDepth input).start
      (t.children.map fun _ child => (runner t.maxDepth input).run child) := by
  rw [apply, run, Tree.fold_branch, Siblings.foldSiblings_eq_map]
  rfl

end Reshape.Transform.Cardinality
