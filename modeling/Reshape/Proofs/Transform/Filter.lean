import Reshape.Proofs.Transform.Runner
import Reshape.Transform.Filter

namespace Reshape.Transform.Filter

open Key Spec

/-- Two judges say the same about an element on all walks of a shape. -/
def Agree (shape : List Nat) (element : Element) (f g : Judge) : Prop :=
  ∀ key value w, w.shape = shape → f element key value w = g element key value w

variable {α : Type} {shape : List Nat} {f g : Element → α → Judge}

private theorem ask_agree {element : Element} {first second : Judge}
    (agree : Agree shape element first second) (slot : Slot) {w : Walk} (shaped : w.shape = shape)
    (s : Sifted) : s.ask slot w element first = s.ask slot w element second := by
  unfold Sifted.ask
  cases slot.child? s.node with
  | none => rfl
  | some value => exact agree slot.key value w shaped

private theorem offer_agree {children : List (Element × α)}
    (agree : ∀ child ∈ children, Agree shape child.1 (f child.1 child.2) (g child.1 child.2))
    (slot : Slot) {w : Walk} (shaped : w.shape = shape) (s : Sifted) :
    offer slot w s (children.map fun child => (child.1, f child.1 child.2)) =
      offer slot w s (children.map fun child => (child.1, g child.1 child.2)) := by
  induction children with
  | nil => rfl
  | cons child rest ih =>
    obtain ⟨first, later⟩ := List.forall_mem_cons.mp agree
    simp only [List.map_cons, offer, ask_agree first slot shaped s]
    congr 1
    funext verdict
    cases verdict with
    | unmatched => exact ih later
    | keep value => rfl
    | drop => rfl

private theorem runVisits_agree {visits : List (Visit α)}
    (agree : ∀ visit ∈ visits, ∀ child ∈ visit.candidates,
      Agree shape child.1 (f child.1 child.2) (g child.1 child.2))
    {w : Walk} (shaped : w.shape = shape) (s : Sifted) :
    runVisits w (visits.map (Visit.map f)) s = runVisits w (visits.map (Visit.map g)) s := by
  induction visits generalizing s with
  | nil => rfl
  | cons visit rest ih =>
    obtain ⟨first, later⟩ := List.forall_mem_cons.mp agree
    simp only [List.map_cons, runVisits, Visit.map, offer_agree first _ shaped]
    congr 1
    funext verdict
    exact ih later (s.take visit.slot verdict)

theorem sift_agree {s : Siblings α}
    (agree : ∀ child ∈ s.all, Agree shape child.1 (f child.1 child.2) (g child.1 child.2))
    {w : Walk} (shaped : w.shape = shape) (node : Json) :
    sift (s.map f) w node = sift (s.map g) w node := by
  have visits := runVisits_agree (Siblings.forall_visits agree false node) shaped ⟨node, []⟩
  simp only [sift, Siblings.visits_map, visits]

theorem judgeBranch_agree {element : Element} {s : Siblings α}
    (agree : ∀ child ∈ s.all,
      Agree (element.groups shape :: shape) child.1 (f child.1 child.2) (g child.1 child.2)) :
    Agree shape element (judgeBranch () (s.map f)) (judgeBranch () (s.map g)) := by
  intro key value w shaped
  refine Outcome.bind_congr_of_ok fun found matching => ?_
  cases found with
  | none => rfl
  | some matched =>
    refine Outcome.bind_congr_of_ok fun inner entered => ?_
    have deeper := Element.shape_push matching entered
    rw [shaped] at deeper
    simp only [sift_agree agree deeper value]

private theorem judgeLeafWith_agree {element : Element}
    {test other : Walk → Json → Except RunError Bool}
    (agree : ∀ w value, w.shape = element.groups shape :: shape → test w value = other w value) :
    Agree shape element (judgeLeafWith test) (judgeLeafWith other) := by
  intro key value w shaped
  refine Outcome.bind_congr_of_ok fun found matching => ?_
  cases found with
  | none => rfl
  | some matched =>
    refine Outcome.bind_congr_of_ok fun inner entered => ?_
    have deeper := Element.shape_push matching entered
    rw [shaped] at deeper
    simp only [agree inner value deeper]

/-- A filter from the children at the top of its spec. -/
def start (maxDepth : Nat) (input : Json) (children : Siblings Judge) : Except RunError Json := do
  let w ← rootWalk maxDepth none
  sift children w input

private theorem start_agree (maxDepth : Nat) (input : Json) {s : Siblings α}
    (agree : ∀ child ∈ s.all, Agree [1] child.1 (f child.1 child.2) (g child.1 child.2)) :
    start maxDepth input (s.map f) = start maxDepth input (s.map g) := by
  refine Outcome.bind_congr_of_ok fun w entered => ?_
  exact sift_agree agree (Walk.shape_push entered) input

def runner (maxDepth : Nat) (input : Json) : Runner Unit (List Predicate) where
  Action := Judge
  Args := String × Json
  Answer := Verdict
  Query := Json
  Reply := Bool
  call act element args w := act element args.1 args.2 w
  action act element key value w := act element (key, value) w
  evaluate predicates w value := satisfies w value predicates
  leaf _ test := judgeLeafWith test
  branch := judgeBranch
  base := [1]
  start := start maxDepth input

theorem runner_lawful (maxDepth : Nat) (input : Json) :
    (Layout.shapes (runner maxDepth input)).Lawful where
  call_action _ := rfl
  leaf _ _ _ agree := fun args w shaped => judgeLeafWith_agree agree args.1 args.2 w shaped
  branch _ _ _ _ _ agree := fun args w shaped =>
    judgeBranch_agree (fun child present key value w deeper =>
      agree child present (key, value) w deeper) args.1 args.2 w shaped
  start _ _ _ _ agree := start_agree maxDepth input fun child present key value w shaped =>
    agree child present (key, value) w shaped

theorem apply_eq (t : Filter) (input : Json) :
    t.apply input = (runner t.maxDepth input).start
      (t.children.map fun _ child => (runner t.maxDepth input).run child) := by
  rw [apply, judges, Siblings.foldSiblings_eq_map]
  rfl

end Reshape.Transform.Filter
