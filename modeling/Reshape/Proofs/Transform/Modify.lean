import Reshape.Proofs.Transform.Runner
import Reshape.Transform.Modify

namespace Reshape.Transform.Modify

open Key Spec

/-- A modify from the shape and the children at the top of its spec. -/
def start (maxDepth : Nat) (mode : WriteMode) (declared : Shape) (input : Json)
    (children : Siblings Action) : Except RunError Json := do
  let snapshot := wrap input
  let w ← rootWalk maxDepth (some snapshot)
  let output ← runBranch mode declared children (.literal rootKey) (.member rootKey)
    (some snapshot) w snapshot
  .ok (unwrap (output.getD snapshot))

def runner (maxDepth : Nat) (mode : WriteMode) (declared : Shape) (context input : Json) :
    Runner Shape Formula where
  Action := Action
  Args := Slot × Option Json × Json
  Answer := Option Json
  Query := Option Json
  Reply := Option Json
  call act element args w := act element args.1 args.2.1 w args.2.2
  action act element slot snapshot w parent := act element (slot, snapshot, parent) w
  evaluate formula w current := formula.evaluate w context current
  leaf _ compute := runLeafWith mode compute
  branch := runBranch mode
  base := [1, 1]
  start := start maxDepth mode declared input

theorem apply_eq (t : Modify) (context input : Json) :
    t.apply context input = (runner t.maxDepth t.mode t.shape context input).start
      (t.children.map fun _ child =>
        (runner t.maxDepth t.mode t.shape context input).run child) := by
  rw [apply, run, Tree.fold_branch, Siblings.foldSiblings_eq_map]
  rfl

/-- A node is entered: what was there before the stage, and on which walk. -/
def Enters (element : Element) (slot : Slot) (snapshot : Option Json) (w : Walk)
    (before : Option Json) (inner : Walk) : Prop :=
  ∃ matched, element.match? w slot.key = .ok (some matched) ∧ before = snapshot.bind slot.child? ∧
    w.push before matched = .ok inner

variable {maxDepth : Nat} {mode : WriteMode} {declared : Shape} {context input : Json}

/-- What a layout knows where nodes act is enough to know what holds inside of a node, of
what was there before and of the walk, and from that what the layout knows of its children. -/
structure Carries (k : Layout (runner maxDepth mode declared context input))
    (inside : Position → Option Json → Walk → Prop) : Prop where
  root : ∀ {w before inner}, rootWalk maxDepth (some (wrap input)) = .ok w →
    Enters (.literal rootKey) (.member rootKey) (some (wrap input)) w before inner →
    inside [] before inner
  enter : ∀ {outer element slot snapshot parent w before inner},
    k.acts outer element (slot, snapshot, parent) w → Enters element slot snapshot w before inner →
    inside (element :: outer) before inner
  visits : ∀ {α : Type} {s : Siblings α} {position before node w}, k.admits s →
    inside position before w → ∀ visit ∈ s.visits true node, ∀ child ∈ visit.candidates,
      ∀ parent, k.acts position child.1 (visit.slot, before, parent) w
  leaf : ∀ {position before w}, inside position before w → k.evaluates position w

variable {k : Layout (runner maxDepth mode declared context input)}
variable {inside : Position → Option Json → Walk → Prop}
variable {α : Type} {f g : Element → α → Action} {position : Position} {w : Walk}
variable {slot : Slot} {snapshot : Option Json}

private theorem offer_agree {children : List (Element × α)} {parent : Json}
    (agree : ∀ child ∈ children, k.Agrees position child.1 (f child.1 child.2) (g child.1 child.2))
    (known : ∀ child ∈ children, k.acts position child.1 (slot, snapshot, parent) w) :
    offer slot snapshot w parent (children.map fun child => (child.1, f child.1 child.2)) =
      offer slot snapshot w parent (children.map fun child => (child.1, g child.1 child.2)) := by
  induction children with
  | nil => rfl
  | cons child rest ih =>
    obtain ⟨first, later⟩ := List.forall_mem_cons.mp agree
    obtain ⟨here, others⟩ := List.forall_mem_cons.mp known
    have same : f child.1 child.2 child.1 slot snapshot w parent =
        g child.1 child.2 child.1 slot snapshot w parent := first (slot, snapshot, parent) w here
    simp only [List.map_cons, offer, same]
    congr 1
    funext handled
    cases handled with
    | none => exact ih later others
    | some changed => rfl

private theorem runVisits_agree {visits : List (Visit α)}
    (agree : ∀ visit ∈ visits, ∀ child ∈ visit.candidates,
      k.Agrees position child.1 (f child.1 child.2) (g child.1 child.2))
    (known : ∀ visit ∈ visits, ∀ child ∈ visit.candidates, ∀ parent,
      k.acts position child.1 (visit.slot, snapshot, parent) w) (node : Json) :
    runVisits snapshot w (visits.map (Visit.map f)) node =
      runVisits snapshot w (visits.map (Visit.map g)) node := by
  induction visits generalizing node with
  | nil => rfl
  | cons visit rest ih =>
    obtain ⟨first, later⟩ := List.forall_mem_cons.mp agree
    obtain ⟨here, others⟩ := List.forall_mem_cons.mp known
    have same := offer_agree first fun child present => here child present node
    simp only [List.map_cons, runVisits, Visit.map, same]
    congr 1
    funext changed
    exact ih later others (changed.getD node)

private theorem runBranch_agree (carries : Carries k inside) {own : Shape} {element : Element}
    {s : Siblings α} (admitted : k.admits s)
    (agree : ∀ child ∈ s.all, k.Agrees position child.1 (f child.1 child.2) (g child.1 child.2))
    (entered : ∀ {before inner}, Enters element slot snapshot w before inner →
      inside position before inner) (parent : Json) :
    runBranch mode own (s.map f) element slot snapshot w parent =
      runBranch mode own (s.map g) element slot snapshot w parent := by
  refine Outcome.bind_congr_of_ok fun found matching => ?_
  cases found with
  | none => rfl
  | some matched =>
    dsimp only
    cases slot.child? (prepare mode own slot (sizeBefore w) parent) with
    | none => rfl
    | some node =>
      by_cases accepted : own.accepts node = true
      · simp only [if_pos accepted]
        refine Outcome.bind_congr_of_ok fun inner pushed => ?_
        have holds := entered ⟨matched, matching, rfl, pushed⟩
        have visits := runVisits_agree (Siblings.forall_visits agree true node)
          (carries.visits admitted holds) node
        simp only [Siblings.visits_map, visits]
      · simp only [if_neg accepted]

private theorem runLeafWith_agree (carries : Carries k inside) {element : Element}
    {outer : Position} {compute other : Walk → Option Json → Except RunError (Option Json)}
    (agree : ∀ w current, k.evaluates (element :: outer) w → compute w current = other w current)
    {parent : Json} (known : k.acts outer element (slot, snapshot, parent) w) :
    runLeafWith mode compute element slot snapshot w parent =
      runLeafWith mode other element slot snapshot w parent := by
  refine Outcome.bind_congr_of_ok fun found matching => ?_
  cases found with
  | none => rfl
  | some matched =>
    refine Outcome.bind_congr_of_ok fun inner pushed => ?_
    have holds := carries.enter known ⟨matched, matching, rfl, pushed⟩
    simp only [agree inner _ (carries.leaf holds)]

/-- A layout that is carried from nodes to their children holds in all runs. -/
theorem Carries.lawful (carries : Carries k inside) : k.Lawful where
  call_action _ := rfl
  leaf _ _ _ agree := fun _ _ known => runLeafWith_agree carries agree known
  branch _ _ _ _ admitted agree := fun args _ known =>
    runBranch_agree carries admitted agree (carries.enter known) args.2.2
  start s f g admitted agree := by
    refine Outcome.bind_congr_of_ok fun w entered => ?_
    have branch : runBranch mode declared (s.map f) (.literal rootKey) (.member rootKey)
          (some (wrap input)) w (wrap input) =
        runBranch mode declared (s.map g) (.literal rootKey) (.member rootKey)
          (some (wrap input)) w (wrap input) :=
      runBranch_agree carries admitted agree (carries.root entered) (wrap input)
    exact congrArg (· >>= _) branch

private theorem shape_enters {element : Element} {before : Option Json} {inner : Walk}
    (entered : Enters element slot snapshot w before inner) :
    inner.shape = element.groups w.shape :: w.shape := by
  obtain ⟨matched, matching, -, pushed⟩ := entered
  exact Element.shape_push matching pushed

/-- The shapes of walks are carried along. -/
theorem carries_shapes (maxDepth : Nat) (mode : WriteMode) (declared : Shape)
    (context input : Json) :
    Carries (Layout.shapes (runner maxDepth mode declared context input)) fun position _ w =>
      w.shape = insideShape [1, 1] position where
  root started entered := by
    rw [shape_enters entered, Walk.shape_push started]
    rfl
  enter known entered := by
    have shaped : _ = insideShape [1, 1] _ := known
    rw [shape_enters entered, shaped]
    rfl
  visits _ known := fun _ _ _ _ _ => known
  leaf known := known

theorem runner_lawful (maxDepth : Nat) (mode : WriteMode) (declared : Shape)
    (context input : Json) :
    (Layout.shapes (runner maxDepth mode declared context input)).Lawful :=
  (carries_shapes maxDepth mode declared context input).lawful

end Reshape.Transform.Modify
