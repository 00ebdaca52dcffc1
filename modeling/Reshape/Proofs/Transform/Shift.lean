import Reshape.Proofs.Transform.Runner
import Reshape.Transform.Shift

namespace Reshape.Transform.Shift

open Key Spec

/-- A shift from the children at the top of its spec. -/
def start (maxDepth : Nat) (input : Json) (children : Siblings Action) : Except RunError Json := do
  let w ← rootWalk maxDepth (some input)
  let (_, output) ← runBranch children (.literal rootKey) rootKey (some input) w Json.emptyObject
  .ok (unwrap output)

def runner (maxDepth : Nat) (input : Json) : Runner Unit (List Path) where
  Action := Action
  Args := String × Option Json × Json
  Answer := Bool × Json
  Query := Json × Json
  Reply := Json
  call act element args w := act element args.1 args.2.1 w args.2.2
  action act element key data w output := act element (key, data, output) w
  evaluate paths w query := writeAll w query.1 paths query.2
  leaf _ write := runLeafWith fun w value output => write w (value, output)
  branch _ := runBranch
  base := [1, 1]
  start := start maxDepth input

theorem apply_eq (t : Shift) (input : Json) :
    t.apply input = (runner t.maxDepth input).start
      (t.children.map fun _ child => (runner t.maxDepth input).run child) := by
  rw [apply, run, Tree.fold_branch, Siblings.foldSiblings_eq_map]
  rfl

/-- A branch is entered: what data it goes on with, and on which walk. -/
def Enters (element : Element) (key : String) (data : Option Json) (w : Walk)
    (below : Option Json) (inner : Walk) : Prop :=
  ∃ matched, element.match? w key = .ok (some matched) ∧
    branchData element data w = .ok (some below) ∧ w.push below matched = .ok inner

variable {maxDepth : Nat} {input : Json}

/-- What a layout knows where nodes act is enough to know what holds inside of a branch, of
the data below it and of the walk, and from that what the layout knows of its children. -/
structure Carries (k : Layout (runner maxDepth input))
    (inside : Position → Option Json → Walk → Prop) : Prop where
  root : ∀ {w below inner}, rootWalk maxDepth (some input) = .ok w →
    Enters (.literal rootKey) rootKey (some input) w below inner → inside [] below inner
  enter : ∀ {outer element key data output w below inner},
    k.acts outer element (key, data, output) w → Enters element key data w below inner →
    inside (element :: outer) below inner
  counted : ∀ {position below w}, inside position below w → inside position below w.counted
  special : ∀ {α : Type} {s : Siblings α} {position below w}, k.admits s → inside position below w →
    ∀ child ∈ s.special, ∀ key output, k.acts position child.1 (key, below, output) w
  visits : ∀ {α : Type} {s : Siblings α} {position node w}, k.admits s →
    inside position (some node) w → ∀ visit ∈ s.visits false node, ∀ child ∈ visit.candidates,
      ∀ output, k.acts position child.1 (visit.slot.key, visit.slot.child? node, output) w
  leaf : ∀ {outer element key data output w matched inner},
    k.acts outer element (key, data, output) w → element.match? w key = .ok (some matched) →
    w.push data matched = .ok inner → k.evaluates (element :: outer) inner

variable {k : Layout (runner maxDepth input)} {inside : Position → Option Json → Walk → Prop}
variable {α : Type} {f g : Element → α → Action} {position : Position} {w : Walk}
variable {key : String} {data : Option Json}

theorem Carries.countIf (carries : Carries k inside) {below : Option Json}
    (known : inside position below w) (handled : Bool) :
    inside position below (countIf handled w) := by
  cases handled with
  | false => exact known
  | true => exact carries.counted known

private theorem offer_agree {children : List (Element × α)}
    (agree : ∀ child ∈ children, k.Agrees position child.1 (f child.1 child.2) (g child.1 child.2))
    (known : ∀ child ∈ children, ∀ output, k.acts position child.1 (key, data, output) w)
    (output : Json) :
    offer key data w (children.map fun child => (child.1, f child.1 child.2)) output =
      offer key data w (children.map fun child => (child.1, g child.1 child.2)) output := by
  induction children generalizing output with
  | nil => rfl
  | cons child rest ih =>
    obtain ⟨first, later⟩ := List.forall_mem_cons.mp agree
    obtain ⟨here, others⟩ := List.forall_mem_cons.mp known
    have same : f child.1 child.2 child.1 key data w output =
        g child.1 child.2 child.1 key data w output :=
      first (key, data, output) w (here output)
    simp only [List.map_cons, offer, same]
    congr 1
    funext ⟨handled, written⟩
    cases handled with
    | false => exact ih later others written
    | true => rfl

theorem runSpecial_agree (carries : Carries k inside) {children : List (Element × α)}
    (agree : ∀ child ∈ children, k.Agrees position child.1 (f child.1 child.2) (g child.1 child.2))
    (known : ∀ w, inside position data w → ∀ child ∈ children, ∀ output,
      k.acts position child.1 (key, data, output) w)
    (holds : inside position data w) (output : Json) :
    runSpecial key data (children.map fun child => (child.1, f child.1 child.2)) w output =
      runSpecial key data (children.map fun child => (child.1, g child.1 child.2)) w output := by
  induction children generalizing w output with
  | nil => rfl
  | cons child rest ih =>
    obtain ⟨first, later⟩ := List.forall_mem_cons.mp agree
    have same : f child.1 child.2 child.1 key data w output =
        g child.1 child.2 child.1 key data w output :=
      first (key, data, output) w (known w holds child List.mem_cons_self output)
    simp only [List.map_cons, runSpecial, same]
    congr 1
    funext ⟨handled, written⟩
    refine ih later (fun w holds child present => ?_) (carries.countIf holds handled) written
    exact known w holds child (List.mem_cons_of_mem _ present)

private theorem runVisits_agree (carries : Carries k inside) {node : Json} {visits : List (Visit α)}
    (agree : ∀ visit ∈ visits, ∀ child ∈ visit.candidates,
      k.Agrees position child.1 (f child.1 child.2) (g child.1 child.2))
    (known : ∀ w, inside position (some node) w → ∀ visit ∈ visits, ∀ child ∈ visit.candidates,
      ∀ output, k.acts position child.1 (visit.slot.key, visit.slot.child? node, output) w)
    (holds : inside position (some node) w) (output : Json) :
    runVisits node (visits.map (Visit.map f)) w output =
      runVisits node (visits.map (Visit.map g)) w output := by
  induction visits generalizing w output with
  | nil => rfl
  | cons visit rest ih =>
    obtain ⟨first, later⟩ := List.forall_mem_cons.mp agree
    have same := offer_agree first (known w holds visit List.mem_cons_self) output
    simp only [List.map_cons, runVisits, Visit.map, same]
    congr 1
    funext answer
    obtain ⟨handled, written⟩ := answer
    refine ih later (fun w holds visit present => ?_) (carries.countIf holds handled) written
    exact known w holds visit (List.mem_cons_of_mem _ present)

/-- Specials do nothing to a walk but count. -/
theorem inside_runSpecial (carries : Carries k inside) {children : List (Element × Action)}
    {below : Option Json} {inner : Walk} {output written : Json} (holds : inside position below w)
    (ran : runSpecial key data children w output = .ok (inner, written)) :
    inside position below inner := by
  induction children generalizing w output with
  | nil =>
    cases ran
    exact holds
  | cons child rest ih =>
    obtain ⟨⟨handled, middle⟩, -, ran⟩ := Outcome.bind_eq_ok.mp ran
    exact ih (carries.countIf holds handled) ran

private theorem runBranch_agree (carries : Carries k inside) {element : Element} {s : Siblings α}
    (admitted : k.admits s)
    (agree : ∀ child ∈ s.all, k.Agrees position child.1 (f child.1 child.2) (g child.1 child.2))
    (entered : ∀ {below inner}, Enters element key data w below inner → inside position below inner)
    (output : Json) :
    runBranch (s.map f) element key data w output =
      runBranch (s.map g) element key data w output := by
  refine Outcome.bind_congr_of_ok fun found matching => ?_
  cases found with
  | none => rfl
  | some matched =>
    refine Outcome.bind_congr_of_ok fun source going => ?_
    cases source with
    | none => rfl
    | some below =>
      refine Outcome.bind_congr_of_ok fun inner pushed => ?_
      have holds := entered ⟨matched, matching, going, pushed⟩
      have specials : runSpecial key below (s.map f).special inner output =
          runSpecial key below (s.map g).special inner output :=
        runSpecial_agree carries (Siblings.forall_special agree)
          (fun w holds child present => carries.special admitted holds child present key)
          holds output
      rw [specials]
      refine Outcome.bind_congr_of_ok fun (after, written) ran => ?_
      cases below with
      | none => rfl
      | some node =>
        have visits := runVisits_agree carries (Siblings.forall_visits agree false node)
          (fun w holds => carries.visits admitted holds) (inside_runSpecial carries holds ran)
          written
        simp only [Siblings.visits_map, visits]

private theorem runLeafWith_agree (carries : Carries k inside) {element : Element}
    {outer : Position} {f g : Walk → Json → Json → Except RunError Json}
    (agree : ∀ w value output, k.evaluates (element :: outer) w →
      f w value output = g w value output)
    {output : Json} (known : k.acts outer element (key, data, output) w) :
    runLeafWith f element key data w output = runLeafWith g element key data w output := by
  refine Outcome.bind_congr_of_ok fun found matching => ?_
  cases found with
  | none => rfl
  | some matched =>
    refine Outcome.bind_congr_of_ok fun source _ => ?_
    cases source with
    | none => rfl
    | some held =>
      refine Outcome.bind_congr_of_ok fun inner entered => ?_
      obtain ⟨written, counts⟩ := held
      cases written with
      | none => rfl
      | some value =>
        exact congrArg (· >>= _) (agree inner value output (carries.leaf known matching entered))

/-- A layout that is carried from nodes to their children holds in all runs. -/
theorem Carries.lawful (carries : Carries k inside) : k.Lawful where
  call_action _ := rfl
  leaf _ _ _ agree := fun _ _ known =>
    runLeafWith_agree carries (fun w value output => agree w (value, output)) known
  branch _ _ _ _ admitted agree := fun args _ known =>
    runBranch_agree carries admitted agree (carries.enter known) args.2.2
  start s f g admitted agree := by
    refine Outcome.bind_congr_of_ok fun w entered => ?_
    have branch := runBranch_agree carries admitted agree (carries.root entered) Json.emptyObject
    exact congrArg (· >>= _) branch

private theorem shape_enters {element : Element} {below : Option Json} {inner : Walk}
    (entered : Enters element key data w below inner) :
    inner.shape = element.groups w.shape :: w.shape := by
  obtain ⟨matched, matching, -, pushed⟩ := entered
  exact Element.shape_push matching pushed

/-- The shapes of walks are carried along. -/
theorem carries_shapes (maxDepth : Nat) (input : Json) :
    Carries (Layout.shapes (runner maxDepth input)) fun position _ w =>
      w.shape = insideShape [1, 1] position where
  root started entered := by
    rw [shape_enters entered, Walk.shape_push started]
    rfl
  enter known entered := by
    have shaped : _ = insideShape [1, 1] _ := known
    rw [shape_enters entered, shaped]
    rfl
  counted known := (Walk.shape_counted _).trans known
  special _ known := fun _ _ _ _ => known
  visits _ known := fun _ _ _ _ _ => known
  leaf known matching entered := by
    have shaped : _ = insideShape [1, 1] _ := known
    have deeper := Element.shape_push matching entered
    rw [shaped] at deeper
    exact deeper

theorem runner_lawful (maxDepth : Nat) (input : Json) :
    (Layout.shapes (runner maxDepth input)).Lawful :=
  (carries_shapes maxDepth input).lawful

end Reshape.Transform.Shift
