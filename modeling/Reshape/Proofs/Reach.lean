import Reshape.Chain
import Reshape.Proofs.Transform.Cardinality
import Reshape.Proofs.Transform.Filter
import Reshape.Proofs.Transform.Modify
import Reshape.Proofs.Transform.Shift

namespace Reshape.Stage

open Key Transform Transform.Runner

/-- A run of a stage while stops are set; stages without walks have no stops. -/
def runWatched (stops : Stops) (context input : Json) : Stage → Except RunError Json
  | shift t => (Shift.runner t.maxDepth input).runWatched stops t.children
  | cardinality t => (Cardinality.runner t.maxDepth input).runWatched stops t.children
  | filter t => (Filter.runner t.maxDepth input).runWatched stops t.children
  | modify t => (Modify.runner t.maxDepth t.mode t.shape context input).runWatched stops t.children
  | other => other.apply context input

/-- The shape of the walks on which the children at the top of a stage are matched. -/
def base : Stage → List Nat
  | filter _ => [1]
  | _ => [1, 1]

/-- A run of a stage comes to a node on a walk: every error that is set there is what the
run ends with. -/
def Reaches (t : Stage) (context input : Json) (position : Position) (moment : Moment)
    (w : Walk) : Prop :=
  ∀ e, t.runWatched (stopAt position moment w e) context input = .error e

variable {t : Stage} {context input : Json} {position : Position} {moment : Moment} {w : Walk}

/-- Stops on walks of other shapes than the stage has at a node change no run. -/
theorem runWatched_quiet {stops : Stops} (quiet : Quiet t.base stops) :
    t.runWatched stops context input = t.apply context input := by
  cases t with
  | shift t =>
    rw [apply, Shift.apply_eq]
    exact Runner.runWatched_quiet (Shift.runner_lawful t.maxDepth input) quiet t.children
  | cardinality t =>
    rw [apply, Cardinality.apply_eq]
    exact Runner.runWatched_quiet (Cardinality.runner_lawful t.maxDepth input) quiet t.children
  | filter t =>
    rw [apply, Filter.apply_eq]
    exact Runner.runWatched_quiet (Filter.runner_lawful t.maxDepth input) quiet t.children
  | modify t =>
    rw [apply, Modify.apply_eq]
    exact Runner.runWatched_quiet
      (Modify.runner_lawful t.maxDepth t.mode t.shape context input) quiet t.children
  | default t => rfl
  | remove t => rfl
  | sort => rfl

private theorem shape_of_reaches (reaches : t.Reaches context input position moment w) :
    w.shape = shapeAt t.base position moment := by
  by_contra other
  have unchanged (e : RunError) : t.apply context input = .error e := by
    rw [← runWatched_quiet (quiet_stopAt other e)]
    exact reaches e
  -- one run can not end with two errors
  have first := unchanged (.outOfRange "" 0 0)
  rw [unchanged (.outOfRange "" 0 1)] at first
  cases first

/-- Without stops a watched run is the run of the stage. At a node and a moment all runs
of a stage have walks of one shape, told by the elements that lead to the node, and so a
reference that is out of range there in one run is so in all of them, with one error. -/
theorem reached_walks (t : Stage) (position : Position) (moment : Moment) :
    (∀ context input, t.runWatched (fun _ _ _ => none) context input = t.apply context input) ∧
    (∀ context input w, t.Reaches context input position moment w →
      w.shape = shapeAt t.base position moment) ∧
    ∀ context input w, t.Reaches context input position moment w →
      ∀ context' input' w', t.Reaches context' input' position moment w' →
        Walk.SameRange w w' := by
  refine ⟨?same, ?shape, ?range⟩
  case same =>
    intro context input
    exact runWatched_quiet fun _ _ _ _ => rfl
  case shape =>
    intro context input w reaches
    exact shape_of_reaches reaches
  case range =>
    intro context input w reaches context' input' w' reaches'
    apply Walk.SameRange.of_shape
    rw [shape_of_reaches reaches, shape_of_reaches reaches']

/-- A shift that looks at one key and writes nothing. -/
def glance : Stage :=
  .shift ⟨64, ⟨[("a", .leaf [])], [], [], .literalsOnly⟩⟩

/-- The walk on which it matches the key of an object. -/
def glanceWalk (doc : Json) : Walk :=
  ⟨66, [⟨.ofKey rootKey, some doc, doc.arrayLength?⟩, ⟨.ofKey rootKey, some doc, doc.arrayLength?⟩]⟩

private theorem reaches_glance (value : Json) :
    glance.Reaches .null (.obj [("a", value)]) [.literal "a"] .matching
      (glanceWalk (.obj [("a", value)])) := by
  intro e
  have stopped := stopAt_self [.literal "a"] .matching (glanceWalk (.obj [("a", value)])) e
  generalize stopAt [.literal "a"] .matching (glanceWalk (.obj [("a", value)])) e = stops
    at stopped ⊢
  have entered : rootWalk 64 (some (.obj [("a", value)])) =
      .ok ⟨66, [⟨.ofKey rootKey, some (.obj [("a", value)]), none⟩]⟩ := rfl
  have matched (w : Walk) :
      Element.match? w rootKey (.literal rootKey) = .ok (some (.ofKey rootKey)) := rfl
  have pushed : (Walk.mk 66 [⟨.ofKey rootKey, some (.obj [("a", value)]), none⟩]).push
      (some (.obj [("a", value)])) (.ofKey rootKey) = .ok (glanceWalk (.obj [("a", value)])) := rfl
  simp only [glance, runWatched, Runner.runWatched]
  unfold Shift.runner
  simp only [Shift.start, entered, Outcome.ok_bind, Shift.runBranch, matched, Shift.branchData,
    pushed]
  simp [Spec.Siblings.map, Shift.runSpecial, Spec.Siblings.visits, Spec.Siblings.literalVisits,
    Spec.Siblings.literalVisit, Spec.Slot.ofPresent?, Members.has, Members.get?, Spec.Slot.member,
    Shift.runVisits, Shift.offer, watched_leaf, guarded, Spec.Slot.child?, stopped]

/-- Two inputs come to one node on walks of one shape. -/
theorem reached_walks_glance :
    glance.Reaches .null (.obj [("a", .null)]) [.literal "a"] .matching
      (glanceWalk (.obj [("a", .null)])) ∧
    glance.Reaches .null (.obj [("a", .bool true)]) [.literal "a"] .matching
      (glanceWalk (.obj [("a", .bool true)])) ∧
    (glanceWalk (.obj [("a", .null)])).shape = [1, 1] ∧
    Walk.SameRange (glanceWalk (.obj [("a", .null)])) (glanceWalk (.obj [("a", .bool true)])) := by
  obtain ⟨-, shape, range⟩ := reached_walks glance [.literal "a"] .matching
  exact ⟨reaches_glance .null, reaches_glance (.bool true), shape _ _ _ (reaches_glance .null),
    range _ _ _ (reaches_glance .null) _ _ _ (reaches_glance (.bool true))⟩

end Reshape.Stage
