import Reshape.Proofs.Spec.Nesting
import Reshape.Proofs.WalkShape

/-! On which walks the nodes of a compiled spec are asked. A run is watched by stops: where
a stop is set, at a node and on a walk, the run fails instead of going on. A layout tells
what the walks are like where a node is asked, so stops on other walks are never noticed.
The shapes of the walks, which the elements that lead to a node tell, are one layout. -/

namespace Reshape.Transform

open Key Spec

/-- Where a node stands in a spec: the elements that lead to it, its own first. -/
abbrev Position := List Element

/-- What is done with a node on a walk. -/
inductive Moment where
  /-- Its key is matched. -/
  | matching
  /-- What its leaf holds is evaluated, on the walk that goes one level further in. -/
  | evaluating
deriving DecidableEq, Repr

/-- The shape of the walks below a node, from the shape above the whole spec. -/
def insideShape (base : List Nat) : Position → List Nat
  | [] => base
  | element :: outer => element.groups (insideShape base outer) :: insideShape base outer

/-- The shape of the walks on which something is done with a node. -/
def shapeAt (base : List Nat) (position : Position) : Moment → List Nat
  | .matching => insideShape base position.tail
  | .evaluating => insideShape base position

/-- How a run of a compiled spec is made of what its nodes do. A node acts on an element,
on arguments that depend on the kind of spec, and on a walk; what a leaf holds is
evaluated on a walk and a query. -/
structure Runner (B L : Type) where
  Action : Type
  Args : Type
  Answer : Type
  Query : Type
  Reply : Type
  call : Action → Element → Args → Walk → Except RunError Answer
  action : (Element → Args → Walk → Except RunError Answer) → Action
  evaluate : L → Walk → Query → Except RunError Reply
  leaf : L → (Walk → Query → Except RunError Reply) → Action
  branch : B → Siblings Action → Action
  base : List Nat
  start : Siblings Action → Except RunError Json

namespace Runner

variable {B L : Type} (r : Runner B L)

def run : Tree B L → r.Action :=
  Tree.fold (fun value => r.leaf value (r.evaluate value)) r.branch

end Runner

/-- What is known where a run asks the nodes of a spec: which siblings there are, with which
arguments and on which walks a node acts inside some elements, and on which walks what a
leaf holds is evaluated. -/
structure Layout {B L : Type} (r : Runner B L) where
  admits : {α : Type} → Siblings α → Prop
  acts : Position → Element → r.Args → Walk → Prop
  evaluates : Position → Walk → Prop

namespace Layout

variable {B L : Type} {r : Runner B L} (k : Layout r)

/-- Two actions do the same for an element where a node acts inside some elements. -/
def Agrees (outer : Position) (element : Element) (f g : r.Action) : Prop :=
  ∀ args w, k.acts outer element args w → r.call f element args w = r.call g element args w

/-- A layout holds in all runs: what a runner does where a node acts depends only on what is
done with leaves and children where the layout lets them be asked. -/
structure Lawful : Prop where
  call_action : ∀ f, r.call (r.action f) = f
  leaf : ∀ {outer element} value f g,
    (∀ w query, k.evaluates (element :: outer) w → f w query = g w query) →
    k.Agrees outer element (r.leaf value f) (r.leaf value g)
  branch : ∀ {α : Type} {outer element} info (s : Siblings α) f g, k.admits s →
    (∀ child ∈ s.all, k.Agrees (element :: outer) child.1
      (f child.1 child.2) (g child.1 child.2)) →
    k.Agrees outer element (r.branch info (s.map f)) (r.branch info (s.map g))
  start : ∀ {α : Type} (s : Siblings α) f g, k.admits s →
    (∀ child ∈ s.all, k.Agrees [] child.1 (f child.1 child.2) (g child.1 child.2)) →
    r.start (s.map f) = r.start (s.map g)

/-- What is known when something is done with a node. -/
def Knows (k : Layout r) : Position → Moment → Walk → Prop
  | [], _, _ => False
  | element :: outer, .matching, w => ∃ args, k.acts outer element args w
  | element :: outer, .evaluating, w => k.evaluates (element :: outer) w

end Layout

namespace Runner

variable {B L : Type} (r : Runner B L)

/-- The errors that are set where something is done with a node on a walk. -/
abbrev Stops := Position → Moment → Walk → Option RunError

/-- An action that fails on some walks. -/
def guarded (stop : Walk → Option RunError) (act : r.Action) : r.Action :=
  r.action fun element args w =>
    match stop w with
    | some e => .error e
    | none => r.call act element args w

def guardedEvaluation {Query Reply : Type} (stop : Walk → Option RunError)
    (evaluate : Walk → Query → Except RunError Reply) : Walk → Query → Except RunError Reply :=
  fun w query =>
    match stop w with
    | some e => .error e
    | none => evaluate w query

/-- What a node at a position does while stops are set. -/
def watched (stops : Stops) : Tree B L → Position → r.Action :=
  Tree.fold
    (fun value position =>
      r.guarded (stops position .matching)
        (r.leaf value (guardedEvaluation (stops position .evaluating) (r.evaluate value))))
    (fun info children position =>
      r.guarded (stops position .matching)
        (r.branch info (children.map fun element act => act (element :: position))))

/-- A run of the children at the top while stops are set. -/
def runWatched (stops : Stops) (children : Siblings (Tree B L)) : Except RunError Json :=
  r.start (children.map fun element child => r.watched stops child [element])

open Classical in
/-- The one stop at a node, a moment and a walk. -/
noncomputable def stopAt (position : Position) (moment : Moment) (w : Walk) (e : RunError) :
    Stops :=
  fun other instant v => if other = position ∧ instant = moment ∧ v = w then some e else none

/-- Stops that are only set on walks of other shapes than the position has. -/
def Quiet (base : List Nat) (stops : Stops) : Prop :=
  ∀ position moment w, w.shape = shapeAt base position moment → stops position moment w = none

variable {r} {stops : Stops} {w : Walk} {position : Position} {moment : Moment}

theorem stopAt_self (position : Position) (moment : Moment) (w : Walk) (e : RunError) :
    stopAt position moment w e position moment w = some e :=
  if_pos ⟨rfl, rfl, rfl⟩

theorem stopAt_other_moment {instant : Moment} (other : instant ≠ moment) (place : Position)
    (v : Walk) (e : RunError) : stopAt position moment w e place instant v = none :=
  if_neg fun same => other same.2.1

theorem stopAt_other_position {place : Position} (other : place ≠ position) (instant : Moment)
    (v : Walk) (e : RunError) : stopAt position moment w e place instant v = none :=
  if_neg fun same => other same.1

theorem guardedEvaluation_stopped {Query Reply : Type} {stop : Walk → Option RunError}
    {e : RunError} (stopped : stop w = some e) (evaluate : Walk → Query → Except RunError Reply)
    (query : Query) :
    guardedEvaluation stop evaluate w query = .error e := by
  rw [guardedEvaluation, stopped]

theorem guardedEvaluation_silent {Query Reply : Type} {stop : Walk → Option RunError}
    (silent : ∀ w, stop w = none) (evaluate : Walk → Query → Except RunError Reply) :
    guardedEvaluation stop evaluate = evaluate := by
  funext w query
  rw [guardedEvaluation, silent w]

theorem watched_leaf (value : L) (position : Position) :
    r.watched stops (.leaf value) position =
      r.guarded (stops position .matching)
        (r.leaf value (guardedEvaluation (stops position .evaluating) (r.evaluate value))) := by
  rw [watched, Tree.fold]

theorem watched_branch (info : B) (s : Siblings (Tree B L)) (position : Position) :
    r.watched stops (.branch info s) position =
      r.guarded (stops position .matching)
        (r.branch info
          (s.map fun element child => r.watched stops child (element :: position))) := by
  rw [watched, Tree.fold_branch, Siblings.foldSiblings_eq_map, Siblings.map_map]

theorem run_branch (info : B) (s : Siblings (Tree B L)) :
    r.run (.branch info s) = r.branch info (s.map fun _ child => r.run child) := by
  rw [run, Tree.fold_branch, Siblings.foldSiblings_eq_map]

theorem quiet_stopAt {base : List Nat} (other : w.shape ≠ shapeAt base position moment)
    (e : RunError) : Quiet base (stopAt position moment w e) := by
  intro place instant v shaped
  refine if_neg ?_
  rintro ⟨rfl, rfl, rfl⟩
  exact other shaped

end Runner

namespace Layout

open Runner

variable {B L : Type} {r : Runner B L} {k : Layout r} {stops : Stops}

/-- Stops that are not set where the layout lets something be done with a node. -/
def Silent (k : Layout r) (stops : Stops) : Prop :=
  ∀ position moment w, k.Knows position moment w → stops position moment w = none

/-- A guard that is silent where a node acts changes nothing there. -/
theorem agrees_guarded (lawful : k.Lawful) {outer : Position} {element : Element}
    {stop : Walk → Option RunError}
    (silent : ∀ args w, k.acts outer element args w → stop w = none)
    {act other : r.Action} (agrees : k.Agrees outer element act other) :
    k.Agrees outer element (r.guarded stop act) other := by
  intro args w known
  rw [guarded, lawful.call_action, silent args w known]
  exact agrees args w known

/-- Silent stops are noticed by no node. -/
theorem agrees_watched (lawful : k.Lawful) (silent : k.Silent stops) {t : Tree B L}
    (every : t.Every k.admits) (element : Element) (outer : Position) :
    k.Agrees outer element (r.watched stops t (element :: outer)) (r.run t) := by
  have matching (element : Element) (outer : Position) (args : r.Args) (w : Walk)
      (known : k.acts outer element args w) : stops (element :: outer) .matching w = none :=
    silent (element :: outer) .matching w ⟨args, known⟩
  induction every generalizing element outer with
  | leaf value =>
    rw [watched_leaf]
    refine agrees_guarded lawful (matching element outer) ?_
    refine lawful.leaf value _ _ fun w query known => ?_
    rw [guardedEvaluation, silent (element :: outer) .evaluating w known]
  | branch admitted below ih =>
    rw [watched_branch, run_branch]
    refine agrees_guarded lawful (matching element outer) ?_
    refine lawful.branch _ _ _ _ admitted fun child present => ?_
    exact ih child present child.1 (element :: outer)

/-- Silent stops change no run. -/
theorem runWatched_silent (lawful : k.Lawful) (silent : k.Silent stops)
    {children : Siblings (Tree B L)} (admitted : k.admits children)
    (every : ∀ child ∈ children.all, child.2.Every k.admits) :
    r.runWatched stops children = r.start (children.map fun _ child => r.run child) :=
  lawful.start children _ _ admitted fun child present =>
    agrees_watched lawful silent (every child present) child.1 []

/-- A run comes to a node only where the layout lets it. -/
theorem knows_of_stopped (lawful : k.Lawful) {children : Siblings (Tree B L)}
    (admitted : k.admits children) (every : ∀ child ∈ children.all, child.2.Every k.admits)
    {position : Position} {moment : Moment} {w : Walk}
    (stopped : ∀ e, r.runWatched (stopAt position moment w e) children = .error e) :
    k.Knows position moment w := by
  by_contra unknown
  have silent (e : RunError) : k.Silent (stopAt position moment w e) := by
    intro place instant v known
    refine if_neg ?_
    rintro ⟨rfl, rfl, rfl⟩
    exact unknown known
  -- one run can not end with two errors
  have first := stopped (.outOfRange "" 0 0)
  have second := stopped (.outOfRange "" 0 1)
  rw [runWatched_silent lawful (silent _) admitted every] at first second
  rw [first] at second
  cases second

/-- Walks have the shapes that the elements tell, whatever the siblings and arguments are. -/
def shapes (r : Runner B L) : Layout r where
  admits _ := True
  acts outer _ _ w := w.shape = insideShape r.base outer
  evaluates position w := w.shape = insideShape r.base position

private theorem silent_of_quiet (quiet : Quiet r.base stops) : (shapes r).Silent stops := by
  intro position moment w known
  apply quiet
  cases position with
  | nil => cases known
  | cons element outer =>
    cases moment with
    | matching =>
      obtain ⟨args, shaped⟩ := known
      exact shaped
    | evaluating => exact known

end Layout

namespace Runner

variable {B L : Type} {r : Runner B L} {stops : Stops}

/-- Stops on walks of other shapes change no run. -/
theorem runWatched_quiet (lawful : (Layout.shapes r).Lawful) (quiet : Quiet r.base stops)
    (children : Siblings (Tree B L)) :
    r.runWatched stops children = r.start (children.map fun _ child => r.run child) :=
  Layout.runWatched_silent lawful (Layout.silent_of_quiet quiet) trivial fun child _ =>
    Tree.Every.of_forall (fun _ => trivial) child.2

end Runner

end Reshape.Transform
