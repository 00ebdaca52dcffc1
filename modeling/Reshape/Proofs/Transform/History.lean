import Reshape.Proofs.Outcome
import Reshape.Proofs.Spec.Fold
import Reshape.Transform.Shift

/-! Runs of shift that tell what happens: which levels are entered and left, where paths are
evaluated, and when the match of a child is complete. Without what they tell they are the
runs of shift. -/

namespace Reshape.Transform.Shift

open Key Spec

/-- What happens in a run. -/
inductive Event where
  /-- A node is entered, and the walk goes on with a level for it. -/
  | entered (element : Element) (w : Walk)
  /-- A path is evaluated on a walk. -/
  | evaluated (path : Path) (w : Walk)
  /-- The innermost level is left. -/
  | left
  /-- The match of a child of the innermost level is complete. -/
  | completed

/-- A computation with what happens in it, in order. -/
structure Logged (α : Type) where
  events : List Event
  outcome : Except RunError α

namespace Logged

variable {α β : Type}

def tell (event : Event) : Logged Unit := ⟨[event], .ok ()⟩

/-- A computation in which nothing happens. -/
def quiet (outcome : Except RunError α) : Logged α := ⟨[], outcome⟩

/-- What happens in a computation that fails is all that happens. -/
def andThen (x : Logged α) (next : α → Logged β) : Logged β :=
  match x.outcome with
  | .error e => ⟨x.events, .error e⟩
  | .ok a => ⟨x.events ++ (next a).events, (next a).outcome⟩

instance : Monad Logged where
  pure a := quiet (.ok a)
  bind := andThen

@[simp]
theorem outcome_quiet (x : Except RunError α) : (quiet x).outcome = x := rfl

@[simp]
theorem outcome_bind (x : Logged α) (next : α → Logged β) :
    (x >>= next).outcome = (x.outcome >>= fun a => (next a).outcome) := by
  obtain ⟨events, outcome⟩ := x
  cases outcome with
  | error e => rfl
  | ok a => rfl

@[simp]
theorem outcome_tell_bind (event : Event) (next : Unit → Logged β) :
    (tell event >>= next).outcome = (next ()).outcome := rfl

end Logged

open Logged

abbrev LoggedAction :=
  Element → String → Option Json → Walk → Json → Logged (Bool × Json)

def LoggedAction.erase (act : LoggedAction) : Action :=
  fun element key data w output => (act element key data w output).outcome

/-- Tries children as `offer` does. -/
def logOffer (key : String) (data : Option Json) (w : Walk) :
    List (Element × LoggedAction) → Json → Logged (Bool × Json)
  | [], output => pure (false, output)
  | (element, act) :: rest, output => do
    let (handled, output) ← act element key data w output
    if handled then pure (true, output) else logOffer key data w rest output

/-- Applies special children as `runSpecial` does. -/
def logSpecial (key : String) (data : Option Json) :
    List (Element × LoggedAction) → Walk → Json → Logged (Walk × Json)
  | [], w, output => pure (w, output)
  | (element, act) :: rest, w, output => do
    let (handled, output) ← act element key data w output
    logSpecial key data rest (countIf handled w) output

/-- Makes visits as `runVisits` does. -/
def logVisits (node : Json) :
    List (Visit LoggedAction) → Walk → Json → Logged (Walk × Json)
  | [], w, output => pure (w, output)
  | visit :: rest, w, output => do
    let (handled, output) ←
      logOffer visit.slot.key (visit.slot.child? node) w visit.candidates output
    logVisits node rest (countIf handled w) output

/-- What the children of a branch do with the data below it. -/
def logChildren (children : Siblings LoggedAction) (key : String) (below : Option Json)
    (inner : Walk) (output : Json) : Logged Json := do
  let (inner, output) ← logSpecial key below children.special inner output
  match below with
  | none => pure output
  | some node => do
    let (_, output) ← logVisits node (children.visits false node) inner output
    pure output

/-- A node on a walk that has entered it: it does its work and is left, and its match is
complete then if it counts. -/
def within (element : Element) (inner : Walk) (counts : Bool) (work : Logged Json) :
    Logged (Bool × Json) := do
  tell (.entered element inner)
  let output ← work
  tell .left
  if counts then tell .completed
  pure (counts, output)

def logBranch (children : Siblings LoggedAction) : LoggedAction :=
  fun element key data w output => do
    match ← quiet (element.match? w key) with
    | none => pure (false, output)
    | some matched =>
      match ← quiet (branchData element data w) with
      | none => pure (false, output)
      | some below => do
        let inner ← quiet (w.push below matched)
        within element inner true (logChildren children key below inner output)

def logWrites (w : Walk) (data : Json) : List Path → Json → Logged Json
  | [], output => pure output
  | path :: rest, output => do
    tell (.evaluated path w)
    let (_, output) ← quiet (path.write w data output)
    logWrites w data rest output

def logLeaf (paths : List Path) : LoggedAction := fun element key data w output => do
  match ← quiet (element.match? w key) with
  | none => pure (false, output)
  | some matched =>
    match ← quiet (leafData element matched data w) with
    | none => pure (false, output)
    | some (written, counts) => do
      let inner ← quiet (w.push data matched)
      within element inner counts
        (match written with
          | none => pure output
          | some value => logWrites inner value paths output)

def logRun : Node → LoggedAction :=
  Tree.fold logLeaf fun _ children => logBranch children

/-- A run of a shift. The level above the document is a node of its own. -/
def logged (t : Shift) (input : Json) : Logged Json := do
  let w ← quiet (rootWalk t.maxDepth (some input))
  tell (.entered (.literal rootKey) w)
  let (_, output) ← logRun (.branch () t.children) (.literal rootKey) rootKey (some input) w
    Json.emptyObject
  pure (unwrap output)

variable {key : String} {data : Option Json} {w : Walk} {output : Json}

private theorem outcome_logOffer (children : List (Element × LoggedAction)) :
    (logOffer key data w children output).outcome =
      offer key data w (children.map fun child => (child.1, child.2.erase)) output := by
  induction children generalizing output with
  | nil => rfl
  | cons child rest ih =>
    obtain ⟨element, act⟩ := child
    rw [logOffer, List.map_cons, offer, outcome_bind]
    refine Outcome.bind_congr_of_ok fun (handled, written) _ => ?_
    cases handled with
    | false => exact ih
    | true => rfl

theorem outcome_logSpecial (children : List (Element × LoggedAction)) :
    (logSpecial key data children w output).outcome =
      runSpecial key data (children.map fun child => (child.1, child.2.erase)) w output := by
  induction children generalizing w output with
  | nil => rfl
  | cons child rest ih =>
    obtain ⟨element, act⟩ := child
    rw [logSpecial, List.map_cons, runSpecial, outcome_bind]
    exact Outcome.bind_congr_of_ok fun (handled, written) _ => ih

theorem outcome_logVisits (node : Json) (visits : List (Visit LoggedAction)) :
    (logVisits node visits w output).outcome =
      runVisits node (visits.map (Visit.map fun _ act => act.erase)) w output := by
  induction visits generalizing w output with
  | nil => rfl
  | cons visit rest ih =>
    rw [logVisits, List.map_cons, runVisits, outcome_bind, outcome_logOffer]
    exact Outcome.bind_congr_of_ok fun (handled, written) _ => ih

theorem outcome_within (element : Element) (counts : Bool) (work : Logged Json) :
    (within element w counts work).outcome = work.outcome.map (counts, ·) := by
  rw [within, outcome_tell_bind, outcome_bind]
  cases work.outcome with
  | error e => rfl
  | ok output =>
    cases counts with
    | false => rfl
    | true => rfl

theorem erase_logBranch (s : Siblings LoggedAction) :
    (logBranch s).erase = runBranch (s.map fun _ act => act.erase) := by
  funext element key data w output
  rw [LoggedAction.erase, logBranch, runBranch, outcome_bind, outcome_quiet]
  refine Outcome.bind_congr_of_ok fun found _ => ?_
  cases found with
  | none => rfl
  | some matched =>
    dsimp only
    rw [outcome_bind, outcome_quiet]
    refine Outcome.bind_congr_of_ok fun source _ => ?_
    cases source with
    | none => rfl
    | some below =>
      dsimp only
      rw [outcome_bind, outcome_quiet]
      refine Outcome.bind_congr_of_ok fun inner _ => ?_
      rw [outcome_within, logChildren, outcome_bind, outcome_logSpecial]
      change _ = runSpecial key below (s.special.map fun child => (child.1, child.2.erase)) inner
        output >>= _
      cases runSpecial key below (s.special.map fun child => (child.1, child.2.erase)) inner
        output with
      | error e => rfl
      | ok done =>
        cases below with
        | none => rfl
        | some node =>
          dsimp only [Outcome.ok_bind]
          rw [outcome_bind, Siblings.visits_map, ← outcome_logVisits]
          cases (logVisits node (s.visits false node) done.1 done.2).outcome with
          | error e => rfl
          | ok last => rfl

private theorem outcome_logWrites (value : Json) (paths : List Path) :
    (logWrites w value paths output).outcome = writeAll w value paths output := by
  induction paths generalizing output with
  | nil => rfl
  | cons path rest ih =>
    rw [logWrites, writeAll, outcome_tell_bind, outcome_bind, outcome_quiet]
    exact Outcome.bind_congr_of_ok fun (done, written) _ => ih

private theorem erase_logLeaf (paths : List Path) : (logLeaf paths).erase = runLeaf paths := by
  funext element key data w output
  rw [LoggedAction.erase, logLeaf, runLeaf, runLeafWith, outcome_bind, outcome_quiet]
  refine Outcome.bind_congr_of_ok fun found _ => ?_
  cases found with
  | none => rfl
  | some matched =>
    dsimp only
    rw [outcome_bind, outcome_quiet]
    refine Outcome.bind_congr_of_ok fun source _ => ?_
    cases source with
    | none => rfl
    | some held =>
      obtain ⟨written, counts⟩ := held
      dsimp only
      rw [outcome_bind, outcome_quiet]
      refine Outcome.bind_congr_of_ok fun inner _ => ?_
      rw [outcome_within]
      cases written with
      | none => rfl
      | some value =>
        dsimp only
        rw [outcome_logWrites]
        rfl

theorem erase_logRun (t : Node) : (logRun t).erase = run t := by
  induction t using Tree.induct with
  | leaf paths =>
    rw [logRun, run, Tree.fold, Tree.fold]
    exact erase_logLeaf paths
  | branch info s ih =>
    rw [logRun, run, Tree.fold_branch, Tree.fold_branch, erase_logBranch,
      Siblings.foldSiblings_eq_map, Siblings.foldSiblings_eq_map, Siblings.map_map]
    exact congrArg runBranch (Siblings.map_congr ih)

/-- Without what it tells a run is a run of the shift. -/
theorem outcome_logged (t : Shift) (input : Json) : (logged t input).outcome = t.apply input := by
  rw [logged, apply, ← erase_logRun, outcome_bind, outcome_quiet]
  refine Outcome.bind_congr_of_ok fun w _ => ?_
  rw [outcome_tell_bind, outcome_bind]
  rfl

end Reshape.Transform.Shift
