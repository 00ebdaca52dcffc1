import Reshape.Proofs.Reach
import Reshape.Proofs.Spec.Following
import Reshape.Proofs.Transform.Room

/-! Where lookups look. The levels of a walk are aligned with the input: each level has the
part of it that the keys of the levels around lead to. A special element stands for the node
that it is in, and its key leads nowhere. Below a lookup the levels have other data. -/

namespace Reshape

open Key Spec

namespace Transform

/-- The keys that lead to the innermost of some levels, the outermost first. -/
def trail : Position → List Frame → List String
  | element :: outer, frame :: frames =>
    if element.role = .special then trail outer frames
    else trail outer frames ++ [frame.matched.key]
  | _, _ => []

/-- Elements that are not special have levels of their own. -/
def Plain (position : Position) : Prop :=
  ∀ element ∈ position, element.role ≠ .special

theorem Plain.cons {position : Position} {element : Element} (plain : Plain position)
    (own : element.role ≠ .special) : Plain (element :: position) :=
  List.forall_mem_cons.mpr ⟨own, plain⟩

theorem Plain.trail {position : Position} {frames : List Frame} (plain : Plain position)
    (deep : position.length ≤ frames.length) :
    trail position frames = ((frames.take position.length).map (·.matched.key)).reverse := by
  induction position generalizing frames with
  | nil => rfl
  | cons element outer ih =>
    cases frames with
    | nil => cases deep
    | cons frame frames =>
      obtain ⟨own, around⟩ := List.forall_mem_cons.mp plain
      rw [Transform.trail, if_neg own, ih around (Nat.le_of_succ_le_succ deep), List.length_cons,
        List.take_succ_cons, List.map_cons, List.reverse_cons]

/-- Each level has the part of the input that the keys lead to. The two outermost levels are
around the input, and the inner one of them has all of it. -/
def Aligned (input : Json) : Position → List Frame → Prop
  | [], frames => frames.length = 2 ∧ frames.head?.bind (·.tree) = some input
  | _ :: _, [] => False
  | element :: outer, frame :: frames =>
    frame.tree = (Json.follow? (trail (element :: outer) (frame :: frames)) input) ∧
      Aligned input outer frames

variable {input : Json} {position outer : Position} {element : Element} {w inner : Walk}

/-- A level that is aligned. -/
theorem Aligned.frame {frames : List Frame} (aligned : Aligned input position frames) {level : Nat}
    (within : level ≤ position.length) : ∃ frame, frames[level]? = some frame ∧
      frame.tree = Json.follow? (trail (position.drop level) (frames.drop level)) input := by
  induction position generalizing frames level with
  | nil =>
    obtain rfl : level = 0 := Nat.le_zero.mp within
    obtain ⟨top, outermost, rfl⟩ := List.length_eq_two.mp aligned.1
    exact ⟨top, rfl, aligned.2⟩
  | cons element outer ih =>
    cases frames with
    | nil => cases aligned
    | cons frame frames =>
      obtain ⟨own, around⟩ := aligned
      cases level with
      | zero => exact ⟨frame, rfl, own⟩
      | succ level => exact ih around (Nat.le_of_succ_le_succ within)

theorem Aligned.length_eq {frames : List Frame} (aligned : Aligned input position frames) :
    frames.length = position.length + 2 := by
  induction position generalizing frames with
  | nil => exact aligned.1
  | cons element outer ih =>
    cases frames with
    | nil => cases aligned
    | cons frame frames =>
      rw [List.length_cons, List.length_cons, ih aligned.2]

theorem trail_counted (position : Position) (w : Walk) :
    trail position w.counted.frames = trail position w.frames := by
  obtain ⟨limit, frames⟩ := w
  cases frames with
  | nil => rfl
  | cons frame rest =>
    cases position with
    | nil => rfl
    | cons element outer => rfl

theorem Aligned.counted (aligned : Aligned input position w.frames) :
    Aligned input position w.counted.frames := by
  obtain ⟨limit, frames⟩ := w
  cases frames with
  | nil => exact aligned
  | cons frame rest =>
    cases position with
    | nil => exact aligned
    | cons element outer => exact aligned

private theorem match?_key {key : String} {matched : Match} (plain : element.role ≠ .special)
    (found : element.match? w key = .ok (some matched)) : matched.key = key := by
  cases Element.finds_of_match? found with
  | constant => exact absurd rfl plain
  | captured => exact absurd rfl plain
  | here => exact absurd rfl plain
  | lookup => exact absurd rfl plain
  | _ => rfl

/-- What a node is about, by its key: special elements are about the node around. -/
def dataAt (input : Json) (outer : Position) (element : Element) (key : String) (w : Walk) :
    Option Json :=
  if element.role = .special then Json.follow? (trail outer w.frames) input
  else (Json.follow? (trail outer w.frames) input).bind (Slot.member key).child?

/-- Entering the level of a node keeps the levels aligned. -/
theorem Aligned.push {key : String} {data : Option Json} {matched : Match}
    (aligned : Aligned input outer w.frames) (about : data = dataAt input outer element key w)
    (found : element.match? w key = .ok (some matched))
    (entered : w.push data matched = .ok inner) :
    Aligned input (element :: outer) inner.frames ∧
      data = Json.follow? (trail (element :: outer) inner.frames) input := by
  have deeper := Walk.frames_push entered
  have leads : data = Json.follow? (trail (element :: outer) inner.frames) input := by
    rw [about, dataAt, deeper, trail]
    split
    · rfl
    · rename_i plain
      rw [Json.follow?_concat, match?_key plain found]
  refine ⟨?_, leads⟩
  rw [deeper] at leads ⊢
  exact ⟨leads, aligned⟩

def NoLookups (position : Position) : Prop :=
  ∀ element ∈ position, ∀ l, element ≠ .lookup l

namespace Shift

/-- The levels of the walks of a shift below no lookup are aligned, and nodes are about the
data that they are called with. -/
def aligned (maxDepth : Nat) (input : Json) : Layout (runner maxDepth input) where
  admits s := s.Parted
  acts outer element args w := NoLookups outer →
    Aligned input outer w.frames ∧ args.2.1 = dataAt input outer element args.1 w
  evaluates position w := NoLookups position.tail → Aligned input position w.frames

def InsideBranch (input : Json) (position : Position) (below : Option Json) (w : Walk) : Prop :=
  NoLookups position →
    Aligned input position w.frames ∧ below = Json.follow? (trail position w.frames) input

private theorem branchData_of_ne_lookup {data below : Option Json}
    (other : ∀ l, element ≠ .lookup l)
    (going : branchData element data w = .ok (some below)) : below = data := by
  unfold branchData at going
  split at going
  · exact absurd rfl (other _)
  · cases going
    rfl

theorem carries_aligned (maxDepth : Nat) (indexable : input.Indexable) :
    Carries (aligned maxDepth input) (InsideBranch input) where
  root started entered := by
    intro _
    obtain ⟨matched, found, going, pushed⟩ := entered
    cases started
    cases found
    cases going
    cases pushed
    exact ⟨⟨rfl, rfl⟩, rfl⟩
  enter known entered := by
    intro free
    obtain ⟨outermost, around⟩ := List.forall_mem_cons.mp free
    obtain ⟨levels, about⟩ := known around
    obtain ⟨matched, found, going, pushed⟩ := entered
    have same := branchData_of_ne_lookup outermost going
    subst same
    exact levels.push about found pushed
  counted := by
    intro position below w known free
    obtain ⟨levels, leads⟩ := known free
    rw [trail_counted]
    exact ⟨levels.counted, leads⟩
  special := by
    intro α s position below w parted known child present key output free
    obtain ⟨levels, leads⟩ := known free
    refine ⟨levels, ?_⟩
    -- special children get the data of the node that they are in
    rw [dataAt, if_pos (parted.special child present)]
    exact leads
  visits := by
    intro α s position node w parted known visit planned child candidate output free
    obtain ⟨levels, leads⟩ := known free
    refine ⟨levels, ?_⟩
    rw [dataAt, if_neg (parted.role_candidate planned candidate), ← leads]
    have held : node.Indexable := Json.indexable_follow? indexable leads.symm
    exact Slot.child?_of_named (Siblings.named_of_visit planned) held
  leaf known found pushed := by
    intro free
    obtain ⟨levels, about⟩ := known free
    exact (levels.push about found pushed).1

end Shift

namespace Modify

/-- The levels of the walks of a modify are aligned with its input, and nodes are called with
what the input has where they work, whatever was written or created there since. -/
def aligned (maxDepth : Nat) (mode : WriteMode) (declared : Shape) (context input : Json) :
    Layout (runner maxDepth mode declared context input) where
  admits s := s.Parted
  acts outer element args w := Aligned input outer w.frames ∧ args.1.Named ∧
    Plain (element :: outer) ∧ args.2.1 = Json.follow? (trail outer w.frames) input
  evaluates position w := Aligned input position w.frames ∧ Plain position

theorem carries_aligned (maxDepth : Nat) (mode : WriteMode) (declared : Shape) (context : Json)
    (indexable : input.Indexable) :
    Carries (aligned maxDepth mode declared context input) fun position before w =>
      (Aligned input position w.frames ∧ before = Json.follow? (trail position w.frames) input) ∧
        Plain position where
  root started entered := by
    obtain ⟨matched, found, present, pushed⟩ := entered
    cases started
    cases found
    cases present
    cases pushed
    exact ⟨⟨⟨rfl, rfl⟩, rfl⟩, List.forall_mem_nil _⟩
  enter known entered := by
    obtain ⟨levels, named, plain, about⟩ := known
    obtain ⟨matched, found, present, pushed⟩ := entered
    refine ⟨levels.push ?_ found pushed, plain⟩
    rw [present, dataAt, if_neg (plain _ List.mem_cons_self), ← about]
    -- the place was found in the container as it is now, and its key finds it in the input
    refine Option.bind_congr fun doc held => ?_
    exact Slot.child?_of_named named (Json.indexable_follow? indexable (about.symm.trans held))
  visits parted known := by
    intro visit planned child candidate parent
    obtain ⟨⟨levels, leads⟩, around⟩ := known
    have plain := around.cons (parted.role_candidate planned candidate)
    exact ⟨levels, Siblings.named_of_visit planned, plain, leads⟩
  leaf known := ⟨known.1.1, known.2⟩

end Modify

/-- The elements whose levels a walk has when something is done with a node. -/
def levelsAt (position : Position) : Moment → Position
  | .matching => position.tail
  | .evaluating => position

/-- The keys that lead to a level of such a walk, which is some levels up. -/
def keysAt (position : Position) (moment : Moment) (w : Walk) (level : Nat) : List String :=
  trail ((levelsAt position moment).drop level) (w.frames.drop level)

/-- What a lookup finds below a value: nothing if there is no value, or if a step of its path
has no key or leads nowhere. -/
def lookBelow (w : Walk) (l : Lookup) : Option Json → Except RunError (Option Json)
  | none => .ok none
  | some doc => do
    match ← evaluateAll (PlainStep.evaluate w) l.path with
    | none => .ok none
    | some keys => .ok (Route.get? ((Path.traversal (l.path.map .plain)).zip keys) doc)

/-- On aligned levels lookups start where the keys around their level lead to. -/
theorem Aligned.object? (aligned : Aligned input position w.frames) {l : Lookup}
    (within : l.level ≤ position.length) : l.object? w = lookBelow w l
      (Json.follow? (trail (position.drop l.level) (w.frames.drop l.level)) input) := by
  obtain ⟨frame, present, leads⟩ := aligned.frame within
  have found : w.frame? l.level = some frame := present
  rw [← leads, Lookup.object?, Walk.frameAt_eq_some.mpr found]
  rw [Outcome.ok_bind]
  dsimp only
  cases frame.tree with
  | none => rfl
  | some doc =>
    refine Outcome.bind_congr_of_ok fun found evaluated => ?_
    cases found with
    | none => rfl
    | some keys =>
      have fits : keys.length = (Path.traversal (l.path.map .plain)).length := by
        rw [length_evaluateAll evaluated, Path.traversal, List.length_map, List.length_map]
      dsimp only
      rw [Traversal.get?, Traversal.route, if_pos fits]
      rfl

variable {moment : Moment} {maxDepth : Nat} {spec context : Json}

private theorem Shift.aligned_of_stopped {t : Shift}
    (compiled : Shift.compile maxDepth spec = .ok t)
    (indexable : input.Indexable) (free : NoLookups position.tail)
    (stopped : ∀ e, (runner t.maxDepth input).runWatched
      (Runner.stopAt position moment w e) t.children = .error e) :
    Aligned input (levelsAt position moment) w.frames := by
  obtain ⟨⟨info, children⟩, read, rfl⟩ := Outcome.map_eq_ok.mp compiled
  obtain ⟨parted, each⟩ := Dialect.compileRoot_parted nests read
  have lawful := (carries_aligned maxDepth indexable).lawful
  have known := Layout.knows_of_stopped lawful parted each stopped
  cases position with
  | nil => cases known
  | cons element outer =>
    cases moment with
    | matching =>
      obtain ⟨args, known⟩ := known
      exact (known free).1
    | evaluating => exact known free

private theorem Modify.aligned_of_stopped {functions : Registry} {mode : WriteMode} {t : Modify}
    (compiled : Modify.compile maxDepth functions mode spec = .ok t) (indexable : input.Indexable)
    (stopped : ∀ e, (runner t.maxDepth t.mode t.shape context input).runWatched
      (Runner.stopAt position moment w e) t.children = .error e) :
    Aligned input (levelsAt position moment) w.frames ∧ Plain (levelsAt position moment) := by
  obtain ⟨⟨declared, children⟩, read, rfl⟩ := Outcome.map_eq_ok.mp compiled
  obtain ⟨parted, each⟩ := Dialect.compileRoot_parted (nests functions) read
  have lawful := (carries_aligned maxDepth mode declared context indexable).lawful
  have known := Layout.knows_of_stopped lawful parted each stopped
  cases position with
  | nil => cases known
  | cons element outer =>
    cases moment with
    | matching =>
      obtain ⟨args, levels, -, plain, -⟩ := known
      exact ⟨levels, (List.forall_mem_cons.mp plain).2⟩
    | evaluating => exact known

end Transform

namespace Stage

open Transform

variable {options : Options} {functions : Registry} {operation : Operation} {spec : Json}
variable {t : Stage} {context input : Json} {position : Position} {moment : Moment} {w : Walk}

private theorem aligned_of_reaches (compiled : compile options functions operation spec = .ok t)
    (looks : operation ∈ [.shift, .modifyOverwrite, .modifyDefault, .modifyDefine])
    (indexable : input.Indexable) (reaches : t.Reaches context input position moment w)
    (free : operation = .shift → NoLookups position.tail) :
    Aligned input (levelsAt position moment) w.frames ∧
      (operation ≠ .shift → Plain (levelsAt position moment)) := by
  have modify {mode : WriteMode}
      (compiled : (Modify.compile options.maxDepth functions mode spec).map modify = .ok t) :
      Aligned input (levelsAt position moment) w.frames ∧ Plain (levelsAt position moment) := by
    obtain ⟨t, made, rfl⟩ := Outcome.map_eq_ok.mp compiled
    exact Modify.aligned_of_stopped made indexable reaches
  cases operation with
  | shift =>
    obtain ⟨t, made, rfl⟩ := Outcome.map_eq_ok.mp compiled
    have aligned := Shift.aligned_of_stopped made indexable (free rfl) reaches
    exact ⟨aligned, fun other => absurd rfl other⟩
  | modifyOverwrite => exact (modify compiled).imp_right fun plain _ => plain
  | modifyDefault => exact (modify compiled).imp_right fun plain _ => plain
  | modifyDefine => exact (modify compiled).imp_right fun plain _ => plain
  | _ => exact absurd looks (by decide)

/-- Wherever a shift comes to a node below no lookup, and wherever a modify comes to a node,
a lookup finds what is in the input of the stage: it follows the keys of the levels around
the one that it starts from, and then its own path. In a modify these are all keys. -/
theorem lookups_read_input (compiled : compile options functions operation spec = .ok t)
    (looks : operation ∈ [.shift, .modifyOverwrite, .modifyDefault, .modifyDefine])
    (indexable : input.Indexable) (reaches : t.Reaches context input position moment w)
    (free : operation = .shift → NoLookups position.tail) :
    w.frames.length = (levelsAt position moment).length + 2 ∧
      ∀ l : Lookup, l.level ≤ (levelsAt position moment).length →
        l.object? w = lookBelow w l (Json.follow? (keysAt position moment w l.level) input) ∧
        (operation ≠ .shift → keysAt position moment w l.level =
          (((w.frames.drop l.level).take ((levelsAt position moment).length - l.level)).map
            (·.matched.key)).reverse) := by
  obtain ⟨aligned, plain⟩ := aligned_of_reaches compiled looks indexable reaches free
  refine ⟨aligned.length_eq, fun l within => ⟨aligned.object? within, fun other => ?_⟩⟩
  have above : Plain ((levelsAt position moment).drop l.level) :=
    fun element present => plain other element (List.mem_of_mem_drop present)
  rw [keysAt, above.trail, List.length_drop]
  rw [List.length_drop, List.length_drop, aligned.length_eq]
  omega

/-- A modify that writes a key and then looks it up. -/
def rereading : Stage :=
  .modify ⟨64, .overwrite, .container,
    ⟨[("a", .leaf (.literal (.str "new"))), ("b", .leaf (.lookup ⟨1, [.key "a"]⟩))], [], [],
      .literalsOnly⟩⟩

def rereadingInput : Json := .obj [("a", .str "old")]

def rereadingWalk : Walk :=
  ⟨66, [⟨.ofKey "b", none, none⟩, ⟨.ofKey rootKey, some rereadingInput, none⟩,
    ⟨.ofKey rootKey, some (wrap rereadingInput), none⟩]⟩

private theorem reaches_rereading :
    rereading.Reaches .null rereadingInput [.literal "b"] .evaluating rereadingWalk := by
  intro e
  have stopped := Runner.stopAt_self [.literal "b"] .evaluating rereadingWalk e
  have matching (place : Position) (v : Walk) :
      Runner.stopAt [.literal "b"] .evaluating rereadingWalk e place .matching v = none :=
    Runner.stopAt_other_moment (by decide) place v e
  have first (v : Walk) : Runner.stopAt [.literal "b"] .evaluating rereadingWalk e
      [.literal "a"] .evaluating v = none :=
    Runner.stopAt_other_position (by simp) .evaluating v e
  generalize Runner.stopAt [.literal "b"] .evaluating rereadingWalk e = stops
    at stopped matching first ⊢
  simp only [rereading, runWatched, Runner.runWatched]
  unfold Modify.runner
  simp [Modify.start, rootWalk, Walk.start, walkLimit, Walk.push, Walk.enter, Walk.depth, wrap,
    rereadingInput, Modify.runBranch, Element.match?, Modify.prepare, Slot.child?, Slot.member,
    Members.get?, Members.has, Modify.Shape.accepts, Json.isContainer, Json.isArray, Json.isObject,
    Siblings.map, Siblings.visits, Siblings.literalVisits, Siblings.literalVisit, Slot.ofPresent?,
    Slot.ofAbsent?, Modify.runVisits, Modify.offer, Runner.watched_leaf, Runner.guarded,
    Modify.runLeafWith, matching, Runner.guardedEvaluation_silent first, Formula.evaluate]
  exact congrArg (· >>= _) (Runner.guardedEvaluation_stopped stopped _ _)

/-- The lookup finds what the key had in the input. -/
theorem lookups_read_input_rereading :
    compile .initial .empty .modifyOverwrite (.obj [("a", .str "new"), ("b", .str "@(1,a)")]) =
      .ok rereading ∧
    rereadingInput.Indexable ∧
    rereading.Reaches .null rereadingInput [.literal "b"] .evaluating rereadingWalk ∧
    Lookup.object? rereadingWalk ⟨1, [.key "a"]⟩ = .ok (some (.str "old")) := by
  have compiled : compile .initial .empty .modifyOverwrite
      (.obj [("a", .str "new"), ("b", .str "@(1,a)")]) = .ok rereading := rfl
  have indexable : rereadingInput.Indexable := .object (by simpa using .scalar rfl)
  obtain ⟨-, finds⟩ :=
    lookups_read_input compiled (by decide) indexable reaches_rereading (by intro same; cases same)
  obtain ⟨found, -⟩ := finds ⟨1, [.key "a"]⟩ (by decide)
  exact ⟨compiled, indexable, reaches_rereading, found.trans rfl⟩

/-- A shift that writes the text of a key to a path with a lookup. -/
def labelling : Stage :=
  .shift ⟨64, ⟨[("a", .branch () ⟨[], [], [(.constant "x",
      .leaf [[.plain (.key rootKey), .plain (.key "out"), .lookup ⟨0, [.key "b"]⟩]])],
    .literalsOnly⟩)], [], [], .literalsOnly⟩⟩

def labellingInput : Json := .obj [("a", .obj [("b", .str "k")])]

def labellingWalk : Walk :=
  ⟨66, [⟨.ofKey "x", some (.obj [("b", .str "k")]), none⟩,
    ⟨.ofKey "a", some (.obj [("b", .str "k")]), none⟩,
    ⟨.ofKey rootKey, some labellingInput, none⟩, ⟨.ofKey rootKey, some labellingInput, none⟩]⟩

private theorem reaches_labelling :
    labelling.Reaches .null labellingInput [.constant "x", .literal "a"] .evaluating
      labellingWalk := by
  intro e
  have stopped := Runner.stopAt_self [.constant "x", .literal "a"] .evaluating labellingWalk e
  have matching (place : Position) (v : Walk) : Runner.stopAt [.constant "x", .literal "a"]
      .evaluating labellingWalk e place .matching v = none :=
    Runner.stopAt_other_moment (by decide) place v e
  generalize Runner.stopAt [.constant "x", .literal "a"] .evaluating labellingWalk e = stops
    at stopped matching ⊢
  simp only [labelling, runWatched, Runner.runWatched]
  unfold Shift.runner
  simp [Shift.start, rootWalk, Walk.start, walkLimit, Walk.push, Walk.enter, Walk.depth,
    labellingInput, Shift.runBranch, Element.match?, Shift.branchData, Shift.runSpecial,
    Siblings.map, Siblings.visits, Siblings.literalVisits, Siblings.literalVisit, Slot.ofPresent?,
    Slot.child?, Slot.member, Members.get?, Members.has, Shift.runVisits, Shift.offer,
    Runner.watched_leaf, Runner.watched_branch, Runner.guarded, matching, Shift.runLeafWith,
    Shift.leafData]
  exact congrArg (· >>= _) (Runner.guardedEvaluation_stopped stopped _ _)

/-- The key of a constant is on the walk, but does not lead on: the lookup finds something
where the keys on the walk lead nowhere. -/
theorem constant_key_not_followed :
    compile .initial .empty .shift (.obj [("a", .obj [("#x", .str "out.@(0,b)")])]) =
      .ok labelling ∧
    labelling.Reaches .null labellingInput [.constant "x", .literal "a"] .evaluating
      labellingWalk ∧
    NoLookups [.literal "a"] ∧
    labellingWalk.frames.map (·.matched.key) = ["x", "a", rootKey, rootKey] ∧
    Lookup.object? labellingWalk ⟨0, [.key "b"]⟩ = .ok (some (.str "k")) ∧
    lookBelow labellingWalk ⟨0, [.key "b"]⟩ (Json.follow? ["a", "x"] labellingInput) = .ok none ∧
    labelling.apply .null labellingInput =
      .ok (.obj [("out", .obj [("k", .str "x")])]) :=
  ⟨rfl, reaches_labelling, by simp [NoLookups], rfl, rfl, rfl, rfl⟩

end Stage

end Reshape
