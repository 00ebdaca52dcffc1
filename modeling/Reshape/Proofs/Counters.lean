import Reshape.Proofs.Transform.History
import Reshape.Proofs.WalkShape

/-! What the counters of a walk count. A run is followed by what happens in it alone: a level
starts when a node is entered, and its counter goes up by one for each match of a child that
is complete. All counters of the walks of a run are told in this way. They start with zero,
but the current node and lookups go on with the counter of the level around them. -/

namespace Reshape.Transform.Shift

open Key Spec Logged

/-- A level as it is told by what happened: what its counter started with, and how many
matches of its children are complete. -/
structure Level where
  start : Nat
  complete : Nat
deriving DecidableEq, Repr

def Level.count (level : Level) : Nat := level.start + level.complete

/-- What the counter of a node starts with inside some levels. -/
def startCount (element : Element) (levels : List Level) : Nat :=
  match element with
  | .here | .lookup _ => (levels.head?.map Level.count).getD 0
  | _ => 0

/-- The levels with one more complete match in the innermost one. -/
def completeOne : List Level → List Level
  | [] => []
  | level :: outer => ⟨level.start, level.complete + 1⟩ :: outer

namespace Event

/-- The levels after something happened. -/
def step (levels : List Level) : Event → List Level
  | entered element _ => ⟨startCount element levels, 0⟩ :: levels
  | evaluated _ _ => levels
  | left => levels.tail
  | completed => completeOne levels

/-- What is true of a walk when something happens, told by the levels before that: the
counter of a node starts as it should, and a path finds the counters of the levels. -/
def Fits (levels : List Level) : Event → Prop
  | entered element w =>
    w.frames.map (·.matched.count) = startCount element levels :: levels.map Level.count
  | evaluated _ w =>
    ∀ level, (PlainStep.counter level).evaluate w =
      match levels[level]? with
      | some found => .ok (some (Decimal.natText found.count))
      | none => .error (w.fault (counterCanonical level) level)
  | _ => True

end Event

def replay (levels : List Level) (events : List Event) : List Level :=
  events.foldl Event.step levels

/-- All that happens fits the levels at that point. -/
def AllFit : List Level → List Event → Prop
  | _, [] => True
  | levels, event :: rest => event.Fits levels ∧ AllFit (event.step levels) rest

theorem replay_append (levels : List Level) (events more : List Event) :
    replay levels (events ++ more) = replay (replay levels events) more :=
  List.foldl_append

theorem allFit_append {levels : List Level} {events more : List Event} :
    AllFit levels (events ++ more) ↔
      AllFit levels events ∧ AllFit (replay levels events) more := by
  induction events generalizing levels with
  | nil => simp [AllFit, replay]
  | cons event rest ih =>
    rw [List.cons_append, AllFit, AllFit, ih, and_assoc]
    rfl

/-- A computation fits some levels, and leaves others that are told by its result. -/
def Tells {α : Type} (levels : List Level) (x : Logged α) (after : α → List Level → Prop) : Prop :=
  AllFit levels x.events ∧ ∀ a, x.outcome = .ok a → after a (replay levels x.events)

section Tells

variable {α β : Type} {levels : List Level}

theorem Tells.pure {a : α} {after : α → List Level → Prop} (holds : after a levels) :
    Tells levels (pure a) after := by
  refine ⟨trivial, fun b same => ?_⟩
  cases same
  exact holds

theorem Tells.weaken {x : Logged α} {after wanted : α → List Level → Prop}
    (told : Tells levels x after) (enough : ∀ a reached, after a reached → wanted a reached) :
    Tells levels x wanted :=
  ⟨told.1, fun a done => enough a _ (told.2 a done)⟩

theorem Tells.bind {x : Logged α} {next : α → Logged β} {middle : α → List Level → Prop}
    {after : β → List Level → Prop} (first : Tells levels x middle)
    (later : ∀ a reached, x.outcome = .ok a → middle a reached → Tells reached (next a) after) :
    Tells levels (x >>= next) after := by
  obtain ⟨events, outcome⟩ := x
  obtain ⟨fits, told⟩ := first
  cases outcome with
  | error e => exact ⟨fits, fun b failed => nomatch failed⟩
  | ok a =>
    obtain ⟨fitsLater, reached⟩ := later a _ rfl (told a rfl)
    refine ⟨allFit_append.mpr ⟨fits, fitsLater⟩, fun b done => ?_⟩
    change after b (replay levels (events ++ (next a).events))
    rw [replay_append]
    exact reached b done

theorem Tells.quiet_bind {x : Except RunError α} {next : α → Logged β}
    {after : β → List Level → Prop} (later : ∀ a, x = .ok a → Tells levels (next a) after) :
    Tells levels (quiet x >>= next) after := by
  cases x with
  | error e => exact ⟨trivial, fun b failed => nomatch failed⟩
  | ok a => exact later a rfl

theorem Tells.tell_bind {event : Event} {next : Unit → Logged β} {after : β → List Level → Prop}
    (fits : event.Fits levels) (later : Tells (event.step levels) (next ()) after) :
    Tells levels (tell event >>= next) after :=
  ⟨⟨fits, later.1⟩, later.2⟩

end Tells

/-- The counters of a walk are those of the levels. -/
def Follows (levels : List Level) (w : Walk) : Prop :=
  w.frames.map (·.matched.count) = levels.map Level.count

variable {levels : List Level} {w inner : Walk}

private theorem Follows.counted (follows : Follows levels w) :
    Follows (completeOne levels) w.counted := by
  obtain ⟨limit, frames⟩ := w
  cases frames with
  | nil =>
    obtain rfl := List.map_eq_nil_iff.mp follows.symm
    rfl
  | cons frame outer =>
    obtain ⟨level, rest, rfl, same, others⟩ := List.map_eq_cons_iff.mp follows.symm
    have count : level.start + level.complete = frame.matched.count := same
    have more : frame.matched.count + 1 = level.start + (level.complete + 1) := by
      rw [← count, Nat.add_assoc]
    exact congrArg₂ List.cons more others.symm

theorem Follows.countIf (follows : Follows levels w) (handled : Bool) :
    Follows (if handled then completeOne levels else levels) (countIf handled w) := by
  cases handled with
  | false => exact follows
  | true => exact follows.counted

theorem tail_completeIf (handled : Bool) (levels : List Level) :
    (if handled then completeOne levels else levels).tail = levels.tail := by
  cases handled with
  | false => rfl
  | true =>
    cases levels with
    | nil => rfl
    | cons level outer => rfl

/-- What a match starts to count with is told by the element and the levels around it. -/
theorem count_match? (follows : Follows levels w) {element : Element} {key : String}
    {matched : Match} (found : element.match? w key = .ok (some matched)) :
    matched.count = startCount element levels := by
  have current (held : Element.currentMatch? w = some matched) :
      matched.count = (levels.head?.map Level.count).getD 0 := by
    obtain ⟨frame, present, rfl⟩ := Option.map_eq_some_iff.mp held
    have same := congrArg List.head? follows
    rw [List.head?_map, List.head?_map, List.head?_eq_getElem?] at same
    rw [← same, show w.frames[0]? = some frame from present]
    rfl
  cases Element.finds_of_match? found with
  | here held => exact current held
  | lookup held => exact current held
  | _ => rfl

/-- The level of a node that is entered. -/
theorem follows_push (follows : Follows levels w) {element : Element} {key : String}
    {matched : Match} (found : element.match? w key = .ok (some matched)) {tree : Option Json}
    (entered : w.push tree matched = .ok inner) :
    Follows (⟨startCount element levels, 0⟩ :: levels) inner := by
  rw [Follows, Walk.frames_push entered]
  exact congrArg₂ List.cons (count_match? follows found) follows

theorem fits_evaluated (follows : Follows levels w) (path : Path) :
    (Event.evaluated path w).Fits levels := by
  intro level
  have same : (w.frame? level).map (·.matched.count) = levels[level]?.map Level.count := by
    rw [Walk.frame?, ← List.getElem?_map, ← List.getElem?_map]
    exact congrArg (·[level]?) follows
  rw [PlainStep.evaluate, Walk.counter, Walk.frameAt_bind _ level fun _ => rfl]
  cases held : w.frame? level with
  | none =>
    rw [held] at same
    rw [Option.map_eq_none_iff.mp same.symm]
    rfl
  | some frame =>
    rw [held] at same
    obtain ⟨found, present, count⟩ := Option.map_eq_some_iff.mp same.symm
    rw [present]
    exact congrArg (fun n => Except.ok (some (Decimal.natText n))) count.symm

/-- What happens as a node acts fits the levels around it, and its match is complete in the
end if the node says so. -/
def Faithful (act : LoggedAction) : Prop :=
  ∀ {element key data w output levels}, Follows levels w →
    Tells levels (act element key data w output) fun answer after =>
      after = if answer.1 then completeOne levels else levels

variable {key : String} {data : Option Json} {output : Json} {element : Element}

theorem logOffer_faithful {children : List (Element × LoggedAction)}
    (each : ∀ child ∈ children, Faithful child.2) (follows : Follows levels w) :
    Tells levels (logOffer key data w children output) fun answer after =>
      after = if answer.1 then completeOne levels else levels := by
  induction children generalizing output with
  | nil => exact .pure rfl
  | cons child rest ih =>
    obtain ⟨first, later⟩ := List.forall_mem_cons.mp each
    refine (first follows).bind fun (handled, written) reached _ same => ?_
    subst same
    cases handled with
    | false => exact ih later
    | true => exact .pure rfl

theorem logSpecial_faithful {children : List (Element × LoggedAction)}
    (each : ∀ child ∈ children, Faithful child.2) (follows : Follows levels w) :
    Tells levels (logSpecial key data children w output) fun answer after =>
      Follows after answer.1 ∧ after.tail = levels.tail := by
  induction children generalizing w output levels with
  | nil => exact .pure ⟨follows, rfl⟩
  | cons child rest ih =>
    obtain ⟨first, later⟩ := List.forall_mem_cons.mp each
    refine (first follows).bind fun (handled, written) reached _ same => ?_
    subst same
    rw [← tail_completeIf handled levels]
    exact ih later (follows.countIf handled)

theorem logVisits_faithful {visits : List (Visit LoggedAction)} {node : Json}
    (each : ∀ visit ∈ visits, ∀ child ∈ visit.candidates, Faithful child.2)
    (follows : Follows levels w) :
    Tells levels (logVisits node visits w output) fun _ after => after.tail = levels.tail := by
  induction visits generalizing w output levels with
  | nil => exact .pure rfl
  | cons visit rest ih =>
    obtain ⟨first, later⟩ := List.forall_mem_cons.mp each
    refine (logOffer_faithful first follows).bind fun (handled, written) reached _ same => ?_
    subst same
    rw [← tail_completeIf handled levels]
    exact ih later (follows.countIf handled)

theorem logChildren_faithful {s : Siblings LoggedAction} (each : ∀ child ∈ s.all, Faithful child.2)
    (follows : Follows levels w) :
    Tells levels (logChildren s key data w output) fun _ after => after.tail = levels.tail := by
  refine (logSpecial_faithful (Siblings.forall_special each) follows).bind
    fun (after, written) reached _ ⟨followed, outer⟩ => ?_
  rw [← outer]
  cases data with
  | none => exact .pure rfl
  | some node =>
    refine (logVisits_faithful (Siblings.forall_visits each false node) followed).bind
      fun done last _ same => ?_
    exact .pure same

theorem logWrites_faithful {paths : List Path} {value : Json} (follows : Follows levels w) :
    Tells levels (logWrites w value paths output) fun _ after => after = levels := by
  induction paths generalizing output with
  | nil => exact .pure rfl
  | cons path rest ih =>
    refine .tell_bind (fits_evaluated follows path) ?_
    exact .quiet_bind fun (done, written) _ => ih

/-- A node that is entered is left again. -/
theorem within_faithful {counts : Bool} {work : Logged Json}
    (follows : Follows (⟨startCount element levels, 0⟩ :: levels) inner)
    (works : Tells (⟨startCount element levels, 0⟩ :: levels) work
      fun _ after => after.tail = levels) :
    Tells levels (within element inner counts work) fun answer after =>
      after = if answer.1 then completeOne levels else levels := by
  refine .tell_bind follows (works.bind fun written done _ outer => ?_)
  refine .tell_bind trivial ?_
  obtain rfl : levels = done.tail := outer.symm
  cases counts with
  | false => exact .pure rfl
  | true => exact .tell_bind trivial (.pure rfl)

theorem logLeaf_faithful (paths : List Path) : Faithful (logLeaf paths) := by
  intro element key data w output levels follows
  refine .quiet_bind fun found matching => ?_
  cases found with
  | none => exact .pure rfl
  | some matched =>
    refine .quiet_bind fun source _ => ?_
    cases source with
    | none => exact .pure rfl
    | some held =>
      obtain ⟨written, counts⟩ := held
      refine .quiet_bind fun inner entered => ?_
      have deeper := follows_push follows matching entered
      refine within_faithful deeper ?_
      cases written with
      | none => exact .pure rfl
      | some value =>
        exact (logWrites_faithful deeper).weaken fun _ _ same => congrArg List.tail same

theorem logBranch_faithful {s : Siblings LoggedAction} (each : ∀ child ∈ s.all, Faithful child.2) :
    Faithful (logBranch s) := by
  intro element key data w output levels follows
  refine .quiet_bind fun found matching => ?_
  cases found with
  | none => exact .pure rfl
  | some matched =>
    refine .quiet_bind fun source _ => ?_
    cases source with
    | none => exact .pure rfl
    | some below =>
      refine .quiet_bind fun inner entered => ?_
      have deeper := follows_push follows matching entered
      exact within_faithful deeper (logChildren_faithful each deeper)

theorem logRun_faithful (t : Node) : Faithful (logRun t) := by
  induction t using Tree.induct with
  | leaf paths =>
    rw [logRun, Tree.fold]
    exact logLeaf_faithful paths
  | branch info s ih =>
    rw [logRun, Tree.fold_branch, Siblings.foldSiblings_eq_map]
    refine logBranch_faithful ?_
    rw [Siblings.all_map]
    exact List.forall_mem_map.mpr ih

theorem logged_fits (t : Shift) (input : Json) : AllFit [] (logged t input).events := by
  have told : Tells [] (logged t input) fun _ _ => True := by
    refine .quiet_bind fun w entered => ?_
    have matching : (Element.literal rootKey).match? (Walk.start (walkLimit t.maxDepth)) rootKey =
        .ok (some (.ofKey rootKey)) := rfl
    have empty : Follows [] (Walk.start (walkLimit t.maxDepth)) := rfl
    have follows : Follows [⟨0, 0⟩] w := follows_push empty matching entered
    refine .tell_bind follows ?_
    exact (logRun_faithful _ follows).bind fun _ _ _ _ => .pure trivial
  exact told.1

/-- A run that tells what happens is a run of the shift, and all that happens fits what
happened before. So where a path is evaluated, the counter of a level is what its node
started with and one more for each match of a child that has been completed since. -/
theorem counters_replayed (t : Shift) (input : Json) :
    (logged t input).outcome = t.apply input ∧
      ∀ before event after, (logged t input).events = before ++ event :: after →
        event.Fits (replay [] before) := by
  refine ⟨outcome_logged t input, fun before event after happened => ?_⟩
  have fits := logged_fits t input
  rw [happened] at fits
  exact (allFit_append.mp fits).2.1

/-- The spec of a shift with a lookup beside a branch for the current node, which is
complete before the lookup is entered. -/
def besideHereSpec : Json :=
  .obj [("@", .obj [("a", .str "p")]), ("@(0,b)", .obj [("*", .str "q.[#1]")])]

def countedPath : Path :=
  [.plain (.key rootKey), .plain (.key "q"), .plain (.counter 1)]

def besideHere : Shift :=
  ⟨64, ⟨[], [],
    [(.here, .branch () ⟨[("a", .leaf [[.plain (.key rootKey), .plain (.key "p")]])], [], [],
        .literalsOnly⟩),
      (.lookup ⟨0, [.key "b"]⟩, .branch () ⟨[], [(.star .any, .leaf [countedPath])], [],
        .computedOnly⟩)], .literalsOnly⟩⟩

def besideHereInput : Json := .obj [("a", .bool true), ("b", .arr [.null])]

def countedWalk : Walk :=
  ⟨66, [⟨⟨"0", [], 0⟩, some .null, none⟩, ⟨⟨rootKey, [], 1⟩, some (.arr [.null]), some 1⟩,
    ⟨⟨rootKey, [], 1⟩, some besideHereInput, none⟩, ⟨⟨rootKey, [], 0⟩, some besideHereInput, none⟩]⟩

/-- The counter of the lookup starts with the one of the level around it: it is at 1 where
no match of a child is complete. -/
theorem counters_replayed_lookup :
    compile 64 besideHereSpec = .ok besideHere ∧
      ∃ before after, (logged besideHere besideHereInput).events =
          before ++ .evaluated countedPath countedWalk :: after ∧
        replay [] before = [⟨0, 0⟩, ⟨1, 0⟩, ⟨0, 1⟩, ⟨0, 0⟩] ∧
        (PlainStep.counter 1).evaluate countedWalk = .ok (some "1") := by
  refine ⟨rfl, (logged besideHere besideHereInput).events.take 11,
    (logged besideHere besideHereInput).events.drop 12, ?_⟩
  have happened : (logged besideHere besideHereInput).events =
      (logged besideHere besideHereInput).events.take 11 ++
        .evaluated countedPath countedWalk ::
          (logged besideHere besideHereInput).events.drop 12 := rfl
  have levels : replay [] ((logged besideHere besideHereInput).events.take 11) =
      [⟨0, 0⟩, ⟨1, 0⟩, ⟨0, 1⟩, ⟨0, 0⟩] := rfl
  have fits := (counters_replayed besideHere besideHereInput).2 _ _ _ happened 1
  rw [levels] at fits
  exact ⟨happened, levels, fits⟩

end Reshape.Transform.Shift
