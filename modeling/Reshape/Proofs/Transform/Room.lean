import Reshape.Proofs.Faults
import Reshape.Proofs.Spec.Nesting
import Reshape.Transform.Cardinality
import Reshape.Transform.Default
import Reshape.Transform.Filter
import Reshape.Transform.Modify
import Reshape.Transform.Remove
import Reshape.Transform.Shift

/-! What can go wrong in a stage that was compiled. Each node of a spec enters one level of
a walk at most, and a walk has room for the levels that a spec may nest and the two around
the document. So levels never run out, and nothing fails but references to the levels that the
spec names. -/

namespace Reshape.Spec

open Key

variable {C B L : Type}

/-- The levels that the references in the trees of some siblings name. -/
def Tree.levels (names : L → List Nat) : Tree B L → List Nat :=
  Tree.fold names fun _ children => children.all.flatMap fun child => child.1.levels ++ child.2

def Siblings.levels (names : L → List Nat) (s : Siblings (Tree B L)) : List Nat :=
  s.all.flatMap fun child => child.1.levels ++ child.2.levels names

variable {named : List Nat}

private theorem Siblings.levels_subset {names : L → List Nat} {s : Siblings (Tree B L)}
    (held : s.levels names ⊆ named) :
    ∀ child ∈ s.all, child.1.levels ⊆ named ∧ child.2.levels names ⊆ named :=
  fun child present => List.append_subset.mp (Key.levels_subset held child present)

private theorem Tree.levels_branch (names : L → List Nat) (info : B) (s : Siblings (Tree B L)) :
    (Tree.branch info s).levels names = s.levels names := by
  rw [levels, fold_branch, Siblings.foldSiblings_eq_map, Siblings.all_map, List.flatMap_map]
  rfl

/-- What leaves do, and branches do if their children do it with less room, is done by all
children of a compiled spec with the room of the limit. -/
theorem Dialect.compileRoot_fold (names : L → List Nat) {d : Dialect C B L} (nests : d.Nests)
    {α : Type} {leaf : L → α} {branch : B → Siblings α → α} {does : Nat → Element × α → Prop}
    (leaves : ∀ room element value, element.levels ⊆ named → names value ⊆ named →
      does (room + 1) (element, leaf value))
    (branches : ∀ room element info (s : Siblings α), element.levels ⊆ named →
      (∀ child ∈ s.all, does room child) → does (room + 1) (element, branch info s))
    {limit : Nat} {context : C} {spec : Json} {info : B} {s : Siblings (Tree B L)}
    (compiled : d.compileRoot limit context spec = .ok (info, s))
    (held : s.levels names ⊆ named) :
    ∀ child ∈ (Tree.foldSiblings leaf branch s).all, does limit child := by
  let holds (room : Nat) (t : Tree B L) : Prop :=
    ∀ element : Element, element.levels ⊆ named → t.levels names ⊆ named →
      does room (element, t.fold leaf branch)
  have below {room : Nat} {s : Siblings (Tree B L)} (held : s.levels names ⊆ named)
      (each : ∀ child ∈ s.all, True ∧ holds room child.2) :
      ∀ child ∈ (Tree.foldSiblings leaf branch s).all, does room child := by
    rw [Siblings.foldSiblings_eq_map, Siblings.all_map]
    refine List.forall_mem_map.mpr fun child present => ?_
    obtain ⟨own, others⟩ := Siblings.levels_subset held child present
    exact (each child present).2 child.1 own others
  have inherits : Inherits (fun _ => True) holds := by
    refine ⟨fun room value element own held => ?_,
      fun {room info path children s} accepted each element own held => ?_⟩
    · rw [Tree.fold]
      exact leaves room element value own held
    · rw [Tree.levels_branch] at held
      rw [Tree.fold_branch]
      exact branches room element info _ own (below held each)
  exact below held (compile_grants nests (fun _ => trivial) inherits spec compiled).2

end Reshape.Spec

namespace Reshape.Transform

open Key Spec OnlyReferences

variable {space : Nat} {w : Walk} {named : List Nat}

/-- The walk at the top of a run has room for the levels of a spec and the document. -/
theorem rootWalk_hasRoom (maxDepth : Nat) (tree : Option Json) :
    ∃ w, rootWalk maxDepth tree = .ok w ∧ w.HasRoom (maxDepth + 1) := by
  have room : (Walk.start (walkLimit maxDepth)).HasRoom (maxDepth + 1 + 1) := by
    simp [Walk.HasRoom, Walk.start, Walk.depth, walkLimit]
  exact room.push tree (.ofKey rootKey)

/-- What starts at the top of a run fails by references alone if it does with the room
that there is. -/
theorem rootWalk_bind {α : Type} (maxDepth : Nat) (tree : Option Json)
    {next : Walk → Except RunError α}
    (later : ∀ w, w.HasRoom (maxDepth + 1) → OnlyReferences named (next w)) :
    OnlyReferences named (rootWalk maxDepth tree >>= next) := by
  obtain ⟨w, entered, room⟩ := rootWalk_hasRoom maxDepth tree
  rw [entered]
  exact later w room

/-- Entering a level does not fail while there is room. -/
theorem push_bind {α : Type} (room : w.HasRoom (space + 1)) (tree : Option Json) (matched : Match)
    {next : Walk → Except RunError α}
    (later : ∀ inner, inner.HasRoom space → OnlyReferences named (next inner)) :
    OnlyReferences named (w.push tree matched >>= next) := by
  obtain ⟨inner, entered, left⟩ := room.push tree matched
  rw [entered]
  exact later inner left

namespace Shift

/-- On walks with some room nothing in a child fails but references. -/
def Safe (named : List Nat) (space : Nat) (child : Element × Action) : Prop :=
  ∀ key data w output, w.HasRoom space →
    OnlyReferences named (child.2 child.1 key data w output)

theorem HasRoom.countIf (handled : Bool) (room : w.HasRoom space) :
    (countIf handled w).HasRoom space := by
  cases handled with
  | false => exact room
  | true => exact room.counted

variable {children : List (Element × Action)} {key : String} {data : Option Json} {output : Json}

theorem offer_safe (each : ∀ child ∈ children, Safe named space child) (room : w.HasRoom space) :
    OnlyReferences named (offer key data w children output) := by
  induction children generalizing output with
  | nil => exact .ok _
  | cons child rest ih =>
    obtain ⟨first, later⟩ := List.forall_mem_cons.mp each
    refine (first key data w output room).bind fun (handled, written) _ => ?_
    cases handled with
    | false => exact ih later
    | true => exact .ok _

theorem runSpecial_safe (each : ∀ child ∈ children, Safe named space child)
    (room : w.HasRoom space) :
    OnlyReferences named (runSpecial key data children w output) := by
  induction children generalizing w output with
  | nil => exact .ok _
  | cons child rest ih =>
    obtain ⟨first, later⟩ := List.forall_mem_cons.mp each
    refine (first key data w output room).bind fun (handled, written) _ => ?_
    exact ih later (HasRoom.countIf handled room)

theorem hasRoom_runSpecial {after : Walk × Json} (room : w.HasRoom space)
    (ran : runSpecial key data children w output = .ok after) : after.1.HasRoom space := by
  induction children generalizing w output with
  | nil =>
    cases ran
    exact room
  | cons child rest ih =>
    obtain ⟨⟨handled, written⟩, -, ran⟩ := Outcome.bind_eq_ok.mp ran
    exact ih (HasRoom.countIf handled room) ran

theorem runVisits_safe {visits : List (Visit Action)} {node : Json}
    (each : ∀ visit ∈ visits, ∀ child ∈ visit.candidates, Safe named space child)
    (room : w.HasRoom space) : OnlyReferences named (runVisits node visits w output) := by
  induction visits generalizing w output with
  | nil => exact .ok _
  | cons visit rest ih =>
    obtain ⟨first, later⟩ := List.forall_mem_cons.mp each
    refine (offer_safe first room).bind fun (handled, written) _ => ?_
    exact ih later (HasRoom.countIf handled room)

variable {element : Element}

theorem branchData_onlyReferences (own : element.levels ⊆ named) (data : Option Json) (w : Walk) :
    OnlyReferences named (branchData element data w) := by
  unfold branchData
  split
  · exact (Lookup.object?_onlyReferences w own).map _
  · exact .ok _

private theorem leafData_onlyReferences (own : element.levels ⊆ named) (matched : Match)
    (data : Option Json) (w : Walk) :
    OnlyReferences named (leafData element matched data w) := by
  unfold leafData
  split
  case h_4 l => exact (Lookup.object?_onlyReferences w own).map _
  all_goals exact .ok _

/-- The levels that the references of the paths of a leaf name. -/
def leafLevels (paths : List Path) : List Nat :=
  paths.flatMap Path.levels

private theorem writeAll_onlyReferences (w : Walk) (value : Json) {paths : List Path}
    (held : leafLevels paths ⊆ named) (output : Json) :
    OnlyReferences named (writeAll w value paths output) := by
  induction paths generalizing output with
  | nil => exact .ok _
  | cons path rest ih =>
    obtain ⟨first, later⟩ := List.append_subset.mp held
    exact (path.write_onlyReferences w first value output).bind fun _ _ => ih later _

theorem runLeaf_safe (space : Nat) (element : Element) (paths : List Path)
    (own : element.levels ⊆ named) (held : leafLevels paths ⊆ named) :
    Safe named (space + 1) (element, runLeaf paths) := by
  intro key data w output room
  refine (element.match?_onlyReferences w own key).bind fun found _ => ?_
  cases found with
  | none => exact .ok _
  | some matched =>
    refine (leafData_onlyReferences own matched data w).bind fun source _ => ?_
    cases source with
    | none => exact .ok _
    | some source =>
      obtain ⟨written, counts⟩ := source
      refine push_bind room data matched fun inner _ => ?_
      cases written with
      | none => exact .ok _
      | some value => exact (writeAll_onlyReferences inner value held output).bind fun _ _ => .ok _

private theorem runBranch_safe (space : Nat) (element : Element) (s : Siblings Action)
    (own : element.levels ⊆ named) (each : ∀ child ∈ s.all, Safe named space child) :
    Safe named (space + 1) (element, runBranch s) := by
  intro key data w output room
  refine (element.match?_onlyReferences w own key).bind fun found _ => ?_
  cases found with
  | none => exact .ok _
  | some matched =>
    refine (branchData_onlyReferences own data w).bind fun source _ => ?_
    cases source with
    | none => exact .ok _
    | some below =>
      refine push_bind room below matched fun inner left => ?_
      refine OnlyReferences.bind (runSpecial_safe (Siblings.forall_special each) left)
        fun (after, written) ran => ?_
      cases below with
      | none => exact .ok _
      | some node =>
        refine (runVisits_safe (Siblings.forall_visits each false node) ?_).bind fun _ _ => .ok _
        exact hasRoom_runSpecial left ran

theorem nests : dialect.Nests := by
  intro outer inner path element value below used info s made
  simp only [dialect, child] at made
  split at made
  · split at made
    · cases made
    · obtain ⟨⟨closed, children⟩, compiled, built⟩ := Outcome.map_eq_ok.mp made
      cases built
      exact compiled
  · obtain ⟨path, -, built⟩ := Outcome.map_eq_ok.mp made
    cases built
  · obtain ⟨paths, -, built⟩ := Outcome.map_eq_ok.mp made
    cases built
  · cases made
  · cases made

/-- The levels that the references of a shift name. -/
def levels (t : Shift) : List Nat :=
  t.children.levels leafLevels

theorem apply_onlyReferences {maxDepth : Nat} {spec : Json} {t : Shift}
    (compiled : compile maxDepth spec = .ok t) (input : Json) :
    OnlyReferences t.levels (t.apply input) := by
  obtain ⟨⟨info, s⟩, read, built⟩ := Outcome.map_eq_ok.mp compiled
  cases built
  have each := Dialect.compileRoot_fold leafLevels nests runLeaf_safe
    (fun room element _ => runBranch_safe room element) read (List.Subset.refl _)
  refine rootWalk_bind maxDepth (some input) fun w room => ?_
  rw [run, Tree.fold_branch]
  have safe := runBranch_safe maxDepth (.literal rootKey) _ (List.nil_subset _) each
  exact (safe _ _ _ _ room).bind fun _ _ => .ok _

end Shift

namespace Cardinality

/-- On walks with some room nothing in a child fails but references. -/
def Safe (named : List Nat) (space : Nat) (child : Element × Action) : Prop :=
  ∀ key value w, w.HasRoom space → OnlyReferences named (child.2 child.1 key value w)

variable {children : List (Element × Action)} {key : String} {value node : Json}

private theorem offer_safe (each : ∀ child ∈ children, Safe named space child)
    (room : w.HasRoom space) :
    OnlyReferences named (offer key value w children) := by
  induction children with
  | nil => exact .ok _
  | cons child rest ih =>
    obtain ⟨first, later⟩ := List.forall_mem_cons.mp each
    refine (first key value w room).bind fun handled _ => ?_
    cases handled with
    | none => exact ih later
    | some changed => exact .ok _

theorem runSpecial_safe (each : ∀ child ∈ children, Safe named space child)
    (room : w.HasRoom space) :
    OnlyReferences named (runSpecial key w children node) := by
  induction children generalizing node with
  | nil => exact .ok _
  | cons child rest ih =>
    obtain ⟨first, later⟩ := List.forall_mem_cons.mp each
    exact (first key node w room).bind fun changed _ => ih later

private theorem runVisits_safe {visits : List (Visit Action)}
    (each : ∀ visit ∈ visits, ∀ child ∈ visit.candidates, Safe named space child)
    (room : w.HasRoom space) : OnlyReferences named (runVisits w visits node) := by
  induction visits generalizing node with
  | nil => exact .ok _
  | cons visit rest ih =>
    obtain ⟨first, later⟩ := List.forall_mem_cons.mp each
    rw [runVisits]
    cases visit.slot.child? node with
    | none => exact ih later
    | some value =>
      refine (offer_safe first room).bind fun handled _ => ?_
      cases handled with
      | none => exact ih later
      | some changed => exact ih later

theorem runLeaf_safe (space : Nat) (element : Element) (relation : Relation)
    (own : element.levels ⊆ named) : Safe named space (element, runLeaf relation) := by
  intro key value w room
  refine (element.match?_onlyReferences w own key).bind fun found _ => ?_
  cases found with
  | none => exact .ok _
  | some matched => exact .ok _

private theorem runBranch_safe (space : Nat) (element : Element) (s : Siblings Action)
    (own : element.levels ⊆ named) (each : ∀ child ∈ s.all, Safe named space child) :
    Safe named (space + 1) (element, runBranch s) := by
  intro key value w room
  refine (element.match?_onlyReferences w own key).bind fun found _ => ?_
  cases found with
  | none => exact .ok _
  | some matched =>
    refine push_bind room none matched fun inner left => ?_
    refine (runSpecial_safe (Siblings.forall_special each) left).bind fun node _ => ?_
    split
    · exact (runVisits_safe (Siblings.forall_visits each false node) left).map _
    · exact .ok _

theorem nests : dialect.Nests := by
  intro outer inner path element value below used info s made
  simp only [dialect, child] at made
  split at made
  · split at made
    · split at made
      · cases made
      · obtain ⟨⟨closed, children⟩, compiled, built⟩ := Outcome.map_eq_ok.mp made
        cases built
        exact compiled
    · split at made
      · cases made
      · cases made
    · cases made
  · cases made

/-- The levels that the references of a cardinality name. -/
def levels (t : Cardinality) : List Nat :=
  t.children.levels fun _ => []

theorem apply_onlyReferences {maxDepth : Nat} {spec : Json} {t : Cardinality}
    (compiled : compile maxDepth spec = .ok t) (input : Json) :
    OnlyReferences t.levels (t.apply input) := by
  obtain ⟨⟨info, s⟩, read, built⟩ := Outcome.map_eq_ok.mp compiled
  cases built
  have each := Dialect.compileRoot_fold (fun _ => []) nests
    (fun room element relation own _ => runLeaf_safe (room + 1) element relation own)
    (fun room element _ => runBranch_safe room element) read (List.Subset.refl _)
  refine rootWalk_bind maxDepth none fun w room => ?_
  rw [run, Tree.fold_branch]
  have safe := runBranch_safe maxDepth (.literal rootKey) _ (List.nil_subset _) each
  exact (safe _ _ _ room).bind fun _ _ => .ok _

end Cardinality

namespace Filter

/-- On walks with some room nothing in a child fails but references. -/
def Safe (named : List Nat) (space : Nat) (child : Element × Judge) : Prop :=
  ∀ key value w, w.HasRoom space → OnlyReferences named (child.2 child.1 key value w)

variable {children : List (Element × Judge)} {s : Sifted}

/-- The levels that the references of the fields of some predicates name. -/
def leafLevels (predicates : List Predicate) : List Nat :=
  predicates.flatMap fun p => p.field.levels

theorem satisfies_onlyReferences (w : Walk) (value : Json) {predicates : List Predicate}
    (held : leafLevels predicates ⊆ named) :
    OnlyReferences named (satisfies w value predicates) := by
  induction predicates with
  | nil => exact .ok _
  | cons p rest ih =>
    obtain ⟨first, later⟩ := List.append_subset.mp held
    refine (p.field.read_onlyReferences w first value).bind fun found _ => ?_
    split
    · exact .ok _
    · exact ih later

private theorem offer_safe (slot : Slot) (each : ∀ child ∈ children, Safe named space child)
    (room : w.HasRoom space) : OnlyReferences named (offer slot w s children) := by
  induction children with
  | nil => exact .ok _
  | cons child rest ih =>
    obtain ⟨first, later⟩ := List.forall_mem_cons.mp each
    have asked : OnlyReferences named (s.ask slot w child.1 child.2) := by
      unfold Sifted.ask
      split
      · exact first _ _ w room
      · exact .ok _
    refine asked.bind fun verdict _ => ?_
    cases verdict with
    | unmatched => exact ih later
    | keep value => exact .ok _
    | drop => exact .ok _

private theorem runVisits_safe {visits : List (Visit Judge)}
    (each : ∀ visit ∈ visits, ∀ child ∈ visit.candidates, Safe named space child)
    (room : w.HasRoom space) : OnlyReferences named (runVisits w visits s) := by
  induction visits generalizing s with
  | nil => exact .ok _
  | cons visit rest ih =>
    obtain ⟨first, later⟩ := List.forall_mem_cons.mp each
    exact (offer_safe visit.slot first room).bind fun verdict _ => ih later

theorem sift_safe {siblings : Siblings Judge}
    (each : ∀ child ∈ siblings.all, Safe named space child) (room : w.HasRoom space) (node : Json) :
    OnlyReferences named (sift siblings w node) := by
  unfold sift
  split
  · exact (runVisits_safe (Siblings.forall_visits each false node) room).map _
  · exact .ok _

theorem judgeLeaf_safe (space : Nat) (element : Element) (predicates : List Predicate)
    (own : element.levels ⊆ named) (held : leafLevels predicates ⊆ named) :
    Safe named (space + 1) (element, judgeLeaf predicates) := by
  intro key value w room
  refine (element.match?_onlyReferences w own key).bind fun found _ => ?_
  cases found with
  | none => exact .ok _
  | some matched =>
    refine push_bind room none matched fun inner _ => ?_
    refine (satisfies_onlyReferences inner value held).bind fun passes _ => ?_
    cases passes with
    | false => exact .ok _
    | true => exact .ok _

private theorem judgeBranch_safe (space : Nat) (element : Element) (info : Unit)
    (siblings : Siblings Judge) (own : element.levels ⊆ named)
    (each : ∀ child ∈ siblings.all, Safe named space child) :
    Safe named (space + 1) (element, judgeBranch info siblings) := by
  intro key value w room
  refine (element.match?_onlyReferences w own key).bind fun found _ => ?_
  cases found with
  | none => exact .ok _
  | some matched =>
    exact push_bind room none matched fun inner left => (sift_safe each left value).map _

theorem nests : dialect.Nests := by
  intro outer inner path element value below used info s made
  simp only [dialect, child] at made
  split at made
  · split at made
    · obtain ⟨predicates, -, built⟩ := Outcome.map_eq_ok.mp made
      cases built
    · obtain ⟨⟨closed, children⟩, compiled, built⟩ := Outcome.map_eq_ok.mp made
      cases built
      exact compiled
  · cases made

/-- The levels that the references of a filter name. -/
def levels (t : Filter) : List Nat :=
  t.children.levels leafLevels

theorem apply_onlyReferences {maxDepth : Nat} {spec : Json} {t : Filter}
    (compiled : compile maxDepth spec = .ok t) (input : Json) :
    OnlyReferences t.levels (t.apply input) := by
  rw [compile] at compiled
  split at compiled
  · cases compiled
  · obtain ⟨⟨info, s⟩, read, built⟩ := Outcome.map_eq_ok.mp compiled
    cases built
    have each := Dialect.compileRoot_fold leafLevels nests judgeLeaf_safe judgeBranch_safe read
      (List.Subset.refl _)
    refine rootWalk_bind maxDepth none fun w room => ?_
    -- the children at the top stand one level below the level above the document
    exact sift_safe each room.less input

end Filter

namespace Formula

mutual

/-- The levels that the references of a formula name. -/
def levels : Formula → List Nat
  | .literal _ => []
  | .lookup target => target.levels
  | .context path => path.levels
  | .callCurrent _ _ => []
  | .call _ _ args => argLevels args

/-- The levels that the references of some arguments name. -/
def argLevels : List Formula → List Nat
  | [] => []
  | arg :: rest => arg.levels ++ argLevels rest

end

variable (context : Json) (current : Option Json)

mutual

theorem evaluate_onlyReferences (w : Walk) : ∀ formula : Formula, formula.levels ⊆ named →
    OnlyReferences named (formula.evaluate w context current)
  | .literal _, _ => .ok _
  | .lookup _, held => Lookup.object?_onlyReferences w held
  | .context path, held => path.read_onlyReferences w held context
  | .callCurrent _ _, _ => .ok _
  | .call _ f args, held => (evaluateArgs_onlyReferences w args held).map f

theorem evaluateArgs_onlyReferences (w : Walk) : ∀ args : List Formula, argLevels args ⊆ named →
    OnlyReferences named (evaluateArgs w context current args)
  | [], _ => .ok _
  | arg :: rest, held => by
    obtain ⟨first, later⟩ := List.append_subset.mp held
    rw [evaluateArgs]
    refine (evaluate_onlyReferences w arg first).bind fun value _ => ?_
    exact (evaluateArgs_onlyReferences w rest later).bind fun more _ => .ok _

end

end Formula

namespace Modify

/-- On walks with some room nothing in a child fails but references. -/
def Safe (named : List Nat) (space : Nat) (child : Element × Action) : Prop :=
  ∀ slot snapshot w parent, w.HasRoom space →
    OnlyReferences named (child.2 child.1 slot snapshot w parent)

variable {children : List (Element × Action)} {slot : Slot} {snapshot : Option Json} {node : Json}

private theorem offer_safe (each : ∀ child ∈ children, Safe named space child)
    (room : w.HasRoom space) :
    OnlyReferences named (offer slot snapshot w node children) := by
  induction children with
  | nil => exact .ok _
  | cons child rest ih =>
    obtain ⟨first, later⟩ := List.forall_mem_cons.mp each
    refine (first slot snapshot w node room).bind fun handled _ => ?_
    cases handled with
    | none => exact ih later
    | some changed => exact .ok _

private theorem runVisits_safe {visits : List (Visit Action)}
    (each : ∀ visit ∈ visits, ∀ child ∈ visit.candidates, Safe named space child)
    (room : w.HasRoom space) : OnlyReferences named (runVisits snapshot w visits node) := by
  induction visits generalizing node with
  | nil => exact .ok _
  | cons visit rest ih =>
    obtain ⟨first, later⟩ := List.forall_mem_cons.mp each
    exact (offer_safe first room).bind fun changed _ => ih later

theorem runLeaf_safe (mode : WriteMode) (context : Json) (space : Nat) (element : Element)
    (formula : Formula) (own : element.levels ⊆ named) (held : formula.levels ⊆ named) :
    Safe named (space + 1) (element, runLeaf mode context formula) := by
  intro slot snapshot w parent room
  refine (element.match?_onlyReferences w own slot.key).bind fun found _ => ?_
  cases found with
  | none => exact .ok _
  | some matched =>
    refine push_bind room (snapshot.bind slot.child?) matched fun inner _ => ?_
    have safe := Formula.evaluate_onlyReferences context (slot.child? parent) inner formula held
    refine safe.bind fun computed _ => ?_
    cases computed with
    | none => exact .ok _
    | some value => exact .ok _

private theorem runBranch_safe (mode : WriteMode) (space : Nat) (element : Element)
    (declared : Shape) (s : Siblings Action) (own : element.levels ⊆ named)
    (each : ∀ child ∈ s.all, Safe named space child) :
    Safe named (space + 1) (element, runBranch mode declared s) := by
  intro slot snapshot w parent room
  refine (element.match?_onlyReferences w own slot.key).bind fun found _ => ?_
  cases found with
  | none => exact .ok _
  | some matched =>
    dsimp only
    split
    · exact .ok _
    · rename_i node _
      split
      · refine push_bind room (snapshot.bind slot.child?) matched fun inner left => ?_
        refine (runVisits_safe (Siblings.forall_visits each true node) left).bind fun _ _ => .ok _
      · exact .ok _

theorem nests (functions : Registry) : (dialect functions).Nests := by
  intro outer inner path element value below used info s made
  simp only [dialect, child] at made
  split at made
  · cases made
  · split at made
    · obtain ⟨⟨closed, children⟩, compiled, built⟩ := Outcome.map_eq_ok.mp made
      cases built
      exact compiled
    · split at made
      · cases made
      · cases made

/-- The levels that the references of a modify name. -/
def levels (t : Modify) : List Nat :=
  t.children.levels Formula.levels

theorem apply_onlyReferences {maxDepth : Nat} {functions : Registry} {mode : WriteMode}
    {spec : Json} {t : Modify} (compiled : compile maxDepth functions mode spec = .ok t)
    (context input : Json) : OnlyReferences t.levels (t.apply context input) := by
  obtain ⟨⟨declared, s⟩, read, built⟩ := Outcome.map_eq_ok.mp compiled
  cases built
  have each := Dialect.compileRoot_fold Formula.levels (nests functions) (runLeaf_safe mode context)
    (runBranch_safe mode) read (List.Subset.refl _)
  refine rootWalk_bind maxDepth (some (wrap input)) fun w room => ?_
  rw [run, Tree.fold_branch]
  have safe := runBranch_safe mode maxDepth (.literal rootKey) declared _ (List.nil_subset _) each
  exact (safe _ _ _ _ room).bind fun _ _ => .ok _

end Modify

namespace Remove

/-- On walks with some room nothing in a child fails but references. -/
def Safe (named : List Nat) (space : Nat) (child : Element × Action) : Prop :=
  child.1.levels ⊆ named ∧
    ∀ matched w value, w.HasRoom space → OnlyReferences named (child.2 matched w value)

private theorem leave?_safe {children : List (Element × Action)}
    (each : ∀ child ∈ children, Safe named space child) (room : w.HasRoom space) (key : String)
    (value : Json) : OnlyReferences named (leave? w key children value) := by
  induction children generalizing value with
  | nil => exact .ok _
  | cons child rest ih =>
    obtain ⟨⟨own, first⟩, later⟩ := List.forall_mem_cons.mp each
    refine (child.1.match?_onlyReferences w own key).bind fun found _ => ?_
    cases found with
    | none => exact ih later value
    | some matched =>
      refine (first matched w value room).bind fun left _ => ?_
      cases left with
      | none => exact .ok _
      | some left => exact ih later left

theorem sweep_safe {s : Siblings Action} (each : ∀ child ∈ s.all, Safe named space child)
    (room : w.HasRoom space) (value : Json) : OnlyReferences named (sweep s w value) :=
  OnlyReferences.filterMapEntries value fun key => leave?_safe each room key

theorem runLeaf_safe (space : Nat) (element : Element) (info : Unit)
    (own : element.levels ⊆ named) : Safe named space (element, runLeaf info) :=
  ⟨own, fun _ _ _ _ => .ok _⟩

private theorem runBranch_safe (space : Nat) (element : Element) (info : Unit) (s : Siblings Action)
    (own : element.levels ⊆ named) (each : ∀ child ∈ s.all, Safe named space child) :
    Safe named (space + 1) (element, runBranch info s) :=
  ⟨own, fun matched _ value room =>
    push_bind room none matched fun _ left => (sweep_safe each left value).map _⟩

theorem nests : dialect.Nests := by
  intro outer inner path element value below used info s made
  simp only [dialect, child] at made
  split at made
  · split at made
    · obtain ⟨⟨closed, children⟩, compiled, built⟩ := Outcome.map_eq_ok.mp made
      cases built
      exact compiled
    · split at made
      · cases made
      · cases made
    · cases made
  · cases made

/-- The levels that the references of a remove name. -/
def levels (t : Remove) : List Nat :=
  t.children.levels fun _ => []

theorem apply_onlyReferences {maxDepth : Nat} {spec : Json} {t : Remove}
    (compiled : compile maxDepth spec = .ok t) (input : Json) :
    OnlyReferences t.levels (t.apply input) := by
  obtain ⟨⟨info, s⟩, read, built⟩ := Outcome.map_eq_ok.mp compiled
  cases built
  have each := Dialect.compileRoot_fold (fun _ => []) nests
    (fun room element info own _ => runLeaf_safe (room + 1) element info own) runBranch_safe read
    (List.Subset.refl _)
  exact rootWalk_bind maxDepth none fun w room => sweep_safe each room.less input

end Remove

namespace Default

/-- On walks with some room nothing in a child fails but references. -/
def Safe (named : List Nat) (space : Nat) (child : Element × Action) : Prop :=
  child.1.levels ⊆ named ∧
    ∀ matched w value, w.HasRoom space → OnlyReferences named (child.2 matched w value)

theorem fillEntry_safe {children : List (Element × Action)}
    (each : ∀ child ∈ children, Safe named space child) (room : w.HasRoom space) (key : String)
    (value : Json) : OnlyReferences named (fillEntry w key children value) := by
  induction children generalizing value with
  | nil => exact .ok _
  | cons child rest ih =>
    obtain ⟨⟨own, first⟩, later⟩ := List.forall_mem_cons.mp each
    refine (child.1.match?_onlyReferences w own key).bind fun found _ => ?_
    cases found with
    | none => exact ih later value
    | some matched => exact (first matched w value room).bind fun filled _ => ih later filled

private theorem fillPlace_safe {element : Element} {act : Action}
    (safe : Safe named space (element, act))
    (room : w.HasRoom space) (text : String) (node : Json) :
    OnlyReferences named (fillPlace w text act node) := by
  simp only [fillPlace]
  split
  · exact (safe.2 _ w _ room).bind fun _ _ => .ok _
  · exact (safe.2 _ w _ room).bind fun _ _ => .ok _
  · exact (safe.2 _ w _ room).bind fun _ _ => .ok _

private theorem fillPlaces_safe {places : List (String × Action)}
    (each : ∀ place ∈ places, Safe named space (.literal place.1, place.2))
    (room : w.HasRoom space) (node : Json) : OnlyReferences named (fillPlaces w places node) := by
  induction places generalizing node with
  | nil => exact .ok _
  | cons place rest ih =>
    obtain ⟨first, later⟩ := List.forall_mem_cons.mp each
    exact (fillPlace_safe first room place.1 node).bind fun filled _ => ih later filled

private theorem fillChildren_safe {s : Siblings Action}
    (each : ∀ child ∈ s.all, Safe named space child)
    (room : w.HasRoom space) (node : Json) : OnlyReferences named (fillChildren s w node) := by
  refine (fillPlaces_safe (Siblings.forall_literals each) room node).bind fun filled _ => ?_
  exact OnlyReferences.mapEntries filled fun key =>
    fillEntry_safe (Siblings.forall_computed each) room key

theorem runLeaf_safe (space : Nat) (element : Element) (value : Json)
    (own : element.levels ⊆ named) : Safe named space (element, runLeaf value) :=
  ⟨own, fun _ _ _ _ => .ok _⟩

private theorem runBranch_safe (space : Nat) (element : Element) (container : Container)
    (s : Siblings Action) (own : element.levels ⊆ named)
    (each : ∀ child ∈ s.all, Safe named space child) :
    Safe named (space + 1) (element, runBranch container s) := by
  refine ⟨own, fun matched w value room => ?_⟩
  change OnlyReferences named (runBranch container s matched w value)
  rw [runBranch]
  generalize (if value.isNull then container.empty else value) = node
  split
  · exact push_bind room none matched fun _ left => fillChildren_safe each left node
  · exact .ok _

theorem nests : dialect.Nests := by
  intro outer inner path element value below used info s made
  simp only [dialect, child] at made
  split at made
  · cases made
  · split at made
    · obtain ⟨⟨closed, children⟩, compiled, built⟩ := Outcome.map_eq_ok.mp made
      cases built
      exact compiled
    · split at made
      · cases made
      · cases made

/-- The levels that the references in one of the trees of a default name. -/
def treeLevels (s : Siblings Node) : List Nat :=
  s.levels fun _ => []

/-- The levels that the references of a default name. -/
def levels (t : Default) : List Nat :=
  treeLevels t.forObject ++ t.forArray.elim [] treeLevels

private theorem run_safe {maxDepth : Nat} {context : Container} {spec : Json} {info : Container}
    {children : Siblings Node}
    (compiled : dialect.compileRoot maxDepth context spec = .ok (info, children))
    (held : treeLevels children ⊆ named) (container : Container) :
    Safe named (maxDepth + 1) (.literal rootKey, run (.branch container children)) := by
  rw [run, Tree.fold_branch]
  have each := Dialect.compileRoot_fold (fun _ => []) nests
    (fun room element value own _ => runLeaf_safe (room + 1) element value own) runBranch_safe
    compiled held
  exact runBranch_safe maxDepth _ container _ (List.nil_subset _) each

/-- The tree for a document was compiled. -/
theorem root_safe {maxDepth : Nat} {spec : Json} {t : Default}
    (compiled : compile maxDepth spec = .ok t) {input : Json} {node : Node}
    (found : t.root input = .ok node) :
    t.maxDepth = maxDepth ∧ Safe t.levels (maxDepth + 1) (.literal rootKey, run node) := by
  obtain ⟨⟨info, forObject⟩, object, made⟩ := Outcome.bind_eq_ok.mp compiled
  cases made
  refine ⟨rfl, ?_⟩
  unfold root at found
  split at found
  · cases found
    exact run_safe object (List.subset_append_left _ _) .object
  · cases found
    exact run_safe object (List.subset_append_left _ _) .object
  · split at found
    · cases found
      rename_i children compiled
      have held : treeLevels children ⊆ levels ⟨maxDepth, forObject, some children⟩ :=
        List.subset_append_right _ _
      dsimp only at compiled
      split at compiled
      · cases compiled
        rename_i array
        exact run_safe array held .array
      · cases compiled
    · cases found
  · cases found

/-- A document is refused for having no tree, and nothing else fails but references. -/
theorem apply_fails {maxDepth : Nat} {spec : Json} {t : Default}
    (compiled : compile maxDepth spec = .ok t) {input : Json} {e : RunError}
    (failed : t.apply input = .error e) :
    (e.IsReference ∨ e = .overflow ∧ Overflows t.levels) ∨ t.root input = .error e := by
  rw [apply] at failed
  cases found : t.root input with
  | error refused =>
    rw [found] at failed
    cases failed
    exact .inr rfl
  | ok node =>
    obtain ⟨same, safe⟩ := root_safe compiled found
    rw [found, same] at failed
    exact .inl (rootWalk_bind maxDepth none (fun w room => safe.2 _ w input room) e failed)

end Default

end Reshape.Transform
