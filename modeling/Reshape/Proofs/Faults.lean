import Reshape.Evaluation
import Reshape.Json.Entries
import Reshape.Proofs.Outcome

namespace Reshape

namespace Key

def Piece.levels : Piece → List Nat
  | text _ => []
  | captured r => [r.level]

def PlainStep.levels : PlainStep → List Nat
  | template pieces => pieces.flatMap Piece.levels
  | counter level => [level]
  | captured r => [r.level]
  | _ => []

def Lookup.levels (l : Lookup) : List Nat :=
  l.level :: l.path.flatMap PlainStep.levels

def Step.levels : Step → List Nat
  | plain s => s.levels
  | lookup l => l.levels
  | itemLookup l => l.levels
  | append => []

def Path.levels (path : Path) : List Nat :=
  path.flatMap Step.levels

def Element.levels : Element → List Nat
  | step s => s.levels
  | captured r => [r.level]
  | _ => []

end Key

def RunError.IsReference (e : RunError) : Prop :=
  ∃ reference depth groups, e = .outOfRange reference depth groups

/-- One of some levels has none after it that is a word. -/
def Overflows (named : List Nat) : Prop :=
  ∃ level ∈ named, Decimal.wordBound ≤ level + 1

/-- A computation in which nothing fails but references, and nothing stops the program but
one of the levels that they name. -/
def OnlyReferences {α : Type} (named : List Nat) (x : Except RunError α) : Prop :=
  ∀ e, x = .error e → e.IsReference ∨ e = .overflow ∧ Overflows named

namespace OnlyReferences

variable {α β : Type} {named : List Nat}

theorem ok (a : α) : OnlyReferences named (.ok a) :=
  fun _ failed => nomatch failed

theorem bind {x : Except RunError α} {next : α → Except RunError β}
    (first : OnlyReferences named x) (later : ∀ a, x = .ok a → OnlyReferences named (next a)) :
    OnlyReferences named (x >>= next) := by
  intro e failed
  cases x with
  | error _ =>
    cases failed
    exact first e rfl
  | ok a => exact later a rfl e failed

theorem map {x : Except RunError α} (f : α → β) (first : OnlyReferences named x) :
    OnlyReferences named (x.map f) := by
  intro e failed
  cases x with
  | error _ =>
    cases failed
    exact first e rfl
  | ok a => cases failed

private theorem mapM {f : α → Except RunError β} {xs : List α}
    (each : ∀ x ∈ xs, OnlyReferences named (f x)) : OnlyReferences named (xs.mapM f) := by
  induction xs with
  | nil => exact .ok []
  | cons x rest ih =>
    obtain ⟨first, later⟩ := List.forall_mem_cons.mp each
    rw [List.mapM_cons]
    exact first.bind fun _ _ => (ih later).bind fun _ _ => .ok _

private theorem filterMapM {f : α → Except RunError (Option β)} {xs : List α}
    (each : ∀ x ∈ xs, OnlyReferences named (f x)) : OnlyReferences named (xs.filterMapM f) := by
  induction xs with
  | nil => exact .ok []
  | cons x rest ih =>
    obtain ⟨first, later⟩ := List.forall_mem_cons.mp each
    rw [List.filterMapM_cons]
    refine first.bind fun kept _ => ?_
    cases kept with
    | none => exact ih later
    | some value => exact (ih later).bind fun _ _ => .ok _

theorem mapEntries (doc : Json) {f : String → Json → Except RunError Json}
    (each : ∀ key value, OnlyReferences named (f key value)) :
    OnlyReferences named (doc.mapEntries f) := by
  cases doc with
  | obj members => exact (mapM fun member _ => (each member.1 member.2).map _).map _
  | arr items => exact (mapM fun item _ => each _ item.1).map _
  | _ => exact .ok _

theorem filterMapEntries (doc : Json) {f : String → Json → Except RunError (Option Json)}
    (each : ∀ key value, OnlyReferences named (f key value)) :
    OnlyReferences named (doc.filterMapEntries f) := by
  cases doc with
  | obj members => exact (filterMapM fun member _ => (each member.1 member.2).map _).map _
  | arr items => exact (filterMapM fun item _ => each _ item.1).map _
  | _ => exact .ok _

end OnlyReferences

namespace Walk

variable {w : Walk} {levels level : Nat} {named : List Nat}

def HasRoom (w : Walk) (levels : Nat) : Prop :=
  w.depth + levels ≤ w.limit

theorem HasRoom.push (room : w.HasRoom (levels + 1)) (tree : Option Json) (matched : Match) :
    ∃ inner, w.push tree matched = .ok inner ∧ inner.HasRoom levels := by
  have free : w.depth < w.limit := by
    have bounded : w.depth + (levels + 1) ≤ w.limit := room
    omega
  refine ⟨_, enter_isOk _ free, ?_⟩
  have bounded : w.depth + (levels + 1) ≤ w.limit := room
  simp only [HasRoom, depth, List.length_cons] at bounded ⊢
  omega

theorem HasRoom.less (room : w.HasRoom (levels + 1)) : w.HasRoom levels :=
  Nat.le_of_succ_le room

theorem HasRoom.counted (room : w.HasRoom levels) : w.counted.HasRoom levels := by
  have limit : w.counted.limit = w.limit := by
    unfold Walk.counted
    split <;> rfl
  rw [HasRoom, depth_counted, limit]
  exact room

theorem frameAt_onlyReferences (held : level ∈ named) : OnlyReferences named (w.frameAt level) := by
  intro e failed
  unfold frameAt at failed
  split at failed
  · cases failed
  · split at failed
    · cases failed
    · rename_i beyond
      cases failed
      exact .inr ⟨rfl, level, held, Nat.le_of_not_lt beyond⟩

theorem outOfRange_onlyReferences {α : Type} (w : Walk) (reference : String) (level : Nat) :
    OnlyReferences named (.error (w.outOfRange reference level) : Except RunError α) := by
  intro e failed
  cases failed
  exact .inl ⟨_, _, _, rfl⟩

theorem resolve_onlyReferences (w : Walk) (token : Char) {r : Key.Reference}
    (held : r.level ∈ named) : OnlyReferences named (w.resolve token r) := by
  refine (frameAt_onlyReferences held).bind fun frame _ => ?_
  cases frame.bind fun frame => frame.matched.groups[r.group]? with
  | some text => exact .ok _
  | none => exact outOfRange_onlyReferences w _ _

theorem counter_onlyReferences (w : Walk) (held : level ∈ named) :
    OnlyReferences named (w.counter level) := by
  refine (frameAt_onlyReferences held).bind fun frame _ => ?_
  cases frame with
  | some frame => exact .ok _
  | none => exact outOfRange_onlyReferences w _ _

end Walk

namespace Traversal

variable {t : Traversal} {keys : List String} {named : List Nat}

theorem get?_onlyReferences (fits : keys.length = t.length) (doc : Json) :
    OnlyReferences named (t.get? keys doc) := by
  rw [get?, route, if_pos fits]
  exact .ok _

theorem set_onlyReferences (fits : keys.length = t.length) (policy : WritePolicy)
    (data doc : Json) : OnlyReferences named (t.set policy keys data doc) := by
  rw [set, route, if_pos fits]
  exact .ok _

end Traversal

namespace Key

variable {α : Type} {evaluate : α → Except RunError (Option String)}

/-- There is one key for each step. -/
theorem length_evaluateAll {items : List α} {keys : List String}
    (evaluated : evaluateAll evaluate items = .ok (some keys)) : keys.length = items.length := by
  induction items generalizing keys with
  | nil =>
    cases evaluated
    rfl
  | cons item rest ih =>
    rw [evaluateAll] at evaluated
    obtain ⟨key, -, evaluated⟩ := Outcome.bind_eq_ok.mp evaluated
    cases key with
    | none => cases evaluated
    | some key =>
      obtain ⟨more, later, built⟩ := Outcome.map_eq_ok.mp evaluated
      obtain ⟨others, rfl, rfl⟩ := Option.map_eq_some_iff.mp built
      rw [List.length_cons, List.length_cons, ih later]

variable {named : List Nat}

/-- All items of a list name levels of a list if the list names no others. -/
theorem levels_subset {α : Type} {levels : α → List Nat} {items : List α}
    (held : items.flatMap levels ⊆ named) : ∀ item ∈ items, levels item ⊆ named :=
  fun item present _ own => held (List.mem_flatMap.mpr ⟨item, present, own⟩)

theorem evaluateAll_onlyReferences {items : List α}
    (each : ∀ item ∈ items, OnlyReferences named (evaluate item)) :
    OnlyReferences named (evaluateAll evaluate items) := by
  induction items with
  | nil => exact .ok _
  | cons item rest ih =>
    obtain ⟨first, later⟩ := List.forall_mem_cons.mp each
    refine first.bind fun key _ => ?_
    cases key with
    | none => exact .ok _
    | some key => exact (ih later).map _

variable (w : Walk)

theorem Template.evaluate_onlyReferences {pieces : Template}
    (held : pieces.flatMap Piece.levels ⊆ named) :
    OnlyReferences named (Template.evaluate w pieces) := by
  induction pieces with
  | nil => exact .ok _
  | cons piece rest ih =>
    rw [List.flatMap_cons, List.append_subset] at held
    cases piece with
    | text value => exact (ih held.2).map _
    | captured r =>
      refine (w.resolve_onlyReferences '&' (held.1 List.mem_cons_self)).bind fun _ _ => ?_
      exact (ih held.2).map _

theorem PlainStep.evaluate_onlyReferences {s : PlainStep} (held : s.levels ⊆ named) :
    OnlyReferences named (s.evaluate w) := by
  cases s with
  | key text => exact .ok _
  | template pieces => exact (Template.evaluate_onlyReferences w held).map _
  | item index => exact .ok _
  | counter level => exact (w.counter_onlyReferences (held List.mem_cons_self)).map _
  | captured r => exact (w.resolve_onlyReferences '&' (held List.mem_cons_self)).map _

theorem Lookup.object?_onlyReferences {l : Lookup} (held : l.levels ⊆ named) :
    OnlyReferences named (l.object? w) := by
  obtain ⟨own, others⟩ := List.cons_subset.mp held
  refine (Walk.frameAt_onlyReferences own).bind fun frame _ => ?_
  cases frame with
  | none =>
    intro e failed
    cases failed
    exact .inl ⟨_, _, _, rfl⟩
  | some frame =>
    dsimp only
    split
    · exact .ok _
    · refine (evaluateAll_onlyReferences fun s present =>
        PlainStep.evaluate_onlyReferences w (levels_subset others s present)).bind
        fun keys evaluated => ?_
      cases keys with
      | none => exact .ok _
      | some keys =>
        refine Traversal.get?_onlyReferences ?_ _
        rw [length_evaluateAll evaluated, Path.traversal, List.length_map, List.length_map]

private theorem Step.evaluate_onlyReferences {s : Step} (held : s.levels ⊆ named) :
    OnlyReferences named (s.evaluate w) := by
  cases s with
  | plain s => exact PlainStep.evaluate_onlyReferences w held
  | lookup l => exact (l.object?_onlyReferences w held).map _
  | append => exact .ok _
  | itemLookup l => exact ((l.object?_onlyReferences w held).map _).map _

theorem Path.evaluate_onlyReferences {path : Path} (held : path.levels ⊆ named) :
    OnlyReferences named (path.evaluate w) :=
  evaluateAll_onlyReferences fun s present =>
    Step.evaluate_onlyReferences w (levels_subset held s present)

theorem Path.length_evaluate {path : Path} {keys : List String}
    (evaluated : path.evaluate w = .ok (some keys)) : keys.length = path.traversal.length := by
  rw [length_evaluateAll evaluated, Path.traversal, List.length_map]

theorem Path.read_onlyReferences {path : Path} (held : path.levels ⊆ named) (doc : Json) :
    OnlyReferences named (path.read w doc) := by
  refine (path.evaluate_onlyReferences w held).bind fun keys evaluated => ?_
  cases keys with
  | none => exact .ok _
  | some keys => exact Traversal.get?_onlyReferences (path.length_evaluate w evaluated) doc

theorem Path.write_onlyReferences {path : Path} (held : path.levels ⊆ named) (data doc : Json) :
    OnlyReferences named (path.write w data doc) := by
  refine (path.evaluate_onlyReferences w held).bind fun keys evaluated => ?_
  cases keys with
  | none => exact .ok _
  | some keys =>
    exact Traversal.set_onlyReferences (path.length_evaluate w evaluated) .collect data doc

theorem Element.match?_onlyReferences {e : Element} (held : e.levels ⊆ named) (key : String) :
    OnlyReferences named (e.match? w key) := by
  unfold Element.match?
  split
  case h_3 pieces => exact (Template.evaluate_onlyReferences w held).map _
  case h_5 r => exact (w.resolve_onlyReferences '$' (held List.mem_cons_self)).map _
  all_goals exact .ok _

end Key

end Reshape
