import Reshape.Chain
import Reshape.Proofs.Unordered.Cardinality
import Reshape.Proofs.Unordered.Default
import Reshape.Proofs.Unordered.Filter
import Reshape.Proofs.Unordered.Remove

/-! The order of members in specs and inputs of default, remove, cardinality and filter. Specs
that are equal up to the order of members compile, or fail to, and what the stages make of inputs
that are equal up to that order is so as well. Only the predicates of a filter have an order that
shows: one that holds hides the ones after it, and the error of a field that can not be read. -/

namespace Reshape

open Spec Transform

/-- The kinds of stages whose results do not depend on the order of members. -/
def Operation.isUnordered : Operation → Bool
  | default | remove | cardinality | filter => true
  | _ => false

namespace Stage

/-- Literals that stand side by side address different places of any array that they are looked
up in: no two of them are the same index. -/
def ApartIndices (input : Json) : Stage → Prop
  | default t => t.ApartIndices input
  | cardinality t => t.ApartIndices
  | filter t => t.ApartIndices
  | _ => True

/-- In no set of predicates can one hold beside one whose field can not be read. -/
def Sure : Stage → Prop
  | filter t => t.Sure
  | _ => True

/-- What two stages make of inputs that are equal up to the order of members is so as well. Where
predicates decide in any order, or keep theirs, both of the stages fail or none of them does. -/
structure SameUnordered (kept : Prop) (stage twin : Stage) : Prop where
  results : ∀ context input another : Json, input.Alike another → input.Keyed →
    stage.ApartIndices input → ∀ first second, stage.apply context input = .ok first →
      twin.apply context another = .ok second → first.Alike second
  faults : stage.Sure ∨ kept → ∀ context input another : Json, input.Alike another →
    input.Keyed → stage.ApartIndices input →
      Outcome.Both Json.Alike (stage.apply context input) (twin.apply context another)

variable {spec other : Json} {options : Options} {functions : Registry} {operation : Operation}

private theorem sameUnordered_of_both {kept : Prop} {stage twin : Stage}
    (both : ∀ context input another : Json, input.Twins another → stage.ApartIndices input →
      Outcome.Both Json.Twins (stage.apply context input) (twin.apply context another)) :
    SameUnordered kept stage twin := by
  have ran (context input another : Json) (alike : input.Alike another) (keyed : input.Keyed)
      (apart : stage.ApartIndices input) :
      Outcome.Both Json.Alike (stage.apply context input) (twin.apply context another) :=
    (both context input another ⟨alike, keyed⟩ apart).imp fun _ _ same => same.alike
  refine ⟨?_, fun _ => ran⟩
  intro context input another alike keyed apart first second one two
  have same := ran context input another alike keyed apart
  rw [one, two] at same
  cases same with
  | done alike => exact alike

private theorem sameUnordered_filter (alike : spec.Alike other) (keyed : spec.Keyed)
    (maxDepth : Nat) : Outcome.Both
      (fun t u => SameUnordered (spec.AlikeKeeping Filter.isPredicates other)
        (.filter t) (.filter u))
      (Filter.compile maxDepth spec) (Filter.compile maxDepth other) := by
  have compiled := Filter.compile_alike Filter.shuffles_free (.of_alike alike) keyed maxDepth
  refine compiled.imp fun {t u} made remade same => ⟨?_, ?_⟩
  · intro _ input another alike keyed apart first second ran also
    exact Filter.apply_alike same apart ⟨alike, keyed⟩ ran also
  · intro settled _ input another alike input_keyed apart
    have twins : input.Twins another := ⟨alike, input_keyed⟩
    refine Outcome.Both.imp ?_ fun _ _ (same : Json.Twins _ _) => same.alike
    rcases settled with sure | keeping
    · exact Filter.apply_twins_of_sure same apart sure twins
    · have kept := Filter.compile_alike Filter.shuffles_kept keeping keyed maxDepth
      rw [made, remade] at kept
      cases kept with
      | done ordered => exact Filter.apply_twins_of_kept ordered apart twins

/-- The order of members does not matter to default, remove, cardinality and filter, but for the
order of predicates where one can hold beside one whose field can not be read. -/
theorem compile_unordered (unordered : operation.isUnordered = true) (alike : spec.Alike other)
    (keyed : spec.Keyed) :
    Outcome.Both (SameUnordered (spec.AlikeKeeping Filter.isPredicates other))
      (compile options functions operation spec) (compile options functions operation other) := by
  cases operation with
  | default =>
    refine (Default.compile_alike alike keyed options.maxDepth).map fun same => ?_
    exact sameUnordered_of_both fun _ _ _ twins apart => Default.apply_twins same apart twins
  | remove =>
    refine (Remove.compile_alike alike keyed options.maxDepth).map fun same => ?_
    exact sameUnordered_of_both fun _ _ _ twins _ => Remove.apply_twins same twins
  | cardinality =>
    refine (Cardinality.compile_alike alike keyed options.maxDepth).map fun same => ?_
    exact sameUnordered_of_both fun _ _ _ twins apart => Cardinality.apply_twins same apart twins
  | filter => exact (sameUnordered_filter alike keyed options.maxDepth).map fun same => same
  | _ => cases unordered

/-- A filter of two items of a list by their fields. -/
def chooser : Stage :=
  .filter ⟨64, ⟨[("1", .leaf [⟨[.plain (.key "a")], .equal (.ofNat 1)⟩,
      ⟨[.plain (.key "b")], .equal (.ofNat 2)⟩]),
    ("2", .leaf [⟨[.plain (.key "a")], .equal (.ofNat 1)⟩])], [], [], .literalsOnly⟩⟩

/-- An item with two fields. -/
def pair (first second : String × Nat) : Json :=
  .obj [(first.1, .ofNat first.2), (second.1, .ofNat second.2)]

theorem keyed_pair {first second : String × Nat} (apart : first.1 ≠ second.1) :
    (pair first second).Keyed := by
  refine .object (List.nodup_cons.mpr ⟨?_, List.nodup_singleton _⟩) ?_
  · exact fun present => apart (List.mem_singleton.mp present)
  · exact List.forall_mem_cons.mpr ⟨.scalar rfl, List.forall_mem_singleton.mpr (.scalar rfl)⟩

private theorem apartIndices_chooser (input : Json) : chooser.ApartIndices input := by
  refine .branch ?_ (List.forall_mem_cons.mpr ⟨.leaf _, List.forall_mem_singleton.mpr (.leaf _)⟩)
  intro first present second also index read reread
  have one : Decimal.readIndex "1" = some 1 := by decide
  have two : Decimal.readIndex "2" = some 2 := by decide
  rcases List.mem_pair.mp present with rfl | rfl <;> rcases List.mem_pair.mp also with rfl | rfl
  · rfl
  · rw [one] at read; rw [two, ← read] at reread; cases reread
  · rw [two] at read; rw [one, ← read] at reread; cases reread
  · rfl

/-- The fields of a chooser can always be read. -/
theorem sure_chooser : chooser.Sure := by
  refine .branch (List.forall_mem_cons.mpr ⟨.leaf ?_, List.forall_mem_singleton.mpr (.leaf ?_)⟩)
  · exact fun w _ value _ _ _ _ =>
      List.forall_mem_cons.mpr ⟨⟨_, rfl⟩, List.forall_mem_singleton.mpr ⟨_, rfl⟩⟩
  · exact fun w _ value _ _ _ _ => List.forall_mem_singleton.mpr ⟨_, rfl⟩

/-- Literals and fields of a filter, and fields of its input, can change places. -/
theorem compile_unordered_chooser :
    compile .initial .empty .filter
        (.obj [("1", pair ("a", 1) ("b", 2)), ("2", .obj [("a", .ofNat 1)])]) = .ok chooser ∧
    ∃ twin, compile .initial .empty .filter
        (.obj [("2", .obj [("a", .ofNat 1)]), ("1", pair ("b", 2) ("a", 1))]) = .ok twin ∧
      Outcome.Both Json.Alike
        (chooser.apply .null (.arr [.null, pair ("a", 0) ("b", 2), pair ("a", 0) ("b", 2)]))
        (twin.apply .null (.arr [.null, pair ("b", 2) ("a", 0), pair ("b", 2) ("a", 0)])) := by
  have compiled : compile .initial .empty .filter
      (.obj [("1", pair ("a", 1) ("b", 2)), ("2", .obj [("a", .ofNat 1)])]) = .ok chooser := rfl
  have inside : Json.AlikeMembers
      [("1", pair ("a", 1) ("b", 2)), ("2", .obj [("a", .ofNat 1)])]
      [("1", pair ("b", 2) ("a", 1)), ("2", .obj [("a", .ofNat 1)])] :=
    .cons ⟨rfl, .shuffle (.swap ..)⟩ (.cons ⟨rfl, .refl _⟩ .nil)
  have alike := (Json.Alike.of_members inside).trans (.shuffle (.swap ..))
  have keyed : (Json.obj [("1", pair ("a", 1) ("b", 2)), ("2", .obj [("a", .ofNat 1)])]).Keyed :=
    .object (by decide) (List.forall_mem_cons.mpr ⟨keyed_pair (by decide),
      List.forall_mem_singleton.mpr (.object (by decide)
        (List.forall_mem_singleton.mpr (.scalar rfl)))⟩)
  have items : Json.Alike (.arr [.null, pair ("a", 0) ("b", 2), pair ("a", 0) ("b", 2)])
      (.arr [.null, pair ("b", 2) ("a", 0), pair ("b", 2) ("a", 0)]) :=
    .of_items (.cons (.refl _) (.cons (.shuffle (.swap ..)) (.cons (.shuffle (.swap ..)) .nil)))
  have keyed_items : (Json.arr [.null, pair ("a", 0) ("b", 2), pair ("a", 0) ("b", 2)]).Keyed :=
    .array (List.forall_mem_cons.mpr ⟨.scalar rfl, List.forall_mem_cons.mpr
      ⟨keyed_pair (by decide), List.forall_mem_singleton.mpr (keyed_pair (by decide))⟩⟩)
  obtain ⟨twin, recompiled⟩ : ∃ twin, compile .initial .empty .filter
      (.obj [("2", .obj [("a", .ofNat 1)]), ("1", pair ("b", 2) ("a", 1))]) = .ok twin := ⟨_, rfl⟩
  have both : Outcome.Both (SameUnordered _) (compile .initial .empty .filter _)
      (compile .initial .empty .filter _) := compile_unordered rfl alike keyed
  rw [compiled, recompiled] at both
  cases both with
  | done same => exact ⟨compiled, twin, recompiled, same.faults (.inl sure_chooser) .null _ _ items
      keyed_items (apartIndices_chooser _)⟩

/-- Two fields of which one can not be read: the other one hides that if it is tried first. -/
theorem order_of_predicates_shows :
    (Json.obj [("*", pair ("&5", 1) ("a", 1))]).Alike (.obj [("*", pair ("a", 1) ("&5", 1))]) ∧
    (Json.obj [("*", pair ("&5", 1) ("a", 1))]).Keyed ∧
    (Json.obj [("k", .obj [("a", .ofNat 1)])]).Keyed ∧
    ∃ stage twin fault,
      compile .initial .empty .filter (.obj [("*", pair ("&5", 1) ("a", 1))]) = .ok stage ∧
      compile .initial .empty .filter (.obj [("*", pair ("a", 1) ("&5", 1))]) = .ok twin ∧
      stage.ApartIndices (.obj [("k", .obj [("a", .ofNat 1)])]) ∧
      stage.apply .null (.obj [("k", .obj [("a", .ofNat 1)])]) = .error fault ∧
      twin.apply .null (.obj [("k", .obj [("a", .ofNat 1)])]) =
        .ok (.obj [("k", .obj [("a", .ofNat 1)])]) := by
  refine ⟨.of_members (.cons ⟨rfl, .shuffle (.swap ..)⟩ .nil), ?_, ?_, _, _, _, rfl, rfl, ?_,
    rfl, rfl⟩
  · exact .object (by decide) (List.forall_mem_singleton.mpr (keyed_pair (by decide)))
  · exact .object (by decide) (List.forall_mem_singleton.mpr (.object (by decide)
      (List.forall_mem_singleton.mpr (.scalar rfl))))
  · exact .branch nofun (List.forall_mem_singleton.mpr (.leaf _))

end Stage

end Reshape
