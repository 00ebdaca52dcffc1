import Reshape.Proofs.Unordered.Judges

namespace Reshape

open Key Spec

namespace Outcome

variable {ε α β : Type} {x y : Except ε α}

/-- What one computation returns is what the other one returns as well. -/
def Follows (x y : Except ε α) : Prop :=
  ∀ a, x = .ok a → y = .ok a

theorem Follows.refl (x : Except ε α) : Follows x x := fun _ => id

theorem Follows.bind {f g : α → Except ε β} (first : Follows x y)
    (later : ∀ a, Follows (f a) (g a)) : Follows (x >>= f) (y >>= g) := by
  intro b ran
  obtain ⟨a, found, rest⟩ := bind_eq_ok.mp ran
  exact bind_eq_ok.mpr ⟨a, first a found, later a b rest⟩

theorem Follows.map (first : Follows x y) (f : α → β) : Follows (x.map f) (y.map f) := by
  intro b ran
  obtain ⟨a, found, built⟩ := map_eq_ok.mp ran
  exact map_eq_ok.mpr ⟨a, first a found, built⟩

end Outcome

namespace Transform.Filter

open Outcome

/-- What one judge says the other one says as well. -/
def JudgeFollows (f g : Judge) : Prop :=
  ∀ element key value w, Follows (f element key value w) (g element key value w)

variable {α : Type} {f g : Element → α → Judge} {w : Walk}

private theorem offer_follows {children : List (Element × α)}
    (each : ∀ child ∈ children, JudgeFollows (f child.1 child.2) (g child.1 child.2)) (slot : Slot)
    (s : Sifted) :
    Follows (offer slot w s (children.map fun child => (child.1, f child.1 child.2)))
      (offer slot w s (children.map fun child => (child.1, g child.1 child.2))) := by
  induction children with
  | nil => exact .refl _
  | cons child rest ih =>
    obtain ⟨first, later⟩ := List.forall_mem_cons.mp each
    have asked : Follows (s.ask slot w child.1 (f child.1 child.2))
        (s.ask slot w child.1 (g child.1 child.2)) := by
      unfold Sifted.ask
      split
      · exact first _ _ _ _
      · exact .refl _
    refine asked.bind fun verdict => ?_
    cases verdict with
    | unmatched => exact ih later
    | keep value => exact .refl _
    | drop => exact .refl _

private theorem runVisits_follows {visits : List (Visit α)}
    (each : ∀ visit ∈ visits, ∀ child ∈ visit.candidates,
      JudgeFollows (f child.1 child.2) (g child.1 child.2)) (s : Sifted) :
    Follows (runVisits w (visits.map (Visit.map f)) s)
      (runVisits w (visits.map (Visit.map g)) s) := by
  induction visits generalizing s with
  | nil => exact .refl _
  | cons visit rest ih =>
    obtain ⟨first, later⟩ := List.forall_mem_cons.mp each
    exact (offer_follows first visit.slot s).bind fun verdict => ih later _

private theorem judgeBranch_follows {s : Siblings α}
    (each : ∀ child ∈ s.all, JudgeFollows (f child.1 child.2) (g child.1 child.2)) :
    JudgeFollows (judgeBranch () (s.map f)) (judgeBranch () (s.map g)) := by
  intro element key value w
  refine (Follows.refl _).bind fun found => ?_
  cases found with
  | none => exact .refl _
  | some matched =>
    refine (Follows.refl _).bind fun inner => Follows.map ?_ Verdict.keep
    rw [sift, sift, Siblings.visits_map, Siblings.visits_map]
    split
    · exact (runVisits_follows (Siblings.forall_visits each false value) _).map _
    · exact .refl _

private theorem judgeLeafWith_follows {first second : Walk → Json → Except RunError Bool}
    (tests : ∀ w value, Follows (first w value) (second w value)) :
    JudgeFollows (judgeLeafWith first) (judgeLeafWith second) := by
  intro element key value w
  refine (Follows.refl _).bind fun found => ?_
  cases found with
  | none => exact .refl _
  | some matched =>
    exact (Follows.refl _).bind fun inner => (tests inner value).bind fun _ => .refl _

/-- A judge follows one with another test if the test does. -/
theorem judgeWith_follows {test lenient : List Predicate → Walk → Json → Except RunError Bool}
    (tests : ∀ predicates w value, Follows (test predicates w value) (lenient predicates w value))
    (t : Node) : JudgeFollows (judgeWith test t) (judgeWith lenient t) := by
  induction t using Tree.induct with
  | leaf predicates =>
    simp only [judgeWith, Tree.fold]
    exact judgeLeafWith_follows (tests predicates)
  | branch info s ih =>
    rw [judgeWith_branch, judgeWith_branch]
    exact judgeBranch_follows ih

end Transform.Filter

end Reshape
