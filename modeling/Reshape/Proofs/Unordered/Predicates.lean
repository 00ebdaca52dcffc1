import Reshape.Proofs.Sifting
import Reshape.Proofs.Unordered.Matching

/-! Sets of predicates in another order. A filter tries the predicates of a set until one holds,
so a field that can not be read is noticed or not by their order. That order does not matter to
a test that takes no notice of such fields, nor where no predicate holds beside one of them. -/

namespace Reshape.Transform.Filter

open Key Spec Outcome

variable {doc other : Json} {w : Walk}

/-- Predicates on the same field that accept the same values. -/
structure SamePredicate (first second : Predicate) : Prop where
  field : first.field = second.field
  matcher : SameMatcher first.matcher second.matcher

def compilePredicate (path : Pointer) (member : String × Json) : Except BuildError Predicate :=
  match Path.parse member.1 with
  | .error e => .error ⟨Pointer.child path member.1, .grammar e⟩
  | .ok steps => (Matcher.compile (Pointer.child path member.1) member.2).map (⟨steps, ·⟩)

theorem compilePredicates_eq_mapM (path : Pointer) (members : Members) :
    compilePredicates path members = members.mapM (compilePredicate path) := by
  induction members with
  | nil => rfl
  | cons member rest ih =>
    rw [compilePredicates, List.mapM_cons, compilePredicate, ih]
    cases Path.parse member.1 with
    | error e => rfl
    | ok steps =>
      dsimp only
      cases Matcher.compile (Pointer.child path member.1) member.2 <;> rfl

private theorem compilePredicate_alike (alike : doc.Alike other) (path : Pointer) (field : String) :
    Outcome.Both SamePredicate (compilePredicate path (field, doc))
      (compilePredicate path (field, other)) := by
  unfold compilePredicate
  cases Path.parse field with
  | error e => exact .failed _ _
  | ok steps => exact (Matcher.compile_alike alike _).map fun same => ⟨rfl, same⟩

theorem compilePredicates_alike {pairs : List (String × Json × Json)}
    (each : ∀ pair ∈ pairs, pair.2.1.Alike pair.2.2) (path : Pointer) :
    Outcome.Both (List.Forall₂ SamePredicate)
      (compilePredicates path (pairs.map fun pair => (pair.1, pair.2.1)))
      (compilePredicates path (pairs.map fun pair => (pair.1, pair.2.2))) := by
  rw [compilePredicates_eq_mapM, compilePredicates_eq_mapM, List.mapM_map, List.mapM_map]
  exact Outcome.Both.mapM fun pair present => compilePredicate_alike (each pair present) path pair.1

/-- Whether the field of a predicate has a value that it accepts. -/
def Predicate.test (w : Walk) (value : Json) (p : Predicate) : Except RunError Bool :=
  (p.field.read w value).map fun found => found.any p.matcher.accepts

theorem satisfies_cons (w : Walk) (value : Json) (p : Predicate) (rest : List Predicate) :
    satisfies w value (p :: rest) = p.test w value >>= fun held =>
      if held then .ok true else satisfies w value rest := by
  rw [satisfies, Predicate.test, Outcome.map_bind]

variable {p q : Predicate} {predicates others : List Predicate}

theorem SamePredicate.test (same : SamePredicate p q) (twins : doc.Twins other) :
    Outcome.Both Eq (p.test w doc) (q.test w other) := by
  obtain ⟨field, matcher⟩ := same
  rw [Predicate.test, Predicate.test, ← field]
  refine (p.field.read_twins w doc other twins).map fun found => ?_
  cases found with
  | none => rfl
  | some held => exact matcher _ _ held

/-- Predicates in the same order agree on twins. -/
theorem satisfies_pointwise (each : List.Forall₂ SamePredicate predicates others)
    (twins : doc.Twins other) :
    Outcome.Both Eq (satisfies w doc predicates) (satisfies w other others) := by
  induction each with
  | nil => exact .done rfl
  | cons first _ ih =>
    rw [satisfies_cons, satisfies_cons]
    refine (first.test twins).bind fun same => ?_
    subst same
    exact .ite (fun _ => .done rfl) fun _ => ih

/-- Predicates in another order, or others in the same order that say the same. -/
def Reshuffled (predicates others : List Predicate) : Prop :=
  predicates.Perm others ∨ List.Forall₂ SamePredicate predicates others

/-- A predicate holds for no value beside one with a field that can not be read. -/
def Decisive (w : Walk) (predicates : List Predicate) : Prop :=
  ∀ value : Json, value.Keyed → ∀ p ∈ predicates, p.test w value = .ok true →
    ∀ q ∈ predicates, ∃ answer, q.test w value = .ok answer

def tryAll (w : Walk) (value : Json) (predicates : List Predicate) : Except RunError Bool :=
  (predicates.mapM (Predicate.test w value)).map (·.any id)

/-- Where predicates decide in any order, trying some of them is trying all of them. -/
theorem satisfies_tryAll {value : Json}
    (decisive : ∀ p ∈ predicates, p.test w value = .ok true →
      ∀ q ∈ predicates, ∃ answer, q.test w value = .ok answer) :
    Both Eq (satisfies w value predicates) (tryAll w value predicates) := by
  induction predicates with
  | nil => exact .done rfl
  | cons p rest ih =>
    have later := ih fun q present held further also =>
      decisive q (List.mem_cons_of_mem p present) held further (List.mem_cons_of_mem p also)
    rw [satisfies_cons, tryAll, List.mapM_cons]
    cases tried : p.test w value with
    | error e => exact .failed e e
    | ok held =>
      cases held with
      | false =>
        refine later.trans_eq ?_
        rw [tryAll]
        cases rest.mapM (Predicate.test w value) with
        | error e => exact .failed e e
        | ok answers => exact .done rfl
      | true =>
        obtain ⟨answers, ran⟩ := exists_mapM fun q present =>
          decisive p List.mem_cons_self tried q (List.mem_cons_of_mem p present)
        rw [ran]
        exact .done rfl

theorem SamePredicate.refl (p : Predicate) : SamePredicate p p :=
  ⟨rfl, p.matcher.accepts_twins⟩

private theorem tryAll_pointwise (each : List.Forall₂ SamePredicate predicates others)
    (twins : doc.Twins other) : Both Eq (tryAll w doc predicates) (tryAll w other others) := by
  have tests : Both (List.Forall₂ Eq) (predicates.mapM (Predicate.test w doc))
      (others.mapM (Predicate.test w other)) :=
    Both.mapM_forall₂ (each.imp fun _ _ same => same.test twins)
  refine tests.map fun same => ?_
  rw [List.forall₂_eq_eq_eq] at same
  rw [same]

private theorem tryAll_reshuffled (reshuffled : Reshuffled predicates others)
    (twins : doc.Twins other) :
    Both Eq (tryAll w doc predicates) (tryAll w other others) := by
  rcases reshuffled with same | each
  · have moved := (Both.mapM_perm same (Predicate.test w doc)).map fun same => same.any_eq (f := id)
    exact moved.eq_trans
      (tryAll_pointwise (List.forall₂_same.mpr fun p _ => .refl p) twins)
  · exact tryAll_pointwise each twins

theorem Decisive.reshuffled (decisive : Decisive w predicates)
    (reshuffled : Reshuffled predicates others) : Decisive w others := by
  intro value keyed p present held q also
  rcases reshuffled with same | each
  · exact decisive value keyed p (same.mem_iff.mpr present) held q (same.mem_iff.mpr also)
  · obtain ⟨first, there, one⟩ := exists_of_forall₂ each present
    obtain ⟨second, here, two⟩ := exists_of_forall₂ each also
    have holds := ((one.test (.refl keyed)).eq_ok_iff true).mpr held
    obtain ⟨answer, tried⟩ := decisive value keyed first there holds second here
    exact ⟨answer, ((two.test (.refl keyed)).eq_ok_iff answer).mp tried⟩

theorem satisfies_reshuffled (reshuffled : Reshuffled predicates others)
    (decisive : Decisive w predicates) (twins : doc.Twins other) :
    Both Eq (satisfies w doc predicates) (satisfies w other others) := by
  have first := satisfies_tryAll (decisive doc twins.keyed)
  have second := satisfies_tryAll (decisive.reshuffled reshuffled other twins.symm.keyed)
  exact first.eq_trans ((tryAll_reshuffled reshuffled twins).trans_eq second)

private theorem passes_eq_any (w : Walk) (value : Json) (predicates : List Predicate) :
    passes w value predicates =
      predicates.any fun p => (p.test w value).toOption.getD false := by
  rw [passes]
  refine congrArg (List.any predicates) (funext fun p => ?_)
  rw [Predicate.test]
  cases p.field.read w value with
  | error e => rfl
  | ok found => cases found <;> rfl

private theorem passes_pointwise (each : List.Forall₂ SamePredicate predicates others)
    (twins : doc.Twins other) : passes w doc predicates = passes w other others := by
  rw [passes_eq_any, passes_eq_any]
  induction each with
  | nil => rfl
  | @cons p q _ _ first _ ih =>
    have tested := first.test (w := w) twins
    rw [List.any_cons, List.any_cons, ih]
    generalize p.test w doc = one, q.test w other = two at tested
    cases tested with
    | failed e last => rfl
    | done same => rw [same]

theorem passes_reshuffled (reshuffled : Reshuffled predicates others) (twins : doc.Twins other) :
    passes w doc predicates = passes w other others := by
  rcases reshuffled with same | each
  · refine Eq.trans ?_ (passes_pointwise (List.forall₂_same.mpr fun p _ => .refl p) twins)
    exact same.any_eq
  · exact passes_pointwise each twins

end Reshape.Transform.Filter
