import Reshape.Proofs.Routes
import Reshape.Proofs.Spec.Rearranging
import Reshape.Transform.Filter

namespace Reshape

open Key Spec

namespace Json

variable {doc other expected : Json} {members others : Members}

theorem sameMembers_eq_all (members others : Members) : sameMembers members others =
    members.all fun member => (Members.get? member.1 others).any member.2.same := by
  induction members with
  | nil => rw [sameMembers, List.all_nil]
  | cons member rest ih =>
    rw [sameMembers, List.all_cons, ih]
    cases Members.get? member.1 others <;> rfl

private theorem sameItems_congr_left {items further : List Json}
    (each : List.Forall₂ (fun first second => ∀ value, same first value = same second value)
      items further) (values : List Json) : sameItems items values = sameItems further values := by
  induction each generalizing values with
  | nil => rfl
  | cons first _ ih =>
    cases values with
    | nil => simp only [sameItems]
    | cons value values => simp only [sameItems, first value, ih values]

private theorem sameItems_congr_right {items further : List Json}
    (each : List.Forall₂ (fun first second => ∀ value, same value first = same value second)
      items further) (values : List Json) : sameItems values items = sameItems values further := by
  induction each generalizing values with
  | nil => rfl
  | cons first _ ih =>
    cases values with
    | nil => simp only [sameItems]
    | cons value values => simp only [sameItems, first value, ih values]

/-- What a value is compared with may have its members in another order. -/
theorem same_alike_left (alike : doc.Alike other) (value : Json) :
    doc.same value = other.same value := by
  induction alike generalizing value with
  | refl doc => rfl
  | trans _ _ one two => exact (one value).trans (two value)
  | shuffle same =>
    cases value with
    | obj members => simp only [Json.same, sameMembers_eq_all, same.length_eq, same.all_eq]
    | _ => rfl
  | @members pairs _ ih =>
    cases value with
    | obj members =>
      simp only [Json.same, sameMembers_eq_all, List.length_map, List.all_map]
      congr 1
      rw [Bool.eq_iff_iff, List.all_eq_true, List.all_eq_true]
      refine forall₂_congr fun pair present => ?_
      simp only [Function.comp_apply, funext (ih pair present)]
    | _ => rfl
  | @items pairs _ ih =>
    cases value with
    | arr values =>
      refine sameItems_congr_left ?_ values
      rw [List.forall₂_map_left_iff, List.forall₂_map_right_iff]
      exact List.forall₂_same.mpr ih
    | _ => rfl

/-- A value that is compared may have its members in another order. -/
theorem same_twins (twins : doc.Twins other) (expected : Json) :
    expected.same doc = expected.same other := by
  obtain ⟨alike, keyed⟩ := twins
  induction alike generalizing expected with
  | refl doc => rfl
  | trans first _ one two => exact (one expected keyed).trans (two expected (first.keyed keyed))
  | shuffle same =>
    cases expected with
    | obj members =>
      simp only [Json.same, sameMembers_eq_all, same.length_eq,
        Members.get?_perm same keyed.hasDistinctKeys]
    | _ => rfl
  | @members pairs each ih =>
    cases expected with
    | obj members =>
      have below := List.forall_mem_map.mp (Dialect.keyed_members keyed)
      have found (key : String) (value : Json) :
          (Members.get? key (pairs.map fun pair => (pair.1, pair.2.1))).any value.same =
            (Members.get? key (pairs.map fun pair => (pair.1, pair.2.2))).any value.same := by
        clear keyed each
        induction pairs with
        | nil => rfl
        | cons pair rest deeper =>
          obtain ⟨first, later⟩ := List.forall_mem_cons.mp ih
          obtain ⟨own, others⟩ := List.forall_mem_cons.mp below
          rw [List.map_cons, List.map_cons, Members.get?, Members.get?]
          split
          · exact first value own
          · exact deeper later others
      simp only [Json.same, sameMembers_eq_all, List.length_map, found]
    | _ => rfl
  | @items pairs _ ih =>
    cases expected with
    | arr values =>
      refine sameItems_congr_right ?_ values
      rw [List.forall₂_map_left_iff, List.forall₂_map_right_iff]
      refine List.forall₂_same.mpr fun pair present value => ih pair present value ?_
      cases keyed with
      | scalar plain => cases plain
      | array each => exact List.forall_mem_map.mp each pair present
    | _ => rfl

end Json

variable {doc other : Json} {w : Walk}

private theorem StepKind.child?_member (key : String) (doc : Json) :
    StepKind.member.child? key doc =
    if doc.isObject then (Slot.member key).child? doc else none := by
  cases doc <;> rfl

private theorem StepKind.child?_item (key : String) (doc : Json) : StepKind.item.child? key doc =
    if doc.isArray then (Slot.member key).child? doc else none := by
  cases doc <;> rfl

private theorem StepKind.child?_twins (twins : doc.Twins other) (kind : StepKind) (key : String) :
    Option.Rel Json.Twins (kind.child? key doc) (kind.child? key other) := by
  cases kind with
  | member =>
    rw [child?_member, child?_member, ← twins.alike.isObject_eq]
    split
    · exact twins.child? _
    · exact .none
  | item =>
    rw [child?_item, child?_item, ← twins.alike.isArray_eq]
    split
    · exact twins.child? _
    · exact .none
  | append => exact .none

private theorem Route.get?_twins (twins : doc.Twins other) (route : Route) :
    Option.Rel Json.Twins (route.get? doc) (route.get? other) := by
  induction route generalizing doc other with
  | nil => exact .some twins
  | cons step rest ih =>
    have held := StepKind.child?_twins twins step.1 step.2
    rw [get?, get?]
    generalize step.1.child? step.2 doc = value, step.1.child? step.2 other = also at held
    cases held with
    | none => exact .none
    | some same => exact ih same

/-- The same fields of twins can be read, and are twins. -/
theorem Key.Path.read_twins (path : Path) (w : Walk) :
    Json.Twins.Agree (Option.Rel Json.Twins) (path.read w) (path.read w) := by
  intro value other twins
  refine Outcome.Both.bind_same fun keys _ => ?_
  cases keys with
  | none => exact .done .none
  | some keys =>
    change Outcome.Both _ (path.traversal.get? keys value) (path.traversal.get? keys other)
    unfold Traversal.get?
    cases path.traversal.route keys with
    | error e => exact .failed e e
    | ok route => exact .done (route.get?_twins twins)

namespace Transform.Filter

/-- Matchers accept the same values, up to the order of members. -/
def SameMatcher (first second : Matcher) : Prop :=
  ∀ value other : Json, value.Twins other → first.accepts value = second.accepts other

namespace Matcher

mutual

/-- A matcher does not look at the order of members. -/
theorem accepts_twins : ∀ m : Matcher, SameMatcher m m
  | .regex pattern => fun value other twins => by
    rw [accepts, accepts, subject?, subject?, twins.alike.keyText?_eq]
  | .equal expected => fun value other twins => by
    rw [accepts, accepts, Json.same_twins twins]
  | .anyOf members => fun value other twins => by
    rw [accepts, accepts]
    exact anyAccepts_twins members value other twins

theorem anyAccepts_twins : ∀ (members : List Matcher) (value other : Json), value.Twins other →
    anyAccepts members value = anyAccepts members other
  | [] => fun _ _ _ => by rw [anyAccepts, anyAccepts]
  | m :: rest => fun value other twins => by
    rw [anyAccepts, anyAccepts, accepts_twins m value other twins,
      anyAccepts_twins rest value other twins]

end

theorem anyAccepts_congr {members others : List Matcher}
    (each : List.Forall₂ SameMatcher members others) {value other : Json}
    (twins : value.Twins other) : anyAccepts members value = anyAccepts others other := by
  induction each with
  | nil => rw [anyAccepts, anyAccepts]
  | cons first _ ih => rw [anyAccepts, anyAccepts, first value other twins, ih]

private theorem compileAll_eq_mapM (path : Pointer) (members : List Json) :
    compileAll path members = members.mapM (compile path) := by
  induction members with
  | nil => rw [compileAll]; rfl
  | cons member rest ih => rw [compileAll, List.mapM_cons, ih]; rfl

/-- What must be equal to an object may have its members in another order. -/
theorem equal_same {members others : Members} (alike : (Json.obj members).Alike (.obj others)) :
    SameMatcher (.equal (.obj members)) (.equal (.obj others)) := by
  intro value other twins
  rw [accepts, accepts, Json.same_twins twins, Json.same_alike_left alike]

theorem compile_alike (alike : doc.Alike other) (path : Pointer) :
    Outcome.Both SameMatcher (compile path doc) (compile path other) := by
  induction alike with
  | refl doc => exact .of_eq accepts_twins rfl
  | trans _ _ one two =>
    refine one.trans (fun one two value other twins => ?_) two
    exact (one value value (.refl twins.keyed)).trans (two value other twins)
  | shuffle same => exact .done (equal_same (.shuffle same))
  | members each => exact .done (equal_same (.members each))
  | @items pairs _ ih =>
    rw [compile, compile, compileAll_eq_mapM, compileAll_eq_mapM, List.mapM_map, List.mapM_map]
    refine (Outcome.Both.mapM ih).map fun each value other twins => ?_
    rw [accepts, accepts]
    exact anyAccepts_congr each twins

end Matcher

end Transform.Filter

end Reshape
