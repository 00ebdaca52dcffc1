import Reshape.Proofs.Spec.Rearranging
import Reshape.Proofs.Transform.Room
import Reshape.Proofs.Unordered.Visits
import Reshape.Transform.Cardinality

namespace Reshape.Transform.Cardinality

open Key Spec Outcome

variable {doc other value spec : Json} {w : Walk} {slot : Slot}

/-- A value that is handled is kept. -/
def verdict : Option Json → Filter.Verdict
  | none => .unmatched
  | some changed => .keep changed

/-- An action as a judge that drops nothing. -/
def judging (act : Action) : Filter.Judge :=
  fun element key value w => (act element key value w).map verdict

/-- On a walk two actions make twins of twins, or do not handle them. -/
def Agreeing (w : Walk) (element : Element) (f g : Action) : Prop :=
  ∀ key, Json.Twins.Agree (Option.Rel Json.Twins) (f element key · w) (g element key · w)

/-- Two actions agree on all walks. -/
def AlwaysAgreeing (f g : Action) : Prop :=
  ∀ element w, Agreeing w element f g

theorem Agreeing.judging {element : Element} {f g : Action} (agree : Agreeing w element f g) :
    Filter.Agreeing w element (judging f) (judging g) :=
  fun key value other twins => (agree key value other twins).map fun same => by
    cases same with
    | none => exact .unmatched
    | some same => exact .keep same

variable {α : Type} {f g : Element → α → Action}

private theorem offer_judging {doomed : List Slot} (held : slot.child? doc = some value)
    (children : List (Element × α)) :
    Filter.offer slot w ⟨doc, doomed⟩
        (children.map fun child => (child.1, judging (f child.1 child.2))) =
      (offer slot.key value w (children.map fun child => (child.1, f child.1 child.2))).map
        verdict := by
  induction children with
  | nil => rfl
  | cons child rest ih =>
    simp only [List.map_cons, Filter.offer, offer, Filter.Sifted.ask, held, judging, map_bind]
    cases f child.1 child.2 child.1 slot.key value w with
    | error e => rfl
    | ok found =>
      cases found with
      | none => exact ih
      | some changed => rfl

private theorem offer_judging_nothing {doomed : List Slot} (absent : slot.child? doc = none)
    (children : List (Element × Filter.Judge)) :
    Filter.offer slot w ⟨doc, doomed⟩ children = .ok .unmatched := by
  induction children with
  | nil => rfl
  | cons child rest ih => simp only [Filter.offer, Filter.Sifted.ask, absent, ok_bind, ih]

/-- The visits of a cardinality are those of a filter. -/
theorem runVisits_judging (visits : List (Visit α)) (doc : Json) (doomed : List Slot) :
    Filter.runVisits w (visits.map (Visit.map fun element child => judging (f element child)))
        ⟨doc, doomed⟩ =
      (runVisits w (visits.map (Visit.map f)) doc).map (Filter.Sifted.mk · doomed) := by
  induction visits generalizing doc with
  | nil => rfl
  | cons visit rest ih =>
    simp only [List.map_cons, Filter.runVisits, runVisits, Visit.map]
    cases held : visit.slot.child? doc with
    | none =>
      rw [offer_judging_nothing held]
      exact ih doc
    | some value =>
      rw [offer_judging held, map_bind]
      dsimp only
      cases offer visit.slot.key value w
          (visit.candidates.map fun child => (child.1, f child.1 child.2)) with
      | error e => rfl
      | ok found =>
        cases found with
        | none => exact ih doc
        | some changed => exact ih _

private theorem runVisits_twins {siblings : Siblings α} {literals : List (String × α)}
    (separate : Siblings.Separate (siblings.literals.map (·.1)))
    (same : literals.Perm siblings.literals)
    (agree : ∀ child ∈ siblings.all, Agreeing w child.1 (f child.1 child.2) (g child.1 child.2))
    (twins : doc.Twins other) (container : doc.isContainer = true) :
    Both Json.Twins
      (runVisits w ((({ siblings with literals } : Siblings α).map f).visits false doc) doc)
      (runVisits w ((siblings.map g).visits false other) other) := by
  have ran := Filter.runVisits_siblings (f := fun element child => judging (f element child))
    (g := fun element child => judging (g element child)) separate same
    (fun child present => (agree child present).judging) twins container
  rw [Siblings.visits_map, Siblings.visits_map, runVisits_judging, runVisits_judging] at ran
  rw [Siblings.visits_map, Siblings.visits_map]
  exact ran.of_map.imp fun _ _ same => same.node

private theorem runSpecial_twins {children : List (Element × α)} (key : String)
    (agree : ∀ child ∈ children, Agreeing w child.1 (f child.1 child.2) (g child.1 child.2))
    (twins : doc.Twins other) :
    Both Json.Twins (runSpecial key w (children.map fun child => (child.1, f child.1 child.2)) doc)
      (runSpecial key w (children.map fun child => (child.1, g child.1 child.2)) other) := by
  induction children generalizing doc other with
  | nil => exact .done twins
  | cons child rest ih =>
    obtain ⟨first, later⟩ := List.forall_mem_cons.mp agree
    refine (first key doc other twins).bind fun same => ih later ?_
    cases same with
    | none => exact twins
    | some same => exact same

private theorem runBranch_twins {siblings : Siblings α} {literals : List (String × α)}
    (separate : Siblings.Separate (siblings.literals.map (·.1)))
    (same : literals.Perm siblings.literals)
    (agree : ∀ child ∈ siblings.all, AlwaysAgreeing (f child.1 child.2) (g child.1 child.2)) :
    AlwaysAgreeing (runBranch (({ siblings with literals } : Siblings α).map f))
      (runBranch (siblings.map g)) := by
  intro element w key value other twins
  refine Both.bind_same fun found _ => ?_
  cases found with
  | none => exact .done .none
  | some matched =>
    refine Both.bind_same fun inner _ => ?_
    have each : ∀ child ∈ siblings.all,
        Agreeing inner child.1 (f child.1 child.2) (g child.1 child.2) :=
      fun child present => agree child present child.1 inner
    refine (runSpecial_twins key (Siblings.forall_special each) twins).bind fun left => ?_
    rw [← left.alike.isContainer_eq]
    refine .ite (fun container => ?_) fun _ => .done (.some left)
    exact (runVisits_twins separate same each left container).map .some

private theorem Relation.apply_twins (relation : Relation) (twins : doc.Twins other) :
    (relation.apply doc).Twins (relation.apply other) := by
  have single {doc other : Json} (twins : doc.Twins other) :
      (Json.arr [doc]).Twins (.arr [other]) := .of_items (.cons twins .nil)
  cases relation with
  | one =>
    have told (doc : Json) : one.apply doc =
        if doc.isArray then ((Slot.item 0).child? doc).getD .null else doc := by
      cases doc with
      | arr items => cases items <;> rfl
      | _ => rfl
    have held := twins.child? (Slot.item 0)
    rw [told, told, ← twins.alike.isArray_eq]
    split
    · generalize (Slot.item 0).child? doc = first, (Slot.item 0).child? other = second at held
      cases held with
      | none => exact .refl (.scalar rfl)
      | some same => exact same
    · exact twins
  | many =>
    have told (doc : Json) : many.apply doc =
        if doc.isArray then doc else if doc.isNull then .arr [] else .arr [doc] := by
      cases doc <;> rfl
    rw [told, told, ← twins.alike.isArray_eq, ← twins.alike.isNull_eq]
    split
    · exact twins
    · split
      · exact .of_items .nil
      · exact single twins

/-- Trees that are equal up to the order of literals make twins of twins. -/
theorem run_twins {t u : Node} (reordered : t.Reordered Eq u)
    (separate : t.Throughout fun _ => Siblings.Separate) : AlwaysAgreeing (run t) (run u) := by
  refine reordered.fold_agree (fun _ => Siblings.Separate) ?_ ?_ ?_ ?_ separate
  · exact fun same separate => separate.perm same
  · exact fun one two element w key => (one element w key).trans_rel (two element w key)
  · rintro relation _ rfl element w key value other twins
    refine Both.bind_same fun found _ => ?_
    cases found with
    | none => exact .done .none
    | some matched => exact .done (.some (relation.apply_twins twins))
  · exact fun separate same each => runBranch_twins separate same each

private theorem child_alike {pointer : Pointer} {element : Element} {below beneath : Except _ _}
    (alike : value.Alike other)
    (same : Both (Dialect.SameBranch (Eq : Relation → Relation → Prop)) below beneath) :
    Both (fun first second => first.1 = second.1 ∧ first.2.Reordered Eq second.2)
      (child pointer element value below) (child pointer element other beneath) := by
  unfold child
  refine .ite (fun _ => ?_) fun _ => .failed _ _
  cases alike.kinds with
  | objects members others =>
    exact .ite (fun _ => .failed _ _) fun _ => same.map fun same => ⟨rfl, same⟩
  | arrays items others => exact .failed _ _
  | scalar plain =>
    cases other with
    | str text =>
      dsimp only
      cases Relation.read? text with
      | none => exact .failed _ _
      | some relation => exact .done ⟨rfl, .leaf rfl⟩
    | obj members => cases plain
    | arr items => cases plain
    | _ => exact .failed _ _

theorem uses : dialect.Uses fun element => isKey element = true := by
  intro outer inner path element value below used tree made
  simp only [dialect, child] at made
  split at made
  case isFalse => cases made
  case isTrue key =>
    split at made
    · split at made
      · cases made
      · obtain ⟨_, -, built⟩ := map_eq_ok.mp made
        cases built
        exact key
    · split at made
      · cases made
        exact key
      · cases made
    · cases made

theorem orderless : dialect.Orderless (fun _ => false) (Eq : Relation → Relation → Prop) where
  accept _ := .done trivial
  child alike _ same := child_alike alike.alike same
  close _ _ _ := rfl
  sealed held := nomatch held
  nests := nests
  lone := by
    intro outer inner path element value below used tree made special
    have key : isKey used = true := uses made
    unfold isKey at key
    split at key
    case h_4 => rfl
    case h_5 => cases key
    all_goals cases special

variable {maxDepth : Nat} {t u : Cardinality} {input another : Json}

/-- Cardinalities that are equal up to the order of literals. -/
structure SameCardinality (t u : Cardinality) : Prop where
  depth : t.maxDepth = u.maxDepth
  tree : (Tree.branch () t.children : Node).Shuffled Eq (.branch () u.children)

theorem compile_alike (alike : spec.Alike other) (keyed : spec.Keyed) (maxDepth : Nat) :
    Both SameCardinality (compile maxDepth spec) (compile maxDepth other) :=
  (Dialect.compileRoot_alike orderless (.of_alike alike) keyed maxDepth ()).map
    fun same => ⟨rfl, same⟩

/-- No two literals of one node are the same index. -/
def ApartIndices (t : Cardinality) : Prop :=
  (Tree.branch () t.children : Node).ApartIndices

/-- Cardinalities make twins of twins, or fail on both of them. -/
theorem apply_twins (same : SameCardinality t u) (apart : t.ApartIndices)
    (twins : input.Twins another) : Both Json.Twins (t.apply input) (u.apply another) := by
  rw [apply, apply, same.depth]
  refine Both.bind_same fun w _ => ?_
  have separate := Tree.ApartIndices.separate apart same.tree.texts
  have ran := run_twins same.tree.reordered separate (.literal rootKey) w rootKey input another
    twins
  refine ran.bind fun left => ?_
  cases left with
  | none => exact .done twins
  | some same => exact .done same

end Reshape.Transform.Cardinality
