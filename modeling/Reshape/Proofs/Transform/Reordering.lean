import Reshape.Proofs.Transform.Simultaneous

namespace Reshape.Transform.Modify

open Key Spec

/-- Equality up to the order of literals, in all branches, and of the members of literal
values. -/
inductive Reordered : Node → Node → Prop where
  | refl (t : Node) : Reordered t t
  | trans {first second third : Node} (one : Reordered first second)
      (other : Reordered second third) : Reordered first third
  | literal {value other : Json} (alike : value.Alike other) :
      Reordered (.leaf (.literal value)) (.leaf (.literal other))
  | shuffle {shape : Shape} {s : Siblings Node} {literals : List (String × Node)}
      (same : s.literals.Perm literals) :
      Reordered (.branch shape s) (.branch shape { s with literals })
  | children {shape : Shape} {pairs : Siblings (Node × Node)}
      (each : ∀ child ∈ pairs.all, Reordered child.2.1 child.2.2) :
      Reordered (.branch shape (pairs.map fun _ pair => pair.1))
        (.branch shape (pairs.map fun _ pair => pair.2))

variable {mode : WriteMode} {context : Json} {shape : Shape} {s : Siblings Node}
variable {before : Option Json} {t other : Node} {literals : List (String × Node)}

private theorem mem_all_shuffle (same : s.literals.Perm literals) {child : Element × Node}
    (present : child ∈ ({ s with literals } : Siblings Node).all) : child ∈ s.all := by
  have shuffled : s.all.Perm ({ s with literals } : Siblings Node).all :=
    ((same.map _).append_right _).append_right _
  exact shuffled.mem_iff.mpr present

theorem Reordered.every (reordered : Reordered t other) (every : t.Every Siblings.Lawful) :
    other.Every Siblings.Lawful := by
  induction reordered with
  | refl t => exact every
  | trans _ _ one another => exact another (one every)
  | literal _ => exact .leaf _
  | shuffle same =>
    cases every with
    | branch lawful below =>
      exact .branch (lawful.perm same) fun child present => below child (mem_all_shuffle same present)
  | @children shape pairs _ ih =>
    cases every with
    | branch lawful below =>
      rw [Siblings.all_map, List.forall_mem_map] at below
      refine .branch (Siblings.lawful_map.mpr (Siblings.lawful_map.mp lawful)) ?_
      rw [Siblings.all_map, List.forall_mem_map]
      exact fun child present => ih child present (below child present)

private theorem Reordered.steady (reordered : Reordered t other) (steady : Steady t) :
    Steady other := by
  induction reordered with
  | refl t => exact steady
  | trans _ _ one another => exact another (one steady)
  | literal _ => exact fun _ _ => rfl
  | shuffle _ => trivial
  | children _ => trivial

theorem Independent.shuffle (independent : Independent mode shape s before)
    (same : s.literals.Perm literals) : Independent mode shape { s with literals } before where
  distinct items grounded := (independent.distinct items grounded).perm same
  steady items grounded first present second also :=
    independent.steady items grounded first (same.mem_iff.mpr present) second
      (same.mem_iff.mpr also)
  created defining array vacant :=
    same.length_eq ▸ independent.created defining array vacant

theorem Independent.children {pairs : Siblings (Node × Node)}
    (independent : Independent mode shape (pairs.map fun _ pair => pair.1) before)
    (each : ∀ child ∈ pairs.all, Reordered child.2.1 child.2.2) :
    Independent mode shape (pairs.map fun _ pair => pair.2) before where
  distinct items grounded :=
    Siblings.distinct_map.mpr (Siblings.distinct_map.mp (independent.distinct items grounded))
  steady items grounded := by
    have own := Siblings.forall_literals each
    refine List.forall_mem_map.mpr fun first present => List.forall_mem_map.mpr fun second also =>
      fun index further read reread past beyond => (own first present).steady ?_
    exact independent.steady items grounded _ (List.mem_map_of_mem present) _
      (List.mem_map_of_mem also) index further read reread past beyond
  created defining array vacant := by
    have single := independent.created defining array vacant
    simpa [Siblings.map] using single

theorem Reordered.simultaneous (reordered : Reordered t other)
    (simultaneous : Simultaneous mode t before) : Simultaneous mode other before := by
  induction reordered generalizing before with
  | refl t => exact simultaneous
  | trans _ _ one another => exact another (one simultaneous)
  | literal _ => exact .leaf _ _
  | shuffle same =>
    cases simultaneous with
    | branch independent literals computed =>
      exact .branch (independent.shuffle same)
        (fun entry present => literals entry (same.mem_iff.mpr present)) computed
  | @children shape pairs each ih =>
    cases simultaneous with
    | branch independent literals computed =>
      refine .branch (independent.children each) (List.forall_mem_map.mpr fun entry present => ?_)
        (List.forall_mem_map.mpr fun child present doc same entry held matched => ?_)
      · exact Siblings.forall_literals ih entry present
          (literals _ (List.mem_map_of_mem present))
      · exact Siblings.forall_computed ih child present
          (computed _ (List.mem_map_of_mem present) doc same entry held matched)

/-- Two nodes have effects that are alike where there was something before, or nothing. -/
def Agrees (mode : WriteMode) (context : Json) (t other : Node) (before : Option Json) : Prop :=
  ∀ element slot snapshot w parent, snapshot.bind (Slot.child? slot) = before →
    slot.child? parent = before →
    Outcome.Both (Option.Rel Json.Alike) (effect mode context t element slot snapshot w parent)
      (effect mode context other element slot snapshot w parent)

theorem agrees_branch {others : Siblings Node}
    (entered : ∀ {node slot snapshot w matched}, snapshot.bind (Slot.child? slot) = before →
      shape.ground? before = some node → Outcome.Both Json.Alike
        (enter (s.map fun _ => run mode context) slot snapshot w matched node)
        (enter (others.map fun _ => run mode context) slot snapshot w matched node)) :
    Agrees mode context (.branch shape s) (.branch shape others) before := by
  intro element slot snapshot w parent same held
  unfold effect
  refine Outcome.Both.bind_same fun found _ => ?_
  cases found with
  | none => exact .done .none
  | some matched =>
    dsimp only
    cases grounded : ground? mode shape slot (sizeBefore w) parent with
    | none => exact .done .none
    | some node =>
      have ground := ground?_eq grounded
      rw [held] at ground
      exact (entered same ground).map .some

/-- Effects go to the places that children are taken to. -/
theorem puts_apart {node : Json} {inner : Walk} {takings : List (Slot × Element × Node)}
    {puts : List (Slot × Option Json)}
    (ran : takings.mapM (putAt mode context before inner node) = .ok puts)
    (apart : takings.Pairwise fun first later => Slot.Apart node first.1 later.1) :
    puts.Pairwise fun first later => Slot.Apart node first.1 later.1 := by
  have places : takings.map (·.1) = puts.map (·.1) := by
    refine List.forall₂_eq_eq_eq ▸ List.forall₂_map_left_iff.mpr (List.forall₂_map_right_iff.mpr ?_)
    refine (Outcome.mapM_eq_ok.mp ran).imp fun taking put made => ?_
    obtain ⟨_, -, rfl⟩ := Outcome.map_eq_ok.mp made
    rfl
  rw [← List.pairwise_map, ← places, List.pairwise_map]
  exact apart

/-- In another order literals have the same effects. -/
theorem agrees_shuffle (same : s.literals.Perm literals) (lawful : s.Lawful) (sane : Sane before)
    (independent : Independent mode shape s before) :
    Agrees mode context (.branch shape s) (.branch shape { s with literals }) before := by
  refine agrees_branch fun {node slot snapshot w matched} held grounded => ?_
  obtain ⟨keyed, indexable, container⟩ := sane_ground sane grounded
  rw [enter_independent independent lawful sane grounded held,
    enter_independent (independent.shuffle same) (lawful.perm same) sane grounded held]
  refine Outcome.Both.bind_same fun inner _ => ?_
  have places := Siblings.takings_perm same lawful.distinct inner node
  have apart := Siblings.takings_apart (w := inner) lawful
    (fun items array => independent.distinct items (array ▸ grounded)) container
    keyed.hasDistinctKeys
  exact (Outcome.Both.mapM_perm places _).map_of_ok fun ran shuffled =>
    settleAll_perm shuffled keyed.hasDistinctKeys (puts_apart ran apart)

/-- Children whose effects agree make a branch of which that is true. -/
theorem agrees_children {pairs : Siblings (Node × Node)} (lawful : pairs.Lawful)
    (sane : Sane before)
    (one : Independent mode shape (pairs.map fun _ pair => pair.1) before)
    (two : Independent mode shape (pairs.map fun _ pair => pair.2) before)
    (each : ∀ {node inner}, shape.ground? before = some node →
      ∀ taking ∈ pairs.takings inner node,
        Agrees mode context taking.2.2.1 taking.2.2.2 (before.bind taking.1.child?)) :
    Agrees mode context (.branch shape (pairs.map fun _ pair => pair.1))
      (.branch shape (pairs.map fun _ pair => pair.2)) before := by
  refine agrees_branch fun {node slot snapshot w matched} held grounded => ?_
  obtain ⟨keyed, indexable, container⟩ := sane_ground sane grounded
  have first : (pairs.map fun _ pair => pair.1).Lawful := Siblings.lawful_map.mpr lawful
  have second : (pairs.map fun _ pair => pair.2).Lawful := Siblings.lawful_map.mpr lawful
  rw [enter_independent one first sane grounded held,
    enter_independent two second sane grounded held]
  refine Outcome.Both.bind_same fun inner _ => ?_
  rw [Siblings.takings_map, Siblings.takings_map, List.mapM_map, List.mapM_map]
  have puts (taking : Slot × Element × Node × Node) (present : taking ∈ pairs.takings inner node) :
      Outcome.Both AlikePut
        (putAt mode context before inner node (taking.1, taking.2.1, taking.2.2.1))
        (putAt mode context before inner node (taking.1, taking.2.1, taking.2.2.2)) := by
    have agree := each grounded taking present taking.2.1 taking.1 before inner node rfl
      (child?_ground grounded taking.1)
    exact agree.map fun alike => ⟨rfl, alike⟩
  exact (Outcome.Both.mapM puts).map fun alike =>
    settleAll_alike (.refl node) keyed.hasDistinctKeys alike

/-- Nodes whose children act at once have effects that are alike if they are equal up to the
order of literals. -/
theorem Reordered.agrees (reordered : Reordered t other) (every : t.Every Siblings.Lawful)
    (simultaneous : Simultaneous mode t before) (sane : Sane before) :
    Agrees mode context t other before := by
  induction reordered generalizing before with
  | refl t => exact fun _ _ _ _ _ _ _ => .of_eq rel_refl rfl
  | trans one _ ihOne ihTwo =>
    intro element slot snapshot w parent same held
    have first := ihOne every simultaneous sane element slot snapshot w parent same held
    have second := ihTwo (one.every every) (one.simultaneous simultaneous) sane element slot
      snapshot w parent same held
    refine Outcome.Both.trans ?_ first second
    exact rel_trans
  | literal alike =>
    intro element slot snapshot w parent same held
    unfold effect
    refine Outcome.Both.bind_same fun found _ => ?_
    cases found with
    | none => exact .done .none
    | some matched =>
      refine Outcome.Both.bind_same fun inner _ => ?_
      simp only [Formula.evaluate, Outcome.ok_bind]
      split
      · exact .done (.some alike)
      · exact .done .none
  | shuffle same =>
    cases every with
    | branch lawful _ =>
      cases simultaneous with
      | branch independent _ _ => exact agrees_shuffle same lawful sane independent
  | @children shape pairs each ih =>
    cases every with
    | branch lawful below =>
      rw [Siblings.all_map, List.forall_mem_map] at below
      have whole := simultaneous
      cases simultaneous with
      | branch independent _ _ =>
        refine agrees_children (Siblings.lawful_map.mp lawful) sane independent
          (independent.children each) fun {node inner} grounded taking present => ?_
        have taken : (taking.1, taking.2.1, taking.2.2.1) ∈
            (pairs.map fun _ pair => pair.1).takings inner node := by
          rw [Siblings.takings_map]
          exact List.mem_map_of_mem present
        exact ih _ (Siblings.forall_takings (fun _ present => present) taking present)
          (Siblings.forall_takings below taking present)
          (simultaneous_taking whole sane grounded taken lawful) (sane.child? taking.1)

end Reshape.Transform.Modify
