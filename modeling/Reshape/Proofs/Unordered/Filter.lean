import Reshape.Proofs.Unordered.Lenient

namespace Reshape.Transform.Filter

open Key Spec Outcome

variable {doc other value spec : Json} {kept : Json → Bool}
  {related : List Predicate → List Predicate → Prop}

/-- Whether the value of some member of an object is of a kind. -/
def someMember (kind : Json → Bool) : Json → Bool
  | .obj members => members.any fun member => kind member.2
  | _ => false

theorem someMember_alike {kind : Json → Bool}
    (respects : ∀ value other : Json, value.Alike other → kind value = kind other)
    (alike : doc.Alike other) : someMember kind doc = someMember kind other := by
  induction alike with
  | refl doc => rfl
  | trans _ _ one two => exact one.trans two
  | shuffle same => exact same.any_eq
  | @members pairs each _ =>
    rw [someMember, someMember, List.any_map, List.any_map, Bool.eq_iff_iff, List.any_eq_true,
      List.any_eq_true]
    refine exists_congr fun pair => and_congr_right fun present => ?_
    simp only [Function.comp_apply, respects _ _ (each pair present)]
  | items _ => rfl

theorem isPredicates_eq (alike : doc.Alike other) : isPredicates doc = isPredicates other := by
  have told (doc : Json) : isPredicates doc =
      (someMember (fun _ => true) doc && !someMember Json.isObject doc) := by
    cases doc with
    | obj members => cases members <;> simp [isPredicates, someMember, List.not_any_eq_all_not]
    | _ => rfl
  rw [told, told, someMember_alike (fun _ _ _ => rfl) alike,
    someMember_alike (fun _ _ same => same.isObject_eq) alike]

theorem accept_alike (alike : doc.Alike other) :
    Both (fun _ _ => True) (accept doc) (accept other) := by
  have told (doc : Json) : accept doc =
      if doc.isObject then
        if !isPredicates doc && someMember (fun value => !value.isObject) doc then
          .error .mixedFilter
        else .ok ()
      else .error .filterValue := by
    cases doc <;> rfl
  rw [told, told, alike.isObject_eq, isPredicates_eq alike,
    someMember_alike (fun _ _ same => by rw [same.isObject_eq]) alike]
  exact .of_eq (fun _ => trivial) rfl

/-- Which objects keep their order in specs, so that sets of predicates are related. -/
structure Shuffles (kept : Json → Bool) (related : List Predicate → List Predicate → Prop) :
    Prop where
  free : ∀ {doc}, isPredicates doc = true → kept doc = false →
    ∀ {predicates others : List Predicate}, predicates.Perm others → related predicates others
  pointwise : ∀ {predicates others}, List.Forall₂ SamePredicate predicates others →
    related predicates others
  only : ∀ {doc}, kept doc = true → isPredicates doc = true

theorem shuffles_free : Shuffles (fun _ => false) Reshuffled where
  free _ _ _ _ same := .inl same
  pointwise each := .inr each
  only held := nomatch held

theorem shuffles_kept : Shuffles isPredicates (List.Forall₂ SamePredicate) where
  free found free := by rw [found] at free; cases free
  pointwise each := each
  only held := held

/-- Leaves that are equal up to the order of predicates, where it is free. -/
def SameLeaf (related : List Predicate → List Predicate → Prop) (first second : List Predicate) :
    Prop :=
  (Tree.leaf first : Node).Reordered related (.leaf second)

private theorem predicates_alike (shuffles : Shuffles kept related)
    (alike : doc.AlikeKeeping kept other) (found : isPredicates doc = true) (path : Pointer) :
    ∃ members others, doc = .obj members ∧ other = .obj others ∧
      Both (SameLeaf related) (compilePredicates path members) (compilePredicates path others) := by
  have pointwise {pairs : List (String × Json × Json)}
      (each : ∀ pair ∈ pairs, pair.2.1.Alike pair.2.2) : Both (SameLeaf related)
        (compilePredicates path (pairs.map fun pair => (pair.1, pair.2.1)))
        (compilePredicates path (pairs.map fun pair => (pair.1, pair.2.2))) :=
    (compilePredicates_alike each path).imp fun _ _ same => .leaf (shuffles.pointwise same)
  induction alike with
  | refl doc =>
    cases doc with
    | obj members =>
      refine ⟨members, members, rfl, rfl, Both.of_eq (fun predicates => ?_) rfl⟩
      exact .leaf (shuffles.pointwise (List.forall₂_same.mpr fun p _ => .refl p))
    | _ => cases found
  | trans one two ihOne ihTwo =>
    obtain ⟨members, middle, rfl, rfl, first⟩ := ihOne found
    obtain ⟨_, others, same, rfl, second⟩ := ihTwo (isPredicates_eq one.alike ▸ found)
    cases same
    exact ⟨members, others, rfl, rfl, first.trans (fun one two => one.trans two) second⟩
  | @shuffle members others free same =>
    refine ⟨members, others, rfl, rfl, ?_⟩
    rw [compilePredicates_eq_mapM, compilePredicates_eq_mapM]
    exact (Both.mapM_perm same _).imp fun _ _ shuffled => .leaf (shuffles.free found free shuffled)
  | members each _ =>
    exact ⟨_, _, rfl, rfl, pointwise fun pair present => (each pair present).alike⟩
  | inside _ each => exact ⟨_, _, rfl, rfl, pointwise each⟩
  | items _ => cases found

private theorem child_of_not_predicates {pointer : Pointer} {element : Element}
    (static : element.isStatic = true) (node : isPredicates value = false)
    (below : Except BuildError (Unit × Siblings Node)) : child pointer element value below =
      below.map fun (info, children) => (element, .branch info children) := by
  unfold child
  rw [if_pos static, node]
  cases value <;> rfl

private theorem child_alike (shuffles : Shuffles kept related) {pointer : Pointer}
    {element : Element} {below beneath : Except BuildError (Unit × Siblings Node)}
    (alike : value.AlikeKeeping kept other)
    (same : Both (Dialect.SameBranch related) below beneath) :
    Both (fun first second => first.1 = second.1 ∧ first.2.Reordered related second.2)
      (child pointer element value below) (child pointer element other beneath) := by
  by_cases static : element.isStatic = true
  · have kinds := isPredicates_eq alike.alike
    cases found : isPredicates value with
    | true =>
      obtain ⟨members, others, rfl, rfl, compiled⟩ := predicates_alike shuffles alike found pointer
      unfold child
      rw [if_pos static, if_pos static, ← kinds, found]
      exact compiled.map fun same => ⟨rfl, same⟩
    | false =>
      rw [child_of_not_predicates static found, child_of_not_predicates static (kinds ▸ found)]
      exact same.map fun same => ⟨rfl, same⟩
  · unfold child
    rw [if_neg static, if_neg static]
    exact .failed _ _

/-- A set of predicates is no node. -/
theorem compile_predicates (found : isPredicates doc = true) (limit : Nat) (outer : Unit)
    (depth : Nat) (path : Pointer) :
    ∃ e, dialect.compile limit outer depth path doc = .error e := by
  cases doc with
  | obj members =>
    rw [Dialect.compile_obj]
    split
    · exact ⟨_, rfl⟩
    · cases members with
      | nil => cases found
      | cons member rest =>
        have each : (member :: rest).all (fun member => !member.2.isObject) = true := found
        have plain := List.all_eq_true.mp each member List.mem_cons_self
        have refused : accept member.2 = .error .filterValue := by
          cases held : member.2 with
          | obj members => rw [held] at plain; cases plain
          | _ => rfl
        have fails : dialect.compileMember limit outer depth path member =
            .error ⟨Pointer.child path member.1, .filterValue⟩ := by
          unfold Dialect.compileMember
          dsimp only [dialect]
          rw [refused]
        rw [List.mapM_cons, fails]
        exact ⟨_, rfl⟩
  | _ => cases found

private theorem orderless (shuffles : Shuffles kept related) : dialect.Orderless kept related where
  accept := accept_alike
  child alike _ same := child_alike shuffles alike same
  close _ _ _ := rfl
  sealed held alike limit outer depth path := by
    have found := shuffles.only held
    obtain ⟨e, first⟩ := compile_predicates found limit outer depth path
    obtain ⟨fault, second⟩ :=
      compile_predicates (isPredicates_eq alike ▸ found) limit outer depth path
    rw [first, second]
    exact .failed _ _
  nests := nests
  lone made special := absurd special (role_of_isStatic (uses made))

variable {maxDepth : Nat} {t u : Filter} {input another first second : Json}

/-- Filters that are equal up to the order of literals. -/
structure SameFilter (related : List Predicate → List Predicate → Prop) (t u : Filter) : Prop where
  depth : t.maxDepth = u.maxDepth
  tree : (Tree.branch () t.children : Node).Shuffled related (.branch () u.children)

theorem compile_alike (shuffles : Shuffles kept related) (alike : spec.AlikeKeeping kept other)
    (keyed : spec.Keyed) (maxDepth : Nat) :
    Both (SameFilter related) (compile maxDepth spec) (compile maxDepth other) := by
  rw [compile, compile, isPredicates_eq alike.alike]
  refine .ite (fun _ => .failed _ _) fun _ => ?_
  exact (Dialect.compileRoot_alike (orderless shuffles) alike keyed maxDepth ()).map
    fun same => ⟨rfl, same⟩

/-- What a filter makes of a document, where a test tells the values that stay. -/
def applyWith (test : List Predicate → Walk → Json → Except RunError Bool) (t : Filter)
    (input : Json) : Except RunError Json := do
  let w ← rootWalk t.maxDepth none
  sift (t.children.map fun _ => judgeWith test) w input

def strict (predicates : List Predicate) (w : Walk) (value : Json) : Except RunError Bool :=
  satisfies w value predicates

/-- The test that takes no notice of fields that can not be read. -/
def lenient (predicates : List Predicate) (w : Walk) (value : Json) : Except RunError Bool :=
  .ok (passes w value predicates)

variable {test : List Predicate → Walk → Json → Except RunError Bool}
  {holds : List Nat → List Predicate → Prop}

theorem apply_eq_applyWith (t : Filter) (input : Json) :
    t.apply input = applyWith strict t input := by
  rw [apply, judges, Siblings.foldSiblings_eq_map]
  rfl

/-- A filter is a judge of the whole document. -/
theorem judgeWith_root (t : Filter) (input : Json) :
    judgeWith test (.branch () t.children) (.literal rootKey) rootKey input
        (Walk.start (walkLimit t.maxDepth)) = (applyWith test t input).map .keep := by
  rw [judgeWith_branch, judgeBranch, applyWith, rootWalk]
  simp only [Element.match?, if_true, ok_bind]
  cases (Walk.start (walkLimit t.maxDepth)).push none (.ofKey rootKey) <;> rfl

theorem applyWith_follows {other : List Predicate → Walk → Json → Except RunError Bool}
    (tests : ∀ predicates w value, Follows (test predicates w value) (other predicates w value))
    (t : Filter) (input : Json) : Follows (applyWith test t input) (applyWith other t input) := by
  intro output ran
  have judged := judgeWith_follows tests (.branch () t.children) (.literal rootKey) rootKey input
    (Walk.start (walkLimit t.maxDepth)) (.keep output)
  rw [judgeWith_root, judgeWith_root, ran] at judged
  obtain ⟨_, also, same⟩ := map_eq_ok.mp (judged rfl)
  cases same
  exact also

/-- No two literals of one node are the same index. -/
def ApartIndices (t : Filter) : Prop :=
  (Tree.branch () t.children : Node).ApartIndices

theorem applyWith_twins (tells : Tells related holds test) (same : SameFilter related t u)
    (apart : t.ApartIndices) (leaves : Leaves holds [1] (.branch () t.children))
    (twins : input.Twins another) :
    Both Json.Twins (applyWith test t input) (applyWith test u another) := by
  have start : Asked [] (Walk.start (walkLimit t.maxDepth)) := ⟨rfl, nofun⟩
  have leaves : Leaves holds ((Element.literal rootKey).groups [] :: []) _ := leaves
  have separate := Tree.ApartIndices.separate apart same.tree.texts
  have judged := judgeWith_twins tells same.tree.reordered separate start leaves rootKey input
    another twins
  beta_reduce at judged
  rw [judgeWith_root, same.depth, judgeWith_root] at judged
  refine judged.of_map.imp fun _ _ same => ?_
  cases same with
  | keep same => exact same

theorem tells_lenient : Tells Reshuffled (fun _ _ => True) lenient where
  moves _ known := known
  agree same _ _ _ _ twins := .done (passes_reshuffled same twins)

theorem tells_kept : Tells (List.Forall₂ SamePredicate) (fun _ _ => True) strict where
  moves _ known := known
  agree same _ _ _ _ twins := satisfies_pointwise same twins

/-- On the walks of a shape no predicate holds beside one with a field that can not be read. -/
def DecisiveAt (shape : List Nat) (predicates : List Predicate) : Prop :=
  ∀ w, Asked shape w → Decisive w predicates

theorem tells_decisive : Tells Reshuffled DecisiveAt strict where
  moves same known w asked := (known w asked).reshuffled same
  agree same known asked _ _ twins := satisfies_reshuffled same (known _ asked) twins

/-- No set of predicates in a filter has one that holds beside one with a field that can not be
read. -/
def Sure (t : Filter) : Prop :=
  Leaves DecisiveAt [1] (.branch () t.children)

theorem leaves_of_forall (known : ∀ shape predicates, holds shape predicates) (t : Node)
    (shape : List Nat) : Leaves holds shape t := by
  induction t using Tree.induct generalizing shape with
  | leaf predicates => exact .leaf (known shape predicates)
  | branch info s ih => exact .branch fun child present => ih child present _

/-- Two filters that return something return the same, up to the order of members. -/
theorem apply_alike (same : SameFilter Reshuffled t u) (apart : t.ApartIndices)
    (twins : input.Twins another) (ran : t.apply input = .ok first)
    (also : u.apply another = .ok second) : first.Alike second := by
  have follows (t : Filter) (input : Json) :
      Follows (applyWith strict t input) (applyWith lenient t input) :=
    applyWith_follows (fun predicates w value answer tested =>
      congrArg Except.ok (passes_of_satisfies tested)) t input
  rw [apply_eq_applyWith] at ran also
  have agree := applyWith_twins tells_lenient same apart
    (leaves_of_forall (fun _ _ => trivial) _ _) twins
  rw [follows t input first ran, follows u another second also] at agree
  cases agree with
  | done twins => exact twins.alike

/-- Filters fail on both of two twins or on none of them if each set of predicates is sure. -/
theorem apply_twins_of_sure (same : SameFilter Reshuffled t u) (apart : t.ApartIndices)
    (sure : t.Sure) (twins : input.Twins another) :
    Both Json.Twins (t.apply input) (u.apply another) := by
  rw [apply_eq_applyWith, apply_eq_applyWith]
  exact applyWith_twins tells_decisive same apart sure twins

/-- Filters fail on both of two twins or on none of them if predicates keep their order. -/
theorem apply_twins_of_kept (same : SameFilter (List.Forall₂ SamePredicate) t u)
    (apart : t.ApartIndices) (twins : input.Twins another) :
    Both Json.Twins (t.apply input) (u.apply another) := by
  rw [apply_eq_applyWith, apply_eq_applyWith]
  exact applyWith_twins tells_kept same apart (leaves_of_forall (fun _ _ => trivial) _ _) twins

end Reshape.Transform.Filter
