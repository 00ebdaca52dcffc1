import Reshape.Proofs.Removal
import Reshape.Proofs.Spec.Rearranging
import Reshape.Proofs.Transform.Takings

namespace Reshape.Transform.Remove

open Key Spec Outcome

variable {doc other value spec : Json} {w : Walk} {key : String}

/-- Two actions leave twins of twins, or nothing of both. -/
def Agreeing (f g : Action) : Prop :=
  ∀ matched w, Json.Twins.Agree (Option.Rel Json.Twins) (f matched w) (g matched w)

variable {α : Type} {f g : Element → α → Action}

theorem leave?_append (first second : List (Element × Action)) (value : Json) :
    leave? w key (first ++ second) value = leave? w key first value >>= fun left =>
      match left with
      | none => .ok none
      | some value => leave? w key second value := by
  induction first generalizing value with
  | nil => rfl
  | cons child rest ih =>
    rw [List.cons_append, leave?, leave?]
    cases child.1.match? w key with
    | error e => rfl
    | ok found =>
      cases found with
      | none => exact ih value
      | some matched =>
        simp only [ok_bind]
        cases child.2 matched w value with
        | error e => rfl
        | ok left =>
          cases left with
          | none => rfl
          | some left => exact ih left

def named (literals : List (String × Action)) : List (Element × Action) :=
  literals.map fun entry => (.literal entry.1, entry.2)

private theorem leave?_named_cons (entry : String × Action) (rest : List (Element × Action))
    (value : Json) : leave? w key (named [entry] ++ rest) value =
      if entry.1 = key then entry.2 (.ofKey key) w value >>= fun left =>
        match left with
        | none => .ok none
        | some value => leave? w key rest value
      else leave? w key rest value := by
  change leave? w key ((.literal entry.1, entry.2) :: rest) value = _
  rw [leave?, Element.match?]
  split <;> rfl

/-- One literal at most has a key, so their order does not matter. -/
theorem leave?_named_perm {literals others : List (String × Action)} (same : literals.Perm others)
    (distinct : (literals.map (·.1)).Nodup) (value : Json) :
    leave? w key (named literals) value = leave? w key (named others) value := by
  induction same generalizing value with
  | nil => rfl
  | cons entry _ ih =>
    obtain ⟨-, later⟩ := List.nodup_cons.mp distinct
    change leave? w key (named [entry] ++ named _) value =
      leave? w key (named [entry] ++ named _) value
    simp only [leave?_named_cons, ih later]
  | swap first second rest =>
    obtain ⟨differ, -⟩ := List.nodup_cons.mp distinct
    have apart : second.1 ≠ first.1 := fun same =>
      differ (List.mem_map.mpr ⟨first, List.mem_cons_self, same.symm⟩)
    change leave? w key (named [second] ++ (named [first] ++ named rest)) value =
      leave? w key (named [first] ++ (named [second] ++ named rest)) value
    simp only [leave?_named_cons]
    by_cases one : first.1 = key
    · have two : second.1 ≠ key := fun two => apart (two.trans one.symm)
      simp only [if_pos one, if_neg two]
    · simp only [if_neg one]
  | trans one _ ihOne ihTwo =>
    exact (ihOne distinct value).trans (ihTwo ((one.map _).nodup_iff.mp distinct) value)

private theorem leave?_all_perm {s : Siblings Action} {literals : List (String × Action)}
    (same : literals.Perm s.literals) (distinct : (s.literals.map (·.1)).Nodup) (value : Json) :
    leave? w key ({ s with literals } : Siblings Action).all value = leave? w key s.all value := by
  have shuffled (value : Json) :
      leave? w key (named literals) value = leave? w key (named s.literals) value :=
    leave?_named_perm same ((same.map _).nodup_iff.mpr distinct) value
  change leave? w key (named literals ++ s.computed ++ s.special) value =
    leave? w key (named s.literals ++ s.computed ++ s.special) value
  simp only [List.append_assoc, leave?_append, shuffled]

private theorem leave?_twins {children : List (Element × α)}
    (agree : ∀ child ∈ children, Agreeing (f child.1 child.2) (g child.1 child.2)) (w : Walk)
    (key : String) : Json.Twins.Agree (Option.Rel Json.Twins)
      (leave? w key (children.map fun child => (child.1, f child.1 child.2)))
      (leave? w key (children.map fun child => (child.1, g child.1 child.2))) := by
  induction children with
  | nil => exact fun _ _ twins => .done (.some twins)
  | cons child rest ih =>
    obtain ⟨first, later⟩ := List.forall_mem_cons.mp agree
    intro value other twins
    refine Both.bind_same fun found _ => ?_
    cases found with
    | none => exact ih later value other twins
    | some matched =>
      refine (first matched w value other twins).bind fun left => ?_
      cases left with
      | none => exact .done .none
      | some same => exact ih later _ _ same

/-- What children leave of twins are twins, whatever the order of the literals is. -/
theorem sweep_twins {siblings : Siblings α} {literals : List (String × α)}
    (distinct : (siblings.literals.map (·.1)).Nodup) (same : literals.Perm siblings.literals)
    (agree : ∀ child ∈ siblings.all, Agreeing (f child.1 child.2) (g child.1 child.2)) (w : Walk) :
    Json.Twins.Agree Json.Twins (sweep (({ siblings with literals } : Siblings α).map f) w)
      (sweep (siblings.map g) w) := by
  intro value other twins
  have moved (key : String) :
      leave? w key (({ siblings with literals } : Siblings α).map f).all =
        leave? w key (siblings.map f).all := by
    have texts := Siblings.texts_map siblings f ▸ distinct
    exact funext fun value => leave?_all_perm (s := siblings.map f) (same.map _) texts value
  rw [sweep, sweep]
  simp only [moved]
  simp only [Siblings.all_map]
  exact Json.Twins.filterMapEntries (fun key => leave?_twins agree w key) twins

private theorem runBranch_twins {siblings : Siblings α} {literals : List (String × α)}
    (distinct : (siblings.literals.map (·.1)).Nodup) (same : literals.Perm siblings.literals)
    (agree : ∀ child ∈ siblings.all, Agreeing (f child.1 child.2) (g child.1 child.2)) :
    Agreeing (runBranch () (({ siblings with literals } : Siblings α).map f))
      (runBranch () (siblings.map g)) :=
  fun _ _ value other twins => Both.bind_same fun inner _ =>
    (sweep_twins distinct same agree inner value other twins).map .some

/-- What a compiled node leaves. -/
def run : Node → Action :=
  Tree.fold runLeaf runBranch

/-- Trees that are equal up to the order of literals leave twins of twins. -/
theorem run_twins {t u : Node} (reordered : t.Reordered Eq u)
    (distinct : t.Throughout fun _ => List.Nodup) : Agreeing (run t) (run u) := by
  refine reordered.fold_agree (fun _ => List.Nodup) ?_ ?_ ?_ ?_ distinct
  · exact fun same distinct => same.nodup_iff.mp distinct
  · exact fun one two matched w => (one matched w).trans_rel (two matched w)
  · exact fun _ _ _ _ _ _ => .done .none
  · exact fun distinct same each => runBranch_twins distinct same each

private theorem child_alike {pointer : Pointer} {element : Element} {below beneath : Except _ _}
    (alike : value.Alike other)
    (same : Both (Dialect.SameBranch (Eq : Unit → Unit → Prop)) below beneath) :
    Both (fun first second => first.1 = second.1 ∧ first.2.Reordered Eq second.2)
      (child pointer element value below) (child pointer element other beneath) := by
  unfold child
  refine .ite (fun _ => ?_) fun _ => .failed _ _
  cases alike.kinds with
  | objects members others => exact same.map fun same => ⟨rfl, same⟩
  | arrays items others => exact .failed _ _
  | scalar plain =>
    cases other with
    | str text => exact .ite (fun _ => .done ⟨rfl, .leaf rfl⟩) fun _ => .failed _ _
    | obj members => cases plain
    | arr items => cases plain
    | _ => exact .failed _ _

private theorem orderless : dialect.Orderless (fun _ => false) (Eq : Unit → Unit → Prop) where
  accept _ := .done trivial
  child alike _ same := child_alike alike.alike same
  close _ _ _ := rfl
  sealed held := nomatch held
  nests := nests
  lone made special := absurd special (role_of_isStatic (uses made))

variable {maxDepth : Nat} {t u : Remove} {input another : Json}

/-- Removes that are equal up to the order of literals. -/
structure SameRemove (t u : Remove) : Prop where
  depth : t.maxDepth = u.maxDepth
  tree : (Tree.branch () t.children : Node).Shuffled Eq (.branch () u.children)

theorem compile_alike (alike : spec.Alike other) (keyed : spec.Keyed) (maxDepth : Nat) :
    Both SameRemove (compile maxDepth spec) (compile maxDepth other) :=
  (Dialect.compileRoot_alike orderless (.of_alike alike) keyed maxDepth ()).map
    fun same => ⟨rfl, same⟩

/-- A remove is a node above the whole document. -/
theorem run_root (t : Remove) (input : Json) :
    run (.branch () t.children) (.ofKey rootKey) (Walk.start (walkLimit t.maxDepth)) input =
      (t.apply input).map some := by
  rw [run, Tree.fold_branch, runBranch, apply, rootWalk]
  cases (Walk.start (walkLimit t.maxDepth)).push none (.ofKey rootKey) <;> rfl

/-- Removes leave twins of twins, or fail on both of them. -/
theorem apply_twins (same : SameRemove t u) (twins : input.Twins another) :
    Both Json.Twins (t.apply input) (u.apply another) := by
  have ran := run_twins same.tree.reordered same.tree.texts.throughout (.ofKey rootKey)
    (Walk.start (walkLimit t.maxDepth)) input another twins
  rw [run_root, same.depth, run_root] at ran
  refine ran.of_map.imp fun _ _ same => ?_
  cases same with
  | some same => exact same

end Reshape.Transform.Remove
