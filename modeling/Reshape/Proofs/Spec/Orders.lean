import Reshape.Proofs.Spec.Nesting

namespace Reshape.Spec

open Key

variable {α β : Type}

namespace Siblings

variable {path : Pointer} {children others : List (Element × α)} {s : Siblings α}

theorem check_map (f : Element → α → β) (path : Pointer) (seen : List String)
    (children : List (Element × α)) :
    check path seen (children.map fun child => (child.1, f child.1 child.2)) =
      check path seen children := by
  induction children generalizing seen with
  | nil => rfl
  | cons child rest ih => simp only [List.map_cons, check, ih]

theorem literalsOf_map (f : Element → α → β) (children : List (Element × α)) :
    literalsOf (children.map fun child => (child.1, f child.1 child.2)) =
      (literalsOf children).map fun child => (child.1, f (.literal child.1) child.2) := by
  rw [literalsOf, literalsOf, List.filterMap_map, List.map_filterMap]
  refine List.filterMap_congr fun child _ => ?_
  simp only [Function.comp_apply]
  unfold literalText?
  split
  case h_1 written => rw [written]; rfl
  case h_2 => rfl

private theorem insertChild_map (f : Element → α → β) (child : Element × α)
    (children : List (Element × α)) :
    insertChild (child.1, f child.1 child.2)
        (children.map fun child => (child.1, f child.1 child.2)) =
      (insertChild child children).map fun child => (child.1, f child.1 child.2) := by
  induction children with
  | nil => rfl
  | cons other rest ih =>
    rw [List.map_cons, insertChild, insertChild, ih]
    split <;> rfl

private theorem sortChildren_map (f : Element → α → β) (children : List (Element × α)) :
    sortChildren (children.map fun child => (child.1, f child.1 child.2)) =
      (sortChildren children).map fun child => (child.1, f child.1 child.2) := by
  induction children with
  | nil => rfl
  | cons child rest ih => rw [List.map_cons, sortChildren, ih, insertChild_map, sortChildren]

/-- Which children are accepted, and as what, does not depend on what they are. -/
theorem ofChildren_map (f : Element → α → β) (path : Pointer) (children : List (Element × α)) :
    ofChildren path (children.map fun child => (child.1, f child.1 child.2)) =
      (ofChildren path children).map (Siblings.map f) := by
  rw [ofChildren, ofChildren, check_map]
  cases check path [] children with
  | error e => rfl
  | ok checked =>
    have texts : (literalsOf (children.map fun child => (child.1, f child.1 child.2))).map (·.1) =
        (literalsOf children).map (·.1) := by
      rw [literalsOf_map, List.map_map]
      rfl
    have kept (role : Role) :
        (children.map fun child => (child.1, f child.1 child.2)).filter
            (fun child => decide (child.1.role = role)) =
          (children.filter fun child => decide (child.1.role = role)).map
            fun child => (child.1, f child.1 child.2) := by
      rw [List.filter_map]
      rfl
    simp only [Outcome.ok_bind, texts, kept, sortChildren_map, List.map_map]
    rw [literalsOf_map]
    rfl

theorem check_perm (same : children.Perm others) :
    check path [] children = .ok () ↔ check path [] others = .ok () := by
  have forms : (children.map (·.1.canonical)).Perm (others.map (·.1.canonical)) := same.map _
  rw [check_eq_ok List.nodup_nil, check_eq_ok List.nodup_nil, List.append_nil, List.append_nil,
    forms.nodup_iff]
  simp only [same.mem_iff]

theorem determine_perm {literals texts : List String} (same : literals.Perm texts)
    (computed : List Element) :
    Strategy.determine literals computed = Strategy.determine texts computed := by
  have avoided : avoids literals = avoids texts := by
    funext element
    rw [avoids, avoids, same.all_eq]
  rw [Strategy.determine, Strategy.determine, same.isEmpty_eq, avoided]

/-- Computed children that are accepted are tried in one order. -/
theorem sortChildren_perm_eq (accepted : ofChildren path children = .ok s)
    (same : children.Perm others) :
    sortChildren (children.filter fun child => child.1.role = .computed) =
      sortChildren (others.filter fun child => child.1.role = .computed) := by
  have sorted : (sortChildren (children.filter fun child => child.1.role = .computed)).Perm
      (sortChildren (others.filter fun child => child.1.role = .computed)) :=
    (sortChildren_perm _).trans ((same.filter _).trans (sortChildren_perm _).symm)
  refine sorted.eq_of_pairwise (fun first second present also before after => ?_)
    (sortChildren_ordered _) (sortChildren_ordered _)
  have one := List.mem_of_mem_filter ((sortChildren_perm _).mem_iff.mp present)
  have two := List.mem_of_mem_filter ((sortChildren_perm _).mem_iff.mp also)
  exact eq_of_canonical_eq accepted one (same.mem_iff.mpr two)
    (canonical_eq_of_precedes before after)

/-- Of accepted children at most one is the current node. -/
theorem special_perm_eq (accepted : check path [] children = .ok ()) (same : children.Perm others)
    (lone : ∀ child ∈ children, child.1.role = .special → child.1 = .here) :
    children.filter (fun child => child.1.role = .special) =
      others.filter fun child => child.1.role = .special := by
  have moved : (children.filter fun child => child.1.role = .special).Perm
      (others.filter fun child => child.1.role = .special) := same.filter _
  have forms := ((check_eq_ok List.nodup_nil).mp accepted).1
  rw [List.append_nil] at forms
  have distinct := (List.filter_sublist (p := fun child => child.1.role = .special)
    (l := children)).map (·.1.canonical) |>.nodup forms
  have here : ∀ child ∈ children.filter (fun child => child.1.role = .special),
      child.1 = .here := fun child present =>
    lone child (List.mem_of_mem_filter present) (by simpa using (List.mem_filter.mp present).2)
  generalize children.filter (fun child => child.1.role = .special) = first at moved distinct here
  match first with
  | [] => exact moved.nil_eq
  | [child] => exact List.singleton_perm.mp moved
  | child :: another :: rest =>
    have one := here child List.mem_cons_self
    have two := here another (List.mem_cons_of_mem child List.mem_cons_self)
    simp [one, two] at distinct

/-- Children of which only the current node is special make, in another order, the same siblings
up to the order of the literals. -/
theorem ofChildren_reorder (same : children.Perm others)
    (lone : ∀ child ∈ children, child.1.role = .special → child.1 = .here) :
    Outcome.Both (fun (s t : Siblings α) => ∃ literals, s.literals.Perm literals ∧
        t = { s with literals }) (ofChildren path children) (ofChildren path others) := by
  cases accepted : ofChildren path children with
  | error e =>
    cases also : ofChildren path others with
    | error other => exact .failed e other
    | ok t =>
      obtain ⟨s, made⟩ := ofChildren_isOk.mpr
        ((check_perm same).mpr (ofChildren_isOk.mp ⟨t, also⟩))
      rw [accepted] at made
      cases made
  | ok s =>
    have sorted := sortChildren_perm_eq accepted same
    obtain ⟨passed, -⟩ := ofChildren_eq accepted
    have repassed : check path [] others = .ok () := (check_perm same).mp passed
    have literals : (literalsOf children).Perm (literalsOf others) := same.filterMap _
    rw [ofChildren, passed] at accepted
    cases accepted
    rw [ofChildren, repassed]
    refine .done ⟨literalsOf others, literals, ?_⟩
    rw [← sorted, ← special_perm_eq passed same lone, determine_perm (literals.map (·.1))]

/-- Children without special ones make, in another order, the same siblings up to the order of
the literals. -/
theorem ofChildren_perm (same : children.Perm others)
    (plain : ∀ child ∈ children, child.1.role ≠ .special) :
    Outcome.Both (fun (s t : Siblings α) => ∃ literals, s.literals.Perm literals ∧
        t = { s with literals }) (ofChildren path children) (ofChildren path others) :=
  ofChildren_reorder same fun child present special => absurd special (plain child present)

end Siblings

namespace Dialect

variable {C B L : Type} (d : Dialect C B L) (limit : Nat) (outer : C) (depth : Nat) (path : Pointer)

def compileMember (member : String × Json) : Except BuildError (List (Entry B L)) := do
  let here := Pointer.child path member.1
  match d.accept member.2 with
  | .error fault => .error ⟨here, fault⟩
  | .ok () => do
    let (text, inner) := d.splitKey member.1
    let elements ← readKey here text
    d.entries outer inner here member.2 (d.compile limit inner (depth + 1) here member.2) elements

/-- What a node is made of from its entries. -/
def assemble (entries : List (Entry B L)) : Except BuildError (B × Siblings (Tree B L)) := do
  let info ← d.close outer entries
  let siblings ← Siblings.ofChildren path (entries.map fun c => (c.element, c.tree))
  .ok (info, siblings)

theorem compileMembers_eq (members : Members) :
    d.compileMembers limit outer depth path members =
      (members.mapM (d.compileMember limit outer depth path)).map List.flatten := by
  induction members with
  | nil => rw [compileMembers]; rfl
  | cons member rest ih =>
    rw [compileMembers, List.mapM_cons, compileMember, ih]
    cases d.accept member.2 with
    | error fault => rfl
    | ok accepted =>
      dsimp only
      cases readKey (Pointer.child path member.1) (d.splitKey member.1).1 with
      | error e => rfl
      | ok elements =>
        simp only [Outcome.ok_bind]
        cases d.entries outer (d.splitKey member.1).2 (Pointer.child path member.1) member.2
            (d.compile limit (d.splitKey member.1).2 (depth + 1) (Pointer.child path member.1)
              member.2) elements with
        | error e => rfl
        | ok found =>
          cases rest.mapM (d.compileMember limit outer depth path) with
          | error e => rfl
          | ok more => rfl

theorem compile_obj (members : Members) :
    d.compile limit outer depth path (.obj members) =
      if limit < depth then .error ⟨path, .tooDeep limit⟩
      else if members.isEmpty then .error ⟨path, .empty d.label⟩
      else (members.mapM (d.compileMember limit outer depth path)).map List.flatten >>=
        d.assemble outer path := by
  rw [compile, compileMembers_eq]
  rfl

end Dialect

end Reshape.Spec
