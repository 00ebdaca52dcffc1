import Reshape.Proofs.Spec.Orders
import Reshape.Proofs.Twins

/-! Specs in another order. Documents that are equal up to the order of members compile, or fail
to, to trees that are equal up to the order of literals. Of some objects in a spec the order is
kept, if it means something there. -/

namespace Reshape

open Key Spec

namespace Json

/-- Equality up to the order of members, but not of the members of objects that are kept. -/
inductive AlikeKeeping (kept : Json → Bool) : Json → Json → Prop where
  | refl (doc : Json) : AlikeKeeping kept doc doc
  | trans {first second third : Json} (one : AlikeKeeping kept first second)
      (other : AlikeKeeping kept second third) : AlikeKeeping kept first third
  | shuffle {members others : Members} (free : kept (.obj members) = false)
      (same : members.Perm others) : AlikeKeeping kept (.obj members) (.obj others)
  | members {pairs : List (String × Json × Json)}
      (each : ∀ pair ∈ pairs, AlikeKeeping kept pair.2.1 pair.2.2) :
      AlikeKeeping kept (.obj (pairs.map fun pair => (pair.1, pair.2.1)))
        (.obj (pairs.map fun pair => (pair.1, pair.2.2)))
  | inside {pairs : List (String × Json × Json)}
      (held : kept (.obj (pairs.map fun pair => (pair.1, pair.2.1))) = true)
      (each : ∀ pair ∈ pairs, Alike pair.2.1 pair.2.2) :
      AlikeKeeping kept (.obj (pairs.map fun pair => (pair.1, pair.2.1)))
        (.obj (pairs.map fun pair => (pair.1, pair.2.2)))
  | items {pairs : List (Json × Json)} (each : ∀ pair ∈ pairs, Alike pair.1 pair.2) :
      AlikeKeeping kept (.arr (pairs.map (·.1))) (.arr (pairs.map (·.2)))

variable {doc other : Json} {kept : Json → Bool}

theorem AlikeKeeping.alike (alike : doc.AlikeKeeping kept other) : doc.Alike other := by
  induction alike with
  | refl doc => exact .refl doc
  | trans _ _ one two => exact one.trans two
  | shuffle _ same => exact .shuffle same
  | members _ ih => exact .members ih
  | inside _ each => exact .members each
  | items each => exact .items each

/-- Where no object is kept, all members may change places. -/
theorem AlikeKeeping.of_alike (alike : doc.Alike other) :
    doc.AlikeKeeping (fun _ => false) other := by
  induction alike with
  | refl doc => exact .refl doc
  | trans _ _ one two => exact one.trans two
  | shuffle same => exact .shuffle rfl same
  | members _ ih => exact .members ih
  | items each _ => exact .items each

end Json

namespace Spec

variable {B L C : Type}

/-- Equality up to the order of literals, in all branches, and up to what leaves hold. -/
inductive Tree.Reordered (related : L → L → Prop) : Tree B L → Tree B L → Prop where
  | trans {first second third : Tree B L} (one : Reordered related first second)
      (other : Reordered related second third) : Reordered related first third
  | leaf {value other : L} (same : related value other) :
      Reordered related (.leaf value) (.leaf other)
  | shuffle {info : B} {s : Siblings (Tree B L)} {literals : List (String × Tree B L)}
      (same : literals.Perm s.literals)
      (each : ∀ child ∈ s.all, Reordered related child.2 child.2) :
      Reordered related (.branch info { s with literals }) (.branch info s)
  | children {info : B} {pairs : Siblings (Tree B L × Tree B L)}
      (each : ∀ child ∈ pairs.all, Reordered related child.2.1 child.2.2) :
      Reordered related (.branch info (pairs.map fun _ pair => pair.1))
        (.branch info (pairs.map fun _ pair => pair.2))

namespace Siblings

variable {α : Type} {s : Siblings α} {literals : List (String × α)}

theorem all_perm (same : literals.Perm s.literals) :
    ({ s with literals } : Siblings α).all.Perm s.all :=
  ((same.map _).append_right _).append_right _

end Siblings

/-- Something is known of all branches of a tree and of the texts of their literals. -/
inductive Tree.Throughout (admits : B → List String → Prop) : Tree B L → Prop where
  | leaf (value : L) : Throughout admits (.leaf value)
  | branch {info : B} {s : Siblings (Tree B L)} (admitted : admits info (s.literals.map (·.1)))
      (below : ∀ child ∈ s.all, Throughout admits child.2) : Throughout admits (.branch info s)

namespace Tree

variable {related : L → L → Prop} {admits : B → List String → Prop} {t u : Tree B L}

/-- What is known of texts in any order is known of reordered trees. -/
theorem Reordered.throughout
    (moves : ∀ {info texts others}, texts.Perm others → admits info texts → admits info others)
    (reordered : t.Reordered related u) (throughout : t.Throughout admits) :
    u.Throughout admits := by
  induction reordered with
  | trans _ _ one two => exact two (one throughout)
  | leaf _ => exact .leaf _
  | shuffle same each ih =>
    cases throughout with
    | branch admitted below =>
      refine .branch (moves (same.map _) admitted) fun child present => ?_
      exact ih child present (below child ((Siblings.all_perm same).mem_iff.mpr present))
  | children each ih =>
    cases throughout with
    | branch admitted below =>
      rw [Siblings.all_map, List.forall_mem_map] at below
      refine .branch ?_ ?_
      · rwa [Siblings.texts_map] at admitted ⊢
      · rw [Siblings.all_map, List.forall_mem_map]
        exact fun child present => ih child present (below child present)

/-- What reordered trees fold to agrees if it does for leaves, and for branches whose children
agree, whatever the order of their literals is. -/
theorem Reordered.fold_agree {M : Type} {agree : M → M → Prop} {leaf : L → M}
    {branch : B → Siblings M → M} (admits : B → List String → Prop)
    (moves : ∀ {info texts others}, texts.Perm others → admits info texts → admits info others)
    (compose : ∀ {a b c}, agree a b → agree b c → agree a c)
    (leaves : ∀ {value other}, related value other → agree (leaf value) (leaf other))
    (branches : ∀ {α : Type} {info : B} {s : Siblings α} {literals : List (String × α)}
      {f g : α → M}, admits info (s.literals.map (·.1)) → literals.Perm s.literals →
      (∀ child ∈ s.all, agree (f child.2) (g child.2)) →
      agree (branch info (({ s with literals } : Siblings α).map fun _ => f))
        (branch info (s.map fun _ => g)))
    (reordered : t.Reordered related u) (throughout : t.Throughout admits) :
    agree (t.fold leaf branch) (u.fold leaf branch) := by
  induction reordered with
  | trans first _ one two =>
    exact compose (one throughout) (two (first.throughout moves throughout))
  | leaf same =>
    simp only [fold]
    exact leaves same
  | shuffle same each ih =>
    cases throughout with
    | branch admitted below =>
      rw [fold_branch, fold_branch, Siblings.foldSiblings_eq_map, Siblings.foldSiblings_eq_map]
      refine branches (moves (same.map _) admitted) same fun child present => ?_
      exact ih child present (below child ((Siblings.all_perm same).mem_iff.mpr present))
  | children each ih =>
    cases throughout with
    | branch admitted below =>
      rw [Siblings.texts_map] at admitted
      rw [Siblings.all_map, List.forall_mem_map] at below
      rw [fold_branch, fold_branch, Siblings.foldSiblings_eq_map, Siblings.foldSiblings_eq_map,
        Siblings.map_map, Siblings.map_map]
      exact branches admitted (.refl _) fun child present => ih child present (below child present)

theorem Throughout.combine {first : List String → Prop} {both : B → List String → Prop}
    (combine : ∀ info texts, admits info texts → first texts → both info texts)
    (throughout : t.Throughout admits) (every : t.Every fun s => first (s.literals.map (·.1))) :
    t.Throughout both := by
  induction throughout with
  | leaf value => exact .leaf value
  | branch admitted _ ih =>
    cases every with
    | branch also others =>
      exact .branch (combine _ _ admitted also) fun child present =>
        ih child present (others child present)

theorem Every.throughout {first : List String → Prop}
    (every : t.Every fun s => first (s.literals.map (·.1))) :
    t.Throughout fun _ => first := by
  induction every with
  | leaf value => exact .leaf value
  | branch admitted _ ih => exact .branch admitted ih

/-- The first one of two trees that are equal up to the order of literals has no two literals
with one text. -/
structure Shuffled (related : L → L → Prop) (t u : Tree B L) : Prop where
  reordered : t.Reordered related u
  texts : t.Every fun s => (s.literals.map (·.1)).Nodup

end Tree

namespace Dialect

/-- Compiled nodes that are equal up to the order of literals. -/
def SameBranch (related : L → L → Prop) (first second : B × Siblings (Tree B L)) : Prop :=
  (Tree.branch first.1 first.2).Reordered related (.branch second.1 second.2)

/-- What a dialect makes of a member does not depend on the order of members, but in objects that
are kept, which are no nodes. -/
structure Orderless (d : Dialect C B L) (kept : Json → Bool) (related : L → L → Prop) : Prop where
  accept : ∀ {value other : Json}, value.Alike other →
    Outcome.Both (fun _ _ => True) (d.accept value) (d.accept other)
  child : ∀ {outer inner path element} {value other : Json} {below beneath},
    value.AlikeKeeping kept other → value.Keyed →
    Outcome.Both (SameBranch related) below beneath →
    Outcome.Both (fun first second => first.1 = second.1 ∧ first.2.Reordered related second.2)
      (d.child outer inner path element value below)
      (d.child outer inner path element other beneath)
  close : ∀ outer entries others, d.close outer entries = d.close outer others
  sealed : ∀ {doc other : Json}, kept doc = true → doc.Alike other → ∀ limit outer depth path,
    Outcome.Both (SameBranch related) (d.compile limit outer depth path doc)
      (d.compile limit outer depth path other)
  nests : d.Nests
  lone : d.Uses fun element => element.role = .special → element = .here

/-- Entries with the same element whose trees are equal up to the order of literals. -/
structure SameEntry (related : L → L → Prop) (entry other : Entry B L) : Prop where
  element : entry.element = other.element
  tree : entry.tree.Reordered related other.tree

variable {d : Dialect C B L} {kept : Json → Bool} {related : L → L → Prop}
  {entries others : List (Entry B L)} {outer inner : C} {path : Pointer} {limit depth : Nat}
  {spec value other : Json} {members : Members}

theorem assemble_pairs (orderless : d.Orderless kept related)
    (same : List.Forall₂ (SameEntry related) entries others) :
    Outcome.Both (SameBranch related) (d.assemble outer path entries)
      (d.assemble outer path others) := by
  have paired : ∃ pairs : List (Element × Tree B L × Tree B L),
      entries.map (fun entry => (entry.element, entry.tree)) =
        pairs.map (fun child => (child.1, child.2.1)) ∧
      others.map (fun entry => (entry.element, entry.tree)) =
        pairs.map (fun child => (child.1, child.2.2)) ∧
      ∀ child ∈ pairs, child.2.1.Reordered related child.2.2 := by
    induction same with
    | nil => exact ⟨[], rfl, rfl, nofun⟩
    | @cons entry other _ _ first _ ih =>
      obtain ⟨pairs, one, two, each⟩ := ih
      refine ⟨(entry.element, entry.tree, other.tree) :: pairs, ?_, ?_,
        List.forall_mem_cons.mpr ⟨first.tree, each⟩⟩
      · rw [List.map_cons, one, List.map_cons]
      · rw [List.map_cons, two, List.map_cons, first.element]
  obtain ⟨pairs, one, two, each⟩ := paired
  rw [assemble, assemble, orderless.close outer entries others]
  refine Outcome.Both.bind_same fun info _ => ?_
  rw [one, two, Siblings.ofChildren_map fun _ (pair : Tree B L × Tree B L) => pair.1,
    Siblings.ofChildren_map fun _ (pair : Tree B L × Tree B L) => pair.2]
  cases accepted : Siblings.ofChildren path pairs with
  | error e => exact .failed e e
  | ok siblings =>
    exact .done (.children fun child present =>
      each child (Siblings.mem_of_mem_all accepted present))

theorem assemble_perm (orderless : d.Orderless kept related) (same : entries.Perm others)
    (lone : ∀ entry ∈ entries, entry.element.role = .special → entry.element = .here)
    (each : ∀ entry ∈ entries, entry.tree.Reordered related entry.tree) :
    Outcome.Both (SameBranch related) (d.assemble outer path entries)
      (d.assemble outer path others) := by
  rw [assemble, assemble, orderless.close outer entries others]
  refine Outcome.Both.bind_same fun info _ => ?_
  have children : (entries.map fun entry => (entry.element, entry.tree)).Perm
      (others.map fun entry => (entry.element, entry.tree)) := same.map _
  refine (Siblings.ofChildren_reorder children (List.forall_mem_map.mpr lone)).bind_of_ok ?_
  rintro s _ accepted ⟨literals, shuffled, rfl⟩
  have own : ∀ child ∈ ({ s with literals } : Siblings (Tree B L)).all,
      child.2.Reordered related child.2 := fun child present => by
    have present := (Siblings.all_perm shuffled.symm).mem_iff.mp present
    obtain ⟨entry, held, rfl⟩ := List.mem_map.mp (Siblings.mem_of_mem_all accepted present)
    exact each entry held
  exact .done (.shuffle shuffled own)

/-- A member is compiled to the same entries for all values that are equal up to the order of
members, if nodes are. -/
theorem compileMember_pair (orderless : d.Orderless kept related)
    (alike : value.AlikeKeeping kept other) (keyed : value.Keyed) (key : String)
    (below : ∀ inner, Outcome.Both (SameBranch related)
      (d.compile limit inner (depth + 1) (Pointer.child path key) value)
      (d.compile limit inner (depth + 1) (Pointer.child path key) other)) :
    Outcome.Both (List.Forall₂ (SameEntry related))
      (d.compileMember limit outer depth path (key, value))
      (d.compileMember limit outer depth path (key, other)) := by
  have entries (elements : List Element) (inner : C) :
      Outcome.Both (List.Forall₂ (SameEntry related))
        (d.entries outer inner (Pointer.child path key) value
          (d.compile limit inner (depth + 1) (Pointer.child path key) value) elements)
        (d.entries outer inner (Pointer.child path key) other
          (d.compile limit inner (depth + 1) (Pointer.child path key) other) elements) := by
    induction elements with
    | nil => exact .done .nil
    | cons element rest ih =>
      rw [Dialect.entries, Dialect.entries]
      refine (orderless.child alike keyed (below inner)).bind fun {first second} agree => ?_
      obtain ⟨used, reordered⟩ := agree
      exact ih.bind fun more => .done (.cons ⟨used, reordered⟩ more)
  have accepted := orderless.accept alike.alike
  rw [compileMember, compileMember]
  dsimp only
  generalize d.accept value = first, d.accept other = second at accepted
  cases accepted with
  | failed fault another => exact .failed _ _
  | done _ => exact Outcome.Both.bind_same fun elements _ => entries elements _

theorem compile_members (orderless : d.Orderless kept related)
    {pairs : List (String × Json × Json)}
    (alike : ∀ pair ∈ pairs, pair.2.1.AlikeKeeping kept pair.2.2)
    (keyed : ∀ pair ∈ pairs, pair.2.1.Keyed)
    (below : ∀ pair ∈ pairs, ∀ inner depth path, Outcome.Both (SameBranch related)
      (d.compile limit inner depth path pair.2.1) (d.compile limit inner depth path pair.2.2)) :
    Outcome.Both (SameBranch related)
      (d.compile limit outer depth path (.obj (pairs.map fun pair => (pair.1, pair.2.1))))
      (d.compile limit outer depth path (.obj (pairs.map fun pair => (pair.1, pair.2.2)))) := by
  rw [compile_obj, compile_obj, List.isEmpty_map, List.isEmpty_map]
  refine .ite (fun _ => .failed _ _) fun _ => .ite (fun _ => .failed _ _) fun _ => ?_
  rw [List.mapM_map, List.mapM_map]
  have member (pair : String × Json × Json) (present : pair ∈ pairs) :
      Outcome.Both (List.Forall₂ (SameEntry related))
        (d.compileMember limit outer depth path (pair.1, pair.2.1))
        (d.compileMember limit outer depth path (pair.1, pair.2.2)) :=
    compileMember_pair orderless (alike pair present) (keyed pair present) pair.1
      fun inner => below pair present inner (depth + 1) (Pointer.child path pair.1)
  have found := (Outcome.Both.mapM member).map fun same => List.rel_flatten same
  exact found.bind fun same => assemble_pairs orderless same

theorem compile_scalar (plain : value.isObject = false) (same : other.isObject = false) :
    Outcome.Both (SameBranch related) (d.compile limit outer depth path value)
      (d.compile limit outer depth path other) := by
  have fails {doc : Json} (plain : doc.isObject = false) :
      ∃ e, d.compile limit outer depth path doc = .error e := by
    cases doc with
    | obj members => cases plain
    | _ => unfold compile; split <;> exact ⟨_, rfl⟩
  obtain ⟨e, failed⟩ := fails plain
  obtain ⟨fault, also⟩ := fails same
  rw [failed, also]
  exact .failed e fault

theorem keyed_members (keyed : (Json.obj members).Keyed) : ∀ member ∈ members, member.2.Keyed := by
  cases keyed with
  | scalar plain => cases plain
  | object _ each => exact each

/-- What a spec compiles to is equal to itself. -/
theorem compile_self (orderless : d.Orderless kept related) (keyed : spec.Keyed) (outer : C)
    (depth : Nat) (path : Pointer) : Outcome.Both (SameBranch related)
      (d.compile limit outer depth path spec) (d.compile limit outer depth path spec) := by
  induction keyed generalizing outer depth path with
  | scalar plain =>
    have single := (Bool.or_eq_false_iff.mp plain).2
    exact compile_scalar single single
  | array _ _ => exact compile_scalar rfl rfl
  | @object members _ each ih =>
    have doubled (side : Json × Json → Json) (same : ∀ value, side (value, value) = value) :
        (members.map fun member => (member.1, member.2, member.2)).map
          (fun pair => (pair.1, side pair.2)) = members := by
      rw [List.map_map]
      refine (List.map_congr_left fun member _ => ?_).trans (List.map_id members)
      exact Prod.ext rfl (same member.2)
    have compiled : Outcome.Both (SameBranch related)
        (d.compile limit outer depth path (.obj ((members.map fun member =>
          (member.1, member.2, member.2)).map fun pair => (pair.1, pair.2.1))))
        (d.compile limit outer depth path (.obj ((members.map fun member =>
          (member.1, member.2, member.2)).map fun pair => (pair.1, pair.2.2)))) := by
      refine compile_members orderless (List.forall_mem_map.mpr ?_) (List.forall_mem_map.mpr each)
        (List.forall_mem_map.mpr ih)
      exact fun member _ => .refl member.2
    rwa [doubled Prod.fst fun _ => rfl, doubled Prod.snd fun _ => rfl] at compiled

/-- The entries of a node are equal to themselves. -/
theorem entries_self (orderless : d.Orderless kept related) (keyed : (Json.obj members).Keyed)
    (compiled : d.compileMembers limit outer depth path members = .ok entries) :
    ∀ entry ∈ entries, entry.tree.Reordered related entry.tree := by
  rw [compileMembers_eq] at compiled
  obtain ⟨groups, found, rfl⟩ := Outcome.map_eq_ok.mp compiled
  have same : Outcome.Both (List.Forall₂ (List.Forall₂ (SameEntry related)))
      (members.mapM (d.compileMember limit outer depth path))
      (members.mapM (d.compileMember limit outer depth path)) :=
    Outcome.Both.mapM fun member present =>
      compileMember_pair orderless (.refl member.2) (keyed_members keyed member present) member.1
        fun inner => compile_self orderless (keyed_members keyed member present) inner _ _
  rw [found] at same
  cases same with
  | done related =>
    intro entry present
    obtain ⟨index, within, rfl⟩ := List.mem_iff_getElem.mp present
    exact ((List.rel_flatten related).get within within).tree

/-- Specs that are equal up to the order of members compile to nodes that are equal up to the
order of literals. -/
theorem compile_alike (orderless : d.Orderless kept related) (alike : spec.AlikeKeeping kept other)
    (keyed : spec.Keyed) (outer : C) (depth : Nat) (path : Pointer) :
    Outcome.Both (SameBranch related) (d.compile limit outer depth path spec)
      (d.compile limit outer depth path other) := by
  induction alike generalizing outer depth path with
  | refl doc => exact compile_self orderless keyed outer depth path
  | trans first _ one two =>
    refine Outcome.Both.trans ?_ (one keyed outer depth path)
      (two (first.alike.keyed keyed) outer depth path)
    exact Tree.Reordered.trans
  | @shuffle members others _ same =>
    rw [compile_obj, compile_obj, same.isEmpty_eq]
    refine .ite (fun _ => .failed _ _) fun _ => .ite (fun _ => .failed _ _) fun _ => ?_
    have entries := (Outcome.Both.mapM_perm same (d.compileMember limit outer depth path)).map
      List.Perm.flatten
    refine entries.bind_of_ok fun {found _} compiled shuffled => ?_
    rw [← compileMembers_eq] at compiled
    have nothing : Inherits (fun element => element.role = .special → element = .here)
        fun _ (_ : Tree B L) => True := ⟨fun _ _ => trivial, fun _ _ => trivial⟩
    have held := compileMembers_hold orderless.nests orderless.lone nothing members compiled
    exact assemble_perm orderless shuffled (fun entry present => (held entry present).1)
      (entries_self orderless keyed compiled)
  | @members pairs each ih =>
    have below := List.forall_mem_map.mp (keyed_members keyed)
    exact compile_members orderless each below fun pair present =>
      ih pair present (below pair present)
  | inside held each => exact orderless.sealed held (.members each) limit outer depth path
  | items _ => exact compile_scalar rfl rfl

theorem compileRoot_alike (orderless : d.Orderless kept related)
    (alike : spec.AlikeKeeping kept other) (keyed : spec.Keyed) (limit : Nat) (context : C) :
    Outcome.Both (fun first second => (Tree.branch first.1 first.2).Shuffled related
        (.branch second.1 second.2))
      (d.compileRoot limit context spec) (d.compileRoot limit context other) := by
  refine (compile_alike orderless alike keyed context 1 []).imp fun {first _} compiled _ same => ?_
  have uses : d.Uses fun _ => True := fun _ => trivial
  have accepted {path : Pointer} {children : List (Element × Tree B L)} {s : Siblings (Tree B L)}
      (accepted : Siblings.ofChildren path children = .ok s) (_ : ∀ child ∈ s.all, True) :
      (s.literals.map (·.1)).Nodup := Siblings.literals_nodup accepted
  obtain ⟨admitted, below⟩ := compileRoot_every orderless.nests uses accepted compiled
  exact ⟨same, .branch admitted below⟩

end Dialect

end Spec

end Reshape
