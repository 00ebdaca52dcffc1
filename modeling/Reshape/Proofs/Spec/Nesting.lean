import Reshape.Proofs.Spec.Fold
import Reshape.Proofs.Spec.Handling
import Reshape.Spec.Compile

/-! What compiling grants for every node of a spec: its children were accepted as siblings,
and it has at most as many levels below it as the limit leaves at its depth. -/

namespace Reshape.Spec

open Key

namespace Siblings

variable {α : Type} {path : Pointer} {children : List (Element × α)} {s : Siblings α}
variable {child : Element × α}

theorem mem_special (accepted : ofChildren path children = .ok s) :
    child ∈ s.special ↔ child ∈ children ∧ child.1.role = .special := by
  obtain ⟨checked, -, built⟩ := Outcome.bind_eq_ok.mp accepted
  cases built
  rw [List.mem_filter, decide_eq_true_eq]

theorem mem_of_mem_all (accepted : ofChildren path children = .ok s) (present : child ∈ s.all) :
    child ∈ children := by
  rcases List.mem_append.mp present with present | special
  · rcases List.mem_append.mp present with literal | computed
    · obtain ⟨entry, held, rfl⟩ := List.mem_map.mp literal
      exact (mem_literals accepted).mp held
    · exact ((mem_computed accepted).mp computed).1
  · exact ((mem_special accepted).mp special).1

/-- The parts of a node hold the children that they are for. -/
structure Parted (s : Siblings α) : Prop where
  computed : ∀ child ∈ s.computed, child.1.role = .computed
  special : ∀ child ∈ s.special, child.1.role = .special

theorem parted (accepted : ofChildren path children = .ok s) : s.Parted where
  computed _ present := ((mem_computed accepted).mp present).2
  special _ present := ((mem_special accepted).mp present).2

end Siblings

/-- All branches of a tree have children of a kind. -/
inductive Tree.Every {B L : Type} (admits : Siblings (Tree B L) → Prop) : Tree B L → Prop where
  | leaf (value : L) : Every admits (.leaf value)
  | branch {info : B} {s : Siblings (Tree B L)} (admitted : admits s)
      (below : ∀ child ∈ s.all, Every admits child.2) : Every admits (.branch info s)

theorem Tree.Every.of_forall {B L : Type} {admits : Siblings (Tree B L) → Prop}
    (all : ∀ s, admits s) (t : Tree B L) : Tree.Every admits t := by
  induction t using Tree.induct with
  | leaf value => exact .leaf value
  | branch info s ih => exact .branch (all s) ih

theorem Tree.Every.combine {B L : Type} {first second both : Siblings (Tree B L) → Prop}
    (combine : ∀ s, first s → second s → both s) {t : Tree B L} (one : t.Every first)
    (other : t.Every second) : t.Every both := by
  induction one with
  | leaf value => exact .leaf value
  | branch admitted below ih =>
    cases other with
    | branch also others =>
      exact .branch (combine _ admitted also) fun child present =>
        ih child present (others child present)

namespace Dialect

variable {C B L : Type} {d : Dialect C B L}

/-- A branch is what was compiled below its key. -/
def Nests (d : Dialect C B L) : Prop :=
  ∀ {outer inner path element value below used info s},
    d.child outer inner path element value below = .ok (used, .branch info s) →
      below = .ok (info, s)

/-- The elements that nodes use are of a kind. -/
def Uses (d : Dialect C B L) (kind : Element → Prop) : Prop :=
  ∀ {outer inner path element value below used tree},
    d.child outer inner path element value below = .ok (used, tree) → kind used

/-- What is told about trees by the room that a limit leaves for them: it holds of leaves,
and of branches that were accepted and whose children it holds of with less room. -/
structure Inherits (kind : Element → Prop) (holds : Nat → Tree B L → Prop) : Prop where
  leaf : ∀ room value, holds (room + 1) (.leaf value)
  branch : ∀ {room info path children s}, Siblings.ofChildren path children = .ok s →
    (∀ child ∈ s.all, kind child.1 ∧ holds room child.2) → holds (room + 1) (.branch info s)

/-- Some siblings were accepted, their elements are of a kind, and something holds of all of
them. -/
def Grants (kind : Element → Prop) (holds : Tree B L → Prop) (s : Siblings (Tree B L)) : Prop :=
  (∃ path children, Siblings.ofChildren path children = .ok s) ∧
    ∀ child ∈ s.all, kind child.1 ∧ holds child.2

variable {kind : Element → Prop} {holds : Nat → Tree B L → Prop}
variable {limit depth room : Nat} {outer inner : C} {path : Pointer}

theorem entries_hold (nests : d.Nests) (uses : d.Uses kind) (inherits : Inherits kind holds)
    {value : Json} {below : Except BuildError (B × Siblings (Tree B L))}
    (granted : ∀ info s, below = .ok (info, s) → Grants kind (holds room) s)
    {elements : List Element} {found : List (Entry B L)}
    (compiled : d.entries outer inner path value below elements = .ok found) :
    ∀ entry ∈ found, kind entry.element ∧ holds (room + 1) entry.tree := by
  induction elements generalizing found with
  | nil =>
    cases compiled
    intro entry absent
    cases absent
  | cons element rest ih =>
    rw [entries] at compiled
    obtain ⟨⟨used, tree⟩, made, compiled⟩ := Outcome.bind_eq_ok.mp compiled
    obtain ⟨more, later, built⟩ := Outcome.bind_eq_ok.mp compiled
    cases built
    refine List.forall_mem_cons.mpr ⟨⟨uses made, ?_⟩, ih later⟩
    cases tree with
    | leaf value => exact inherits.leaf room value
    | branch info s =>
      obtain ⟨⟨path, children, accepted⟩, each⟩ := granted info s (nests made)
      exact inherits.branch accepted each

theorem exists_members {spec : Json} {compiled : B × Siblings (Tree B L)}
    (found : d.compile limit outer depth path spec = .ok compiled) :
    ∃ members, spec = .obj members := by
  cases spec with
  | obj members => exact ⟨members, rfl⟩
  | _ =>
    unfold compile at found
    split at found <;> cases found

mutual

/-- The children of a compiled node were accepted, and what trees inherit holds of each of
them with the room that is left at their depth. -/
theorem compile_grants (nests : d.Nests) (uses : d.Uses kind) (inherits : Inherits kind holds)
    {outer : C} {depth : Nat} {path : Pointer} {info : B} {s : Siblings (Tree B L)} :
    ∀ spec, d.compile limit outer depth path spec = .ok (info, s) →
      Grants kind (holds (limit + 1 - depth)) s
  | .obj members => by
    intro compiled
    rw [compile] at compiled
    split at compiled
    · cases compiled
    · rename_i within
      split at compiled
      · cases compiled
      · obtain ⟨entries, found, compiled⟩ := Outcome.bind_eq_ok.mp compiled
        obtain ⟨closed, -, compiled⟩ := Outcome.bind_eq_ok.mp compiled
        obtain ⟨siblings, accepted, built⟩ := Outcome.bind_eq_ok.mp compiled
        cases built
        refine ⟨⟨path, _, accepted⟩, fun child present => ?_⟩
        obtain ⟨entry, member, rfl⟩ := List.mem_map.mp (Siblings.mem_of_mem_all accepted present)
        have room := compileMembers_hold nests uses inherits members found entry member
        rwa [Nat.sub_add_comm (Nat.le_of_not_lt within)]
  | .null => fun compiled => nomatch exists_members compiled
  | .bool _ => fun compiled => nomatch exists_members compiled
  | .num _ => fun compiled => nomatch exists_members compiled
  | .str _ => fun compiled => nomatch exists_members compiled
  | .arr _ => fun compiled => nomatch exists_members compiled

theorem compileMembers_hold (nests : d.Nests) (uses : d.Uses kind) (inherits : Inherits kind holds)
    {outer : C} {depth : Nat} {path : Pointer} {found : List (Entry B L)} :
    ∀ members, d.compileMembers limit outer depth path members = .ok found →
      ∀ entry ∈ found, kind entry.element ∧ holds (limit - depth + 1) entry.tree
  | [] => by
    intro compiled
    cases compiled
    intro entry absent
    cases absent
  | (key, value) :: rest => by
    intro compiled
    rw [compileMembers] at compiled
    split at compiled
    · cases compiled
    · obtain ⟨elements, -, compiled⟩ := Outcome.bind_eq_ok.mp compiled
      obtain ⟨first, made, compiled⟩ := Outcome.bind_eq_ok.mp compiled
      obtain ⟨more, later, built⟩ := Outcome.bind_eq_ok.mp compiled
      cases built
      refine List.forall_mem_append.mpr ⟨?_, compileMembers_hold nests uses inherits rest later⟩
      refine entries_hold nests uses inherits (fun info s compiled => ?_) made
      have granted := compile_grants nests uses inherits value compiled
      rwa [Nat.add_sub_add_right] at granted

end

/-- What holds of accepted children whose elements are of a kind, holds in all parts of a
compiled spec. -/
theorem compileRoot_every (nests : d.Nests) (uses : d.Uses kind)
    {admits : Siblings (Tree B L) → Prop}
    (admitted : ∀ {path children s}, Siblings.ofChildren path children = .ok s →
      (∀ child ∈ s.all, kind child.1) → admits s)
    {context : C} {spec : Json} {info : B} {s : Siblings (Tree B L)}
    (compiled : d.compileRoot limit context spec = .ok (info, s)) :
    admits s ∧ ∀ child ∈ s.all, child.2.Every admits := by
  have inherits : Inherits kind fun _ (t : Tree B L) => t.Every admits := by
    refine ⟨fun _ => .leaf, fun accepted each => .branch (admitted accepted ?_) ?_⟩
    · exact fun child present => (each child present).1
    · exact fun child present => (each child present).2
  obtain ⟨⟨path, children, accepted⟩, each⟩ := compile_grants nests uses inherits spec compiled
  exact ⟨admitted accepted fun child present => (each child present).1,
    fun child present => (each child present).2⟩

/-- All parts of a compiled spec hold the children that they are for. -/
theorem compileRoot_parted (nests : d.Nests) {context : C} {spec : Json} {info : B}
    {s : Siblings (Tree B L)} (compiled : d.compileRoot limit context spec = .ok (info, s)) :
    s.Parted ∧ ∀ child ∈ s.all, child.2.Every Siblings.Parted := by
  have uses : d.Uses fun _ => True := fun _ => trivial
  exact compileRoot_every nests uses (fun accepted _ => Siblings.parted accepted) compiled

end Dialect

end Reshape.Spec
