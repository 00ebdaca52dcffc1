import Reshape.Proofs.Key.Alternatives
import Reshape.Proofs.Spec.Compiling

namespace Reshape

open Key Spec

namespace Spec

/-- The way from a spec down to one of its nodes: at each level the members before the key that
is taken, the key, and the members after it. -/
abbrev Surroundings := List (Members × String × Members)

/-- The spec that has a node at the end of a way. -/
def Surroundings.enclose : Surroundings → Json → Json
  | [], node => node
  | (before, key, after) :: rest, node => .obj (before ++ (key, enclose rest node) :: after)

/-- A place in a spec where members can stand: the way down to a node, and the members of the
node before and after the place. -/
structure Site where
  surroundings : Surroundings
  before : Members
  after : Members

namespace Site

def node (site : Site) (members : Members) : Json :=
  .obj (site.before ++ members ++ site.after)

def spec (site : Site) (members : Members) : Json :=
  site.surroundings.enclose (site.node members)

end Site

end Spec

namespace Spec

private theorem Siblings.check_placeless {α : Type} (path other : Pointer) (seen : List String)
    (children : List (Element × α)) :
    Outcome.Both Eq (check path seen children) (check other seen children) := by
  induction children generalizing seen with
  | nil => exact .done rfl
  | cons child rest ih =>
    rw [check, check]
    split
    · exact .failed _ _
    split
    · exact .failed _ _
    exact ih _

theorem Siblings.ofChildren_placeless {α : Type} (path other : Pointer)
    (children : List (Element × α)) :
    Outcome.Both Eq (ofChildren path children) (ofChildren other children) :=
  (check_placeless path other [] children).bind fun _ => .done rfl

variable {C B L : Type}

/-- Entries that differ in where they stand at most. -/
structure Entry.Same (entry other : Entry B L) : Prop where
  written : entry.written = other.written
  element : entry.element = other.element
  tree : entry.tree = other.tree

namespace Dialect

variable {d : Dialect C B L} {limit depth : Nat} {outer inner : C} {path other : Pointer}
variable {value written : Json}

/-- Two values are the same to a key, wherever it stands, if the nodes below are. -/
structure Passes (d : Dialect C B L) (value written : Json) : Prop where
  accept : d.accept value = .ok () ↔ d.accept written = .ok ()
  child : d.accept value = .ok () → ∀ {outer inner path other element below beneath},
    Outcome.Both Eq below beneath →
    Outcome.Both Eq (d.child outer inner path element value below)
      (d.child outer inner other element written beneath)

/-- Nothing that is compiled depends on where it stands. -/
structure Placeless (d : Dialect C B L) : Prop where
  child : ∀ value, d.Passes value value
  close : ∀ {outer entries others}, List.Forall₂ Entry.Same entries others →
    Outcome.Both Eq (d.close outer entries) (d.close outer others)

def readAlternative (path : Pointer) (alternative : String) : Except BuildError Element :=
  match Element.parse alternative with
  | .ok element => .ok element
  | .error e => .error ⟨path, .grammar e⟩

def compileAlternative (d : Dialect C B L) (outer inner : C) (path : Pointer) (value : Json)
    (below : Except BuildError (B × Siblings (Tree B L))) (alternative : String) :
    Except BuildError (Entry B L) :=
  readAlternative path alternative >>= d.compileElement outer inner path value below

def compileTexts (d : Dialect C B L) (limit : Nat) (outer inner : C) (depth : Nat) (path : Pointer)
    (value : Json) (texts : List String) : Except BuildError (List (Entry B L)) :=
  texts.mapM (d.compileAlternative outer inner path value
    (d.compile limit inner (depth + 1) path value))

/-- A key is compiled alternative by alternative. -/
theorem compileMember_alternatives (key : String) (accepted : d.accept value = .ok ()) :
    Outcome.Both Eq (d.compileMember limit outer depth path (key, value))
      (d.compileTexts limit outer (d.splitKey key).2 depth (Pointer.child path key) value
        (alternatives (d.splitKey key).1)) := by
  have stepwise : d.compileMember limit outer depth path (key, value) =
      (alternatives (d.splitKey key).1).mapM (readAlternative (Pointer.child path key)) >>=
        List.mapM (d.compileElement outer (d.splitKey key).2 (Pointer.child path key) value
          (d.compile limit (d.splitKey key).2 (depth + 1) (Pointer.child path key) value)) := by
    rw [compileMember]
    simp only [accepted]
    exact Outcome.bind_congr_of_ok fun elements _ => entries_eq_mapM elements
  rw [stepwise]
  exact Outcome.Both.mapM_bind _ _ _

theorem compileMember_refused {fault : SpecFault} (refused : d.accept value = .error fault)
    (key : String) :
    d.compileMember limit outer depth path (key, value) =
      .error ⟨Pointer.child path key, fault⟩ := by
  rw [compileMember]
  simp only [refused]

theorem compileTexts_same (passes : d.Passes value written) (accepted : d.accept value = .ok ())
    (same : Outcome.Both Eq (d.compile limit inner (depth + 1) path value)
      (d.compile limit inner (depth + 1) other written)) (texts : List String) :
    Outcome.Both (List.Forall₂ Entry.Same)
      (d.compileTexts limit outer inner depth path value texts)
      (d.compileTexts limit outer inner depth other written texts) := by
  refine Outcome.Both.mapM fun alternative _ => ?_
  unfold compileAlternative readAlternative
  cases Element.parse alternative with
  | error e => exact .failed _ _
  | ok element =>
    refine (passes.child accepted same).map fun equal => ?_
    subst equal
    exact ⟨rfl, rfl, rfl⟩

/-- A key is compiled to the same entries over another value that is the same to it. -/
theorem compileMember_same (passes : d.Passes value written) (key : String)
    (same : ∀ inner, Outcome.Both Eq
      (d.compile limit inner (depth + 1) (Pointer.child path key) value)
      (d.compile limit inner (depth + 1) (Pointer.child other key) written)) :
    Outcome.Both (List.Forall₂ Entry.Same) (d.compileMember limit outer depth path (key, value))
      (d.compileMember limit outer depth other (key, written)) := by
  cases accepted : d.accept value with
  | error fault =>
    rw [compileMember_refused accepted]
    cases also : d.accept written with
    | error last =>
      rw [compileMember_refused also]
      exact .failed _ _
    | ok _ =>
      have accepts := passes.accept.mpr also
      rw [accepted] at accepts
      cases accepts
  | ok _ =>
    have first : Outcome.Both Eq (d.compileMember limit outer depth path (key, value)) _ :=
      compileMember_alternatives key accepted
    have last : Outcome.Both Eq (d.compileMember limit outer depth other (key, written)) _ :=
      compileMember_alternatives key (passes.accept.mp accepted)
    exact first.eq_trans ((compileTexts_same passes accepted (same _) _).trans_eq last)

private theorem assemble_same (placeless : d.Placeless) {entries others : List (Entry B L)}
    (same : List.Forall₂ Entry.Same entries others) :
    Outcome.Both Eq (d.assemble outer path entries) (d.assemble outer other others) := by
  have children : entries.map (fun entry => (entry.element, entry.tree)) =
      others.map fun entry => (entry.element, entry.tree) := by
    clear placeless
    induction same with
    | nil => rfl
    | cons first _ ih => rw [List.map_cons, List.map_cons, ih, first.element, first.tree]
  rw [assemble, assemble, children]
  refine (placeless.close same).bind fun closed => ?_
  refine (Siblings.ofChildren_placeless path other _).bind fun accepted => .done ?_
  rw [closed, accepted]

/-- Nodes whose members have the same entries are the same. -/
theorem compile_same (placeless : d.Placeless) {members others : Members}
    (emptied : members = [] ↔ others = [])
    (same : Outcome.Both (List.Forall₂ Entry.Same) (d.compileMembers limit outer depth path members)
      (d.compileMembers limit outer depth other others)) :
    Outcome.Both Eq (d.compile limit outer depth path (.obj members))
      (d.compile limit outer depth other (.obj others)) := by
  have sizes : members.isEmpty = others.isEmpty := by
    rw [Bool.eq_iff_iff, List.isEmpty_iff, List.isEmpty_iff, emptied]
  rw [compile_obj, compile_obj, ← compileMembers_eq, ← compileMembers_eq, sizes]
  split
  · exact .failed _ _
  split
  · exact .failed _ _
  exact same.bind fun entries => assemble_same placeless entries

theorem append_same {x y : Except BuildError (List (Entry B L))}
    {more others : Except BuildError (List (Entry B L))}
    (first : Outcome.Both (List.Forall₂ Entry.Same) x y)
    (later : Outcome.Both (List.Forall₂ Entry.Same) more others) :
    Outcome.Both (List.Forall₂ Entry.Same) (x >>= fun found => more.map (found ++ ·))
      (y >>= fun found => others.map (found ++ ·)) :=
  first.bind fun found => later.map fun rest => List.rel_append found rest

mutual

/-- A node is compiled to the same wherever it stands. -/
theorem compile_placeless (placeless : d.Placeless) {depth : Nat} {outer : C}
    {path other : Pointer} : ∀ spec, Outcome.Both Eq (d.compile limit outer depth path spec)
      (d.compile limit outer depth other spec)
  | .obj members => compile_same placeless .rfl (compileMembers_placeless placeless members)
  | .null | .bool _ | .num _ | .str _ | .arr _ => by
    unfold compile
    split
    · exact .failed _ _
    · exact .failed _ _

theorem compileMembers_placeless (placeless : d.Placeless) {depth : Nat} {outer : C}
    {path other : Pointer} : ∀ members, Outcome.Both (List.Forall₂ Entry.Same)
      (d.compileMembers limit outer depth path members)
      (d.compileMembers limit outer depth other members)
  | [] => by
    rw [compileMembers, compileMembers]
    exact .done .nil
  | (key, value) :: rest => by
    rw [compileMembers_cons, compileMembers_cons]
    refine append_same (compileMember_same (placeless.child value) key fun inner => ?_)
      (compileMembers_placeless placeless rest)
    exact compile_placeless placeless value

end

/-- Specs are the same if they are but for nodes that are the same, and that are the same to
all keys above. -/
theorem compile_enclose (placeless : d.Placeless) {node replaced : Json}
    (same : ∀ {outer depth path}, Outcome.Both Eq (d.compile limit outer depth path node)
      (d.compile limit outer depth path replaced))
    (passes : ∀ rest : Surroundings, d.Passes (rest.enclose node) (rest.enclose replaced))
    (surroundings : Surroundings) :
    Outcome.Both Eq (d.compile limit outer depth path (surroundings.enclose node))
      (d.compile limit outer depth path (surroundings.enclose replaced)) := by
  induction surroundings generalizing outer depth path with
  | nil => exact same
  | cons level rest ih =>
    obtain ⟨before, key, after⟩ := level
    refine compile_same placeless (by simp) ?_
    rw [compileMembers_append, compileMembers_append, compileMembers_cons, compileMembers_cons]
    refine append_same (compileMembers_placeless placeless before) (append_same ?_
      (compileMembers_placeless placeless after))
    exact compileMember_same (passes rest) key fun inner => ih

/-- A key is spread out to keys that have its alternatives and tell the nodes below the same. -/
structure Spreads (d : Dialect C B L) (whole : String) (keys : List String) : Prop where
  filled : keys ≠ []
  texts : alternatives (d.splitKey whole).1 =
    keys.flatMap fun key => alternatives (d.splitKey key).1
  contexts : ∀ key ∈ keys, (d.splitKey key).2 = (d.splitKey whole).2

/-- The entries of a key are those of the keys that it is spread out to. -/
theorem compileMembers_spread (placeless : d.Placeless) {whole : String} {keys : List String}
    (spreads : d.Spreads whole keys) (value : Json) :
    Outcome.Both (List.Forall₂ Entry.Same) (d.compileMembers limit outer depth path [(whole, value)])
      (d.compileMembers limit outer depth path (keys.map (·, value))) := by
  rw [compileMembers_singleton, compileMembers_eq, List.mapM_map]
  cases accepted : d.accept value with
  | error fault =>
    obtain ⟨key, rest, rfl⟩ := List.exists_cons_of_ne_nil spreads.filled
    rw [compileMember_refused accepted, List.mapM_cons, Function.comp_apply,
      compileMember_refused accepted]
    exact .failed _ _
  | ok _ =>
    have texts : Outcome.Both Eq (d.compileMember limit outer depth path (whole, value)) _ :=
      compileMember_alternatives whole accepted
    rw [compileTexts, spreads.texts, Outcome.Both.mapM_flatMap] at texts
    have each : ∀ key ∈ keys, Outcome.Both (List.Forall₂ Entry.Same)
        (d.compileTexts limit outer (d.splitKey whole).2 depth (Pointer.child path whole) value
          (alternatives (d.splitKey key).1))
        (d.compileMember limit outer depth path (key, value)) := by
      intro key present
      have last : Outcome.Both Eq (d.compileMember limit outer depth path (key, value)) _ :=
        compileMember_alternatives key accepted
      rw [spreads.contexts key present] at last
      exact (compileTexts_same (placeless.child value) accepted
        (compile_placeless placeless value) _).trans_eq last
    exact texts.eq_trans ((Outcome.Both.mapM each).map fun same => List.rel_flatten same)

/-- A node with a key is compiled to the same as the node with the keys that the key is spread
out to. -/
theorem compile_spread (placeless : d.Placeless) {whole : String} {keys : List String}
    (spreads : d.Spreads whole keys) (value : Json) (site : Site) :
    Outcome.Both Eq (d.compile limit outer depth path (site.node [(whole, value)]))
      (d.compile limit outer depth path (site.node (keys.map (·, value)))) := by
  have filled := spreads.filled
  refine compile_same placeless (by simp [filled]) ?_
  rw [compileMembers_append, compileMembers_append, compileMembers_append, compileMembers_append]
  exact append_same (append_same (compileMembers_placeless placeless site.before)
    (compileMembers_spread placeless spreads value)) (compileMembers_placeless placeless site.after)

/-- A key in a spec, at any depth, means the same as the keys that it is spread out to. -/
theorem compileRoot_spread (placeless : d.Placeless) {whole : String} {keys : List String}
    (spreads : d.Spreads whole keys) {value : Json} {site : Site}
    (passes : ∀ rest : Surroundings, d.Passes (rest.enclose (site.node [(whole, value)]))
      (rest.enclose (site.node (keys.map (·, value)))))
    (context : C) :
    Outcome.Both Eq (d.compileRoot limit context (site.spec [(whole, value)]))
      (d.compileRoot limit context (site.spec (keys.map (·, value)))) :=
  compile_enclose placeless (compile_spread placeless spreads value site) passes site.surroundings

end Dialect

end Spec

end Reshape
