import Reshape.Proofs.Filling
import Reshape.Proofs.Transform.Assignment

/-! A default fills the hole at the end of each chain of literal keys of its spec. The literal
that comes first on the chain puts a value there. All that runs later, other literals and
wildcards at any depth, extends the document, and a hole that is filled stays so. -/

namespace Reshape

open Key Spec Transform

namespace Transform.Default

/-- A step down a compiled spec: the container of a node and the key of a literal child. -/
abbrev Step := Container × String

/-- A chain of literal keys from a node to a leaf with a value. A key of an array is an index
that an array can grow to. -/
inductive Chain : Node → List Step → Json → Prop where
  | leaf (own : Json) : Chain (.leaf own) [] own
  | branch {container : Container} {s : Siblings Node} {text : String} {child : Node}
      {steps : List Step} {own : Json} (literal : (text, child) ∈ s.literals)
      (bounded : container = .array → ∃ index ≤ maxIndex, Decimal.readIndex text = some index)
      (below : Chain child steps own) :
      Chain (.branch container s) ((container, text) :: steps) own

/-- Following a chain in a document leads to a value that is not null or is the one of the leaf,
unless a value on the way is not null and not the container that is declared there. -/
def Filled (own : Json) : List Step → Json → Prop
  | [], doc => doc ≠ .null ∨ doc = own
  | (container, text) :: steps, doc =>
    doc ≠ .null ∧ container.accepts doc = false ∨
      ∃ child, (Slot.member text).child? doc = some child ∧ Filled own steps child

variable {container : Container} {text : String} {steps : List Step} {w : Walk}
  {own doc larger node filled : Json}

theorem accepts_empty (container : Container) : container.accepts container.empty = true := by
  cases container <;> rfl

/-- What is not null stays the same kind of container. -/
theorem accepts_of_extends (held : doc ≠ .null) (extension : Extends .fillable doc larger)
    (container : Container) : container.accepts larger = container.accepts doc := by
  cases extension with
  | filled => exact absurd rfl held
  | scalar plain => rfl
  | array => cases container <;> rfl
  | object => cases container <;> rfl

/-- A hole that is filled stays filled. -/
theorem Filled.extends (fills : Filled own steps doc) (extension : Extends .fillable doc larger) :
    Filled own steps larger := by
  induction steps generalizing doc larger with
  | nil =>
    by_cases null : larger = .null
    · subst null
      rw [extension.eq_null] at fills
      exact .inr (fills.resolve_left (absurd rfl))
    · exact .inl null
  | cons step steps ih =>
    rcases fills with ⟨held, refused⟩ | ⟨child, found, below⟩
    · refine .inl ⟨?_, (accepts_of_extends held extension step.1).trans refused⟩
      rintro rfl
      exact held extension.eq_null
    · obtain ⟨new, present, further⟩ := extension.child? found
      exact .inr ⟨new, present, ih below further⟩

/-- A key of the container of a node is a place that may be filled while nothing is there. -/
theorem permits_fill (accepted : container.accepts node = true)
    (bounded : container = .array → ∃ index ≤ maxIndex, Decimal.readIndex text = some index)
    (vacant : (Slot.member text).child? node = none ∨
      (Slot.member text).child? node = some .null) :
    WriteMode.fill.permits (.member text) none node = true := by
  cases node with
  | obj members =>
    have vacant : Members.get? text members = none ∨ Members.get? text members = some .null :=
      vacant
    rcases vacant with missing | null
    · simp [WriteMode.permits, WriteMode.allowsMember, Slot.member, missing]
    · simp [WriteMode.permits, WriteMode.allowsMember, Slot.member, null]
  | arr items =>
    cases container with
    | object => cases accepted
    | array =>
      obtain ⟨index, within, read⟩ := bounded rfl
      have place : (Slot.member text).index? = some index := read
      have vacant : items[index]? = none ∨ items[index]? = some .null := by
        simpa only [Slot.child?, place, Option.bind_some] using vacant
      rcases vacant with missing | null
      · simp [WriteMode.permits, WriteMode.allowsItem, place, missing, within]
      · simp [WriteMode.permits, WriteMode.allowsItem, place, null, within]
  | _ => cases container <;> cases accepted

/-- All that an action makes of values has a hole filled. -/
def Fills (own : Json) (steps : List Step) (act : Action) : Prop :=
  ∀ {matched w value filled}, act matched w value = .ok filled → Filled own steps filled

private theorem fillPlace_fills {act : Action} (fills : Fills own steps act)
    (accepted : container.accepts node = true)
    (bounded : container = .array → ∃ index ≤ maxIndex, Decimal.readIndex text = some index)
    (ran : fillPlace w text act node = .ok filled) :
    Filled own ((container, text) :: steps) filled := by
  have created {value : Json} (vacant : (Slot.member text).child? node = none ∨
      (Slot.member text).child? node = some .null) (below : Filled own steps value) :
      Filled own ((container, text) :: steps)
        (WriteMode.fill.write (.member text) value none node) := by
    have permitted := permits_fill accepted bounded vacant
    rw [WriteMode.write_eq, if_pos permitted]
    exact .inr ⟨value, WriteMode.child?_assign permitted value, below⟩
  simp only [fillPlace] at ran
  split at ran
  · rename_i missing
    obtain ⟨value, acted, written⟩ := Outcome.bind_eq_ok.mp ran
    cases written
    exact created (.inl missing) (fills acted)
  · rename_i null
    obtain ⟨value, acted, written⟩ := Outcome.bind_eq_ok.mp ran
    cases written
    exact created (.inr null) (fills acted)
  · rename_i present
    obtain ⟨value, acted, written⟩ := Outcome.bind_eq_ok.mp ran
    cases written
    exact .inr ⟨value, Slot.child?_replace present value, fills acted⟩

private theorem ne_null_of_accepts (accepted : container.accepts node = true) : node ≠ .null := by
  rintro rfl
  cases container <;> cases accepted

/-- One of the literals fills the hole, the ones before it keep the container and the ones
after it what it filled. -/
theorem fillPlaces_fills {places : List (String × Action)}
    (each : ∀ place ∈ places, Keeps place.2) {act : Action} (literal : (text, act) ∈ places)
    (fills : Fills own steps act) (accepted : container.accepts node = true)
    (bounded : container = .array → ∃ index ≤ maxIndex, Decimal.readIndex text = some index)
    (ran : fillPlaces w places node = .ok filled) :
    Filled own ((container, text) :: steps) filled := by
  induction places generalizing node with
  | nil => cases literal
  | cons place rest ih =>
    obtain ⟨first, later⟩ := List.forall_mem_cons.mp each
    obtain ⟨middle, placed, after⟩ := Outcome.bind_eq_ok.mp ran
    rcases List.mem_cons.mp literal with rfl | further
    · exact (fillPlace_fills fills accepted bounded placed).extends
        (fillPlaces_keeps later (.refl _ middle) after)
    · have extension := fillPlace_keeps first (.refl _ node) placed
      have kept := accepts_of_extends (ne_null_of_accepts accepted) extension container
      exact ih later further (kept.trans accepted) after

private theorem runBranch_fills {s : Siblings Action} (each : ∀ child ∈ s.all, Keeps child.2)
    {act : Action} (literal : (text, act) ∈ s.literals) (fills : Fills own steps act)
    (bounded : container = .array → ∃ index ≤ maxIndex, Decimal.readIndex text = some index) :
    Fills own ((container, text) :: steps) (runBranch container s) := by
  intro matched w value filled ran
  dsimp only [runBranch] at ran
  cases accepted : container.accepts (if value.isNull then container.empty else value) with
  | true =>
    rw [if_pos accepted] at ran
    obtain ⟨inner, -, ran⟩ := Outcome.bind_eq_ok.mp ran
    obtain ⟨middle, placed, ran⟩ := Outcome.bind_eq_ok.mp ran
    have filled := fillPlaces_fills (Siblings.forall_literals each) literal fills accepted bounded
      placed
    refine filled.extends ((Extends.refl _ middle).mapEntries ?_ ran)
    intro key old value new below changed
    exact fillEntry_keeps (Siblings.forall_computed each) below changed
  | false =>
    rw [if_neg (Bool.eq_false_iff.mp accepted)] at ran
    cases ran
    cases value with
    | null => exact absurd (accepts_empty container) (Bool.eq_false_iff.mp accepted)
    | _ => exact .inl ⟨nofun, accepted⟩

private theorem run_fills {t : Node} (chain : Chain t steps own) : Fills own steps (run t) := by
  induction chain with
  | leaf own =>
    intro matched w value filled ran
    cases ran
    cases value with
    | null => exact .inr rfl
    | _ => exact .inl nofun
  | @branch container s text child steps own literal bounded below ih =>
    rw [run, Tree.fold_branch, Siblings.foldSiblings_eq_map]
    refine runBranch_fills ?_ (List.mem_map_of_mem literal) ih bounded
    rw [Siblings.all_map]
    exact List.forall_mem_map.mpr fun child _ => run_keeps child.2

/-- A default fills the hole at the end of each chain of literals in the tree for its input. -/
theorem apply_fills {t : Default} {input output : Json} {root : Node}
    (used : t.root input = .ok root)
    (chain : Chain root steps own) (ran : t.apply input = .ok output) :
    Filled own steps output := by
  obtain ⟨taken, found, ran⟩ := Outcome.bind_eq_ok.mp ran
  cases used.symm.trans found
  obtain ⟨w, -, ran⟩ := Outcome.bind_eq_ok.mp ran
  exact run_fills chain ran

/-- A default for the second item of an array, and for the items that are there besides. -/
def secondItem : Default :=
  ⟨64, ⟨[("a", .branch .array ⟨[("1", .leaf (.str "v"))], [(.star .any, .leaf (.str "w"))], [],
    .literalFirst⟩)], [], [], .literalsOnly⟩, none⟩

/-- A missing item is filled in by its literal, and the null before it by the wildcard. -/
theorem apply_fills_item :
    compile 64 (.obj [("a[]", .obj [("1", .str "v"), ("*", .str "w")])]) = .ok secondItem ∧
      secondItem.apply (.obj []) = .ok (.obj [("a", .arr [.str "w", .str "v"])]) ∧
      Filled (.str "v") [(.object, "a"), (.array, "1")]
        (.obj [("a", .arr [.str "w", .str "v"])]) := by
  have compiled : compile 64 (.obj [("a[]", .obj [("1", .str "v"), ("*", .str "w")])]) =
      .ok secondItem := rfl
  have ran : secondItem.apply (.obj []) = .ok (.obj [("a", .arr [.str "w", .str "v"])]) := rfl
  have chain : Chain (.branch .object secondItem.forObject) [(.object, "a"), (.array, "1")]
      (.str "v") := by
    refine .branch List.mem_cons_self nofun (.branch List.mem_cons_self (fun _ => ?_) (.leaf _))
    exact ⟨1, by decide, rfl⟩
  exact ⟨compiled, ran, apply_fills rfl chain ran⟩

end Transform.Default

end Reshape
