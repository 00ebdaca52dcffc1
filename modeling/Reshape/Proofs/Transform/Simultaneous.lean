import Reshape.Proofs.Filling
import Reshape.Proofs.Transform.Takings

/-! When the children of a modify act at once: each of them sees its place as it was before the
stage, whatever the others have done, so that the order of the keys of a spec tells only the
order of members. -/

namespace Reshape.Transform.Modify

open Key Spec Decimal

variable {mode : WriteMode} {context : Json} {shape : Shape} {s : Siblings Node}
variable {before : Option Json} {node : Json}

/-- The container that a branch goes on with at a place: what was there before the stage, or an
empty one where there was nothing. -/
def Shape.ground? (shape : Shape) : Option Json → Option Json
  | none | some .null => some shape.empty
  | some doc => if shape.accepts doc then some doc else none

/-- The children of a branch do not meet: they go to different places; what a literal puts past
the end of an array does not depend on the null that stands there once the array has grown for
another one; and where a define creates an array it has one literal at most, for the length of
such an array is not known from before. -/
structure Independent (mode : WriteMode) (shape : Shape) (s : Siblings Node)
    (before : Option Json) : Prop where
  distinct : ∀ items, shape.ground? before = some (.arr items) → s.Distinct items.length
  steady : ∀ items, shape.ground? before = some (.arr items) →
    ∀ first ∈ s.literals, ∀ second ∈ s.literals, ∀ index further,
      readIndex first.1 = some index → readIndex second.1 = some further →
      items.length ≤ index → index < further → Steady first.2
  created : mode = .define → shape = .array → before.getD .null = .null → s.literals.length ≤ 1

/-- The children of all branches are independent, where the branches go to in a document. -/
inductive Simultaneous (mode : WriteMode) : Node → Option Json → Prop where
  | leaf (formula : Formula) (before : Option Json) : Simultaneous mode (.leaf formula) before
  | branch {shape : Shape} {s : Siblings Node} {before : Option Json}
      (independent : Independent mode shape s before)
      (literals : ∀ entry ∈ s.literals,
        Simultaneous mode entry.2 (before.bind (Slot.member entry.1).child?))
      (computed : ∀ child ∈ s.computed, ∀ doc, before = some doc → ∀ entry ∈ doc.entries,
        child.1.matchesText entry.1 = true → Simultaneous mode child.2 (some entry.2)) :
      Simultaneous mode (.branch shape s) before

/-- A document that was there is well formed. -/
def Sane (before : Option Json) : Prop :=
  ∀ doc, before = some doc → doc.Keyed ∧ doc.Indexable

theorem Sane.child? (sane : Sane before) (slot : Slot) : Sane (before.bind slot.child?) := by
  intro value found
  obtain ⟨doc, same, held⟩ := Option.bind_eq_some_iff.mp found
  obtain ⟨keyed, indexable⟩ := sane doc same
  exact ⟨Slot.keyed_child? keyed held, Slot.indexable_child? indexable held⟩

theorem ground?_eq {slot : Slot} {size : Option Nat} {parent : Json}
    (grounded : ground? mode shape slot size parent = some node) :
    shape.ground? (slot.child? parent) = some node := by
  unfold ground? at grounded
  cases held : slot.child? parent with
  | none =>
    rw [held] at grounded
    exact (Option.ite_none_right_eq_some.mp grounded).2
  | some doc =>
    rw [held] at grounded
    cases doc with
    | null => exact (Option.ite_none_right_eq_some.mp grounded).2
    | _ => exact grounded

private theorem isContainer_of_accepts {doc : Json} (accepted : shape.accepts doc = true) :
    doc.isContainer = true := by
  cases shape with
  | container => exact accepted
  | array => exact Bool.or_eq_true_iff.mpr (.inl accepted)

/-- The ground of a branch is what was there before, or new. -/
theorem ground?_cases (grounded : shape.ground? before = some node) :
    before = some node ∧ node.isContainer = true ∨
      before.getD .null = .null ∧ node = shape.empty := by
  cases before with
  | none => exact .inr ⟨rfl, (Option.some.inj grounded).symm⟩
  | some doc =>
    cases doc with
    | null => exact .inr ⟨rfl, (Option.some.inj grounded).symm⟩
    | _ =>
      obtain ⟨accepted, same⟩ := Option.ite_none_right_eq_some.mp grounded
      cases same
      exact .inl ⟨rfl, isContainer_of_accepts accepted⟩

theorem sane_ground (sane : Sane before) (grounded : shape.ground? before = some node) :
    node.Keyed ∧ node.Indexable ∧ node.isContainer = true := by
  rcases ground?_cases grounded with ⟨same, container⟩ | ⟨-, rfl⟩
  · exact ⟨(sane node same).1, (sane node same).2, container⟩
  · cases shape with
    | container => exact ⟨.object List.nodup_nil nofun, .object nofun, rfl⟩
    | array => exact ⟨.array nofun, .array (Nat.zero_le _) nofun, rfl⟩

/-- On the ground a place has what it had before. -/
theorem child?_ground (grounded : shape.ground? before = some node) (slot : Slot) :
    slot.child? node = before.bind slot.child? := by
  rcases ground?_cases grounded with ⟨rfl, -⟩ | ⟨vacant, rfl⟩
  · rfl
  · have nothing : before.bind slot.child? = none := by
      cases before with
      | none => rfl
      | some doc => cases (vacant : doc = .null); rfl
    rw [nothing]
    cases shape with
    | container => rfl
    | array => cases found : slot.index? <;> simp [Slot.child?, Shape.empty, found]

variable {slot : Slot} {w inner : Walk} {matched : Match}

theorem enter_eq (lawful : s.Lawful) (slot : Slot) (snapshot : Option Json) (w : Walk)
    (matched : Match) (node : Json) :
    enter (s.map fun _ => run mode context) slot snapshot w matched node =
      w.push (snapshot.bind slot.child?) matched >>= fun inner =>
        perform mode context (snapshot.bind slot.child?) inner (s.takings inner node) node := by
  refine Outcome.bind_congr_of_ok fun inner _ => ?_
  rw [Siblings.visits_map]
  refine runVisits_eq fun visit planned child candidate => ?_
  rcases Siblings.candidates_of_visit s planned candidate with ⟨entry, -, rfl⟩ | present
  · exact isStatic_resolves rfl inner
  · exact isStatic_resolves (lawful.static child present) inner

/-- The places of an array are not past its end. -/
theorem lt_length_of_mem {items : List Json} {index : Nat}
    (present : slot ∈ Slot.ofInput (.arr items)) (found : slot.index? = some index) :
    index < items.length := by
  obtain ⟨other, within, rfl⟩ := List.mem_map.mp present
  cases found
  exact List.mem_range.mp within

/-- What stands past the end of an array, as it has grown for another one, is of a literal. -/
theorem steady_of_padded (independent : Independent mode shape s before) (sane : Sane before)
    (grounded : shape.ground? before = some node) {taking : Slot × Element × Node}
    (present : taking ∈ s.takings inner node)
    (padded : Padded ((s.takings inner node).map (·.1)) taking.1 node) : Steady taking.2.2 := by
  obtain ⟨-, indexable, container⟩ := sane_ground sane grounded
  obtain ⟨items, index, rfl, read, past, place, also, further, reread, beyond⟩ := padded
  obtain ⟨other, held, rfl⟩ := List.mem_map.mp also
  have places := Siblings.taken_of_mem indexable container held
  cases Siblings.taken_of_mem indexable container present with
  | computed place => exact absurd (lt_length_of_mem place read) (Nat.not_lt.mpr past)
  | literal found own =>
    cases places with
    | computed place =>
      exact absurd (lt_length_of_mem place reread) (Nat.not_lt.mpr (past.trans beyond.le))
    | literal again others =>
      exact independent.steady items grounded _ own _ others index further
        (found.told ▸ read) (again.told ▸ reread) past beyond

/-- Independent children have their effects at once. -/
theorem perform_independent (independent : Independent mode shape s before) (lawful : s.Lawful)
    (sane : Sane before) (grounded : shape.ground? before = some node)
    (entered : w.push before matched = .ok inner) :
    perform mode context before inner (s.takings inner node) node =
      ((s.takings inner node).mapM (putAt mode context before inner node)).map
        (settleAll node) := by
  obtain ⟨keyed, indexable, container⟩ := sane_ground sane grounded
  have distinct : ∀ items, node = .arr items → s.Distinct items.length := by
    rintro items rfl
    exact independent.distinct items grounded
  have several (sized : Sized mode (sizeBefore inner) node) :
      perform mode context before inner (s.takings inner node) node =
        ((s.takings inner node).mapM (putAt mode context before inner node)).map
          (settleAll node) := by
    exact perform_eq (Siblings.takings_apart lawful distinct container keyed.hasDistinctKeys) sized
      (fun taking present => List.mem_map_of_mem present)
      (fun taking present => steady_of_padded independent sane grounded present)
      fun taking _ => Intact.start _ _ node
  rcases ground?_cases grounded with ⟨rfl, -⟩ | ⟨vacant, rfl⟩
  · refine several fun _ array => ?_
    rw [sizeBefore_push entered]
    cases node with
    | arr items => rfl
    | _ => cases array
  · cases shape with
    | container => exact several fun _ array => nomatch array
    | array =>
      by_cases defining : mode = .define
      · have single := independent.created defining rfl vacant
        exact perform_single ((s.length_takings_empty inner).trans single) _
      · exact several fun defines => absurd defines defining

theorem enter_independent (independent : Independent mode shape s before) (lawful : s.Lawful)
    (sane : Sane before) (grounded : shape.ground? before = some node) {snapshot : Option Json}
    (held : snapshot.bind slot.child? = before) (w : Walk) (matched : Match) :
    enter (s.map fun _ => run mode context) slot snapshot w matched node =
      w.push before matched >>= fun inner =>
        ((s.takings inner node).mapM (putAt mode context before inner node)).map
          (settleAll node) := by
  rw [enter_eq lawful, held]
  exact Outcome.bind_congr_of_ok fun inner entered =>
    perform_independent independent lawful sane grounded entered

/-- Children of simultaneous branches are simultaneous where they are taken to. -/
theorem simultaneous_taking (simultaneous : Simultaneous mode (.branch shape s) before)
    (sane : Sane before) (grounded : shape.ground? before = some node)
    {taking : Slot × Element × Node} (present : taking ∈ s.takings inner node)
    (lawful : s.Lawful) : Simultaneous mode taking.2.2 (before.bind taking.1.child?) := by
  obtain ⟨keyed, indexable, container⟩ := sane_ground sane grounded
  cases simultaneous with
  | branch _ literals computed =>
    cases Siblings.taken_of_mem indexable container present with
    | @literal slot value found own =>
      have same : before.bind slot.child? = before.bind (Slot.member slot.key).child? :=
        Option.bind_congr fun doc _ => found.child? doc
      exact same ▸ literals _ own
    | @computed slot child place own fitting =>
      rcases ground?_cases grounded with ⟨rfl, -⟩ | ⟨-, rfl⟩
      · rw [Slot.ofInput_eq container] at place
        obtain ⟨value, entry⟩ := Slot.exists_entry place
        rw [fits_of_isStatic (lawful.static child own)] at fitting
        have held := Slot.child?_of_entry place keyed.hasDistinctKeys entry
        have reached : Simultaneous mode child.2 (some value) :=
          computed child own node rfl (slot.key, value) entry fitting
        rw [← held] at reached
        exact reached
      · cases shape with
        | container => cases place
        | array => cases place

end Reshape.Transform.Modify
