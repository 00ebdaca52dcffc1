import Reshape.Proofs.Outcome
import Reshape.Proofs.Spec.Duplicates
import Reshape.Proofs.Spec.Precedence

namespace Reshape.Spec

open Key

/-- No reference in an element is out of range, so that it can be matched. -/
def Resolves (w : Walk) (e : Element) : Prop :=
  ∀ key, ∃ found, e.match? w key = .ok found

variable {α : Type}

/-- Whether a child matches a key. -/
def fits (w : Walk) (key : String) (child : Element × α) : Bool :=
  match child.1.match? w key with
  | .ok (some _) => true
  | _ => false

/-- A computed child that matches a key. -/
def IsCandidate (w : Walk) (key : String) (children : List (Element × α))
    (child : Element × α) : Prop :=
  child ∈ children ∧ child.1.role = .computed ∧ fits w key child = true

/-- The child that a key belongs to: its literal; without one, the computed child that
matches and precedes all others that do. -/
def Handles (w : Walk) (children : List (Element × α)) (key : String)
    (child : Element × α) : Prop :=
  child ∈ children ∧ child.1 = .literal key ∨
    (∀ other ∈ children, other.1 ≠ .literal key) ∧ IsCandidate w key children child ∧
      ∀ other, IsCandidate w key children other → precedes child.1 other.1 = true

def firstMatch (w : Walk) (key : String) :
    List (Element × α) → Except RunError (Option (Element × α))
  | [] => .ok none
  | child :: rest => do
    match ← child.1.match? w key with
    | some _ => .ok (some child)
    | none => firstMatch w key rest

variable {w : Walk} {key : String}

theorem fits_literal (text : String) (value : α) :
    fits w key (.literal text, value) = true ↔ text = key := by
  by_cases same : text = key
  · simp [fits, Element.match?, same]
  · simp [fits, Element.match?, same]

/-- A wildcard or a literal matches by its text alone. -/
theorem match?_of_isStatic {element : Element} (static : element.isStatic = true) (w : Walk)
    (key : String) :
    ∃ found, element.match? w key = .ok found ∧ found.isSome = element.matchesText key := by
  unfold Element.isStatic at static
  split at static
  case h_1 text =>
    refine ⟨_, rfl, ?_⟩
    by_cases same : text = key <;> simp [Element.matchesText, same]
  case h_2 pattern => exact ⟨_, rfl, Option.isSome_map⟩
  case h_3 => cases static

theorem role_of_isStatic {element : Element} (static : element.isStatic = true) :
    element.role ≠ .special := by
  unfold Element.isStatic at static
  split at static
  · exact nofun
  · exact nofun
  · cases static

theorem role_ne_index_of_isStatic {element : Element} (static : element.isStatic = true) :
    element.role ≠ .index := by
  unfold Element.isStatic at static
  split at static
  · exact nofun
  · exact nofun
  · cases static

theorem isStatic_resolves {element : Element} (static : element.isStatic = true) (w : Walk) :
    Resolves w element := by
  intro key
  obtain ⟨found, matching, -⟩ := match?_of_isStatic static w key
  exact ⟨found, matching⟩

theorem fits_of_isStatic {child : Element × α} (static : child.1.isStatic = true) :
    fits w key child = child.1.matchesText key := by
  obtain ⟨found, matching, told⟩ := match?_of_isStatic static w key
  rw [fits, matching, ← told]
  cases found <;> rfl

theorem firstMatch_eq {children : List (Element × α)}
    (resolves : ∀ child ∈ children, Resolves w child.1) :
    firstMatch w key children = .ok (children.find? (fits w key)) := by
  induction children with
  | nil => rfl
  | cons child rest ih =>
    obtain ⟨first, later⟩ := List.forall_mem_cons.mp resolves
    obtain ⟨found, read⟩ := first key
    cases found with
    | none => simp [firstMatch, fits, read, ih later]
    | some matched => simp [firstMatch, fits, read]

namespace Siblings

variable {path : Pointer} {children : List (Element × α)} {s : Siblings α}

/-- The child for a key that the parts of a node give: its literal, else the first
computed child that matches. -/
def choice? (s : Siblings α) (w : Walk) (key : String) : Option (Element × α) :=
  match s.literal? key with
  | some child => some (.literal key, child)
  | none => s.computed.find? (fits w key)

theorem ofChildren_eq (accepted : ofChildren path children = .ok s) :
    check path [] children = .ok () ∧
      s.literals = literalsOf children ∧
      s.computed = sortChildren (children.filter fun child => child.1.role = .computed) ∧
      s.strategy = Strategy.determine (s.literals.map (·.1)) (s.computed.map (·.1)) := by
  obtain ⟨checked, passed, built⟩ := Outcome.bind_eq_ok.mp accepted
  cases built
  exact ⟨passed, rfl, rfl, rfl⟩

theorem mem_literalsOf {text : String} {child : α} :
    (text, child) ∈ literalsOf children ↔ (.literal text, child) ∈ children := by
  rw [literalsOf, List.mem_filterMap]
  constructor
  · rintro ⟨⟨element, other⟩, present, found⟩
    obtain ⟨written, read, same⟩ := Option.map_eq_some_iff.mp found
    cases same
    unfold literalText? at read
    split at read
    · cases read
      exact present
    · cases read
  · intro present
    exact ⟨_, present, rfl⟩

theorem mem_computed (accepted : ofChildren path children = .ok s) {child : Element × α} :
    child ∈ s.computed ↔ child ∈ children ∧ child.1.role = .computed := by
  rw [(ofChildren_eq accepted).2.2.1, (sortChildren_perm _).mem_iff, List.mem_filter,
    decide_eq_true_eq]

/-- Accepted children are told apart by their canonical forms. -/
theorem eq_of_canonical_eq (accepted : ofChildren path children = .ok s)
    {first second : Element × α} (present : first ∈ children) (other : second ∈ children)
    (same : first.1.canonical = second.1.canonical) : first = second := by
  obtain ⟨distinct, -⟩ := (check_eq_ok List.nodup_nil).mp (ofChildren_eq accepted).1
  rw [List.append_nil] at distinct
  exact List.inj_on_of_nodup_map distinct present other same

theorem mem_literals (accepted : ofChildren path children = .ok s) {text : String} {child : α} :
    (text, child) ∈ s.literals ↔ (.literal text, child) ∈ children := by
  rw [(ofChildren_eq accepted).2.1, mem_literalsOf]

theorem literals_nodup (accepted : ofChildren path children = .ok s) :
    (s.literals.map (·.1)).Nodup := by
  obtain ⟨distinct, -⟩ := (check_eq_ok List.nodup_nil).mp (ofChildren_eq accepted).1
  rw [List.append_nil, List.Nodup, List.pairwise_map] at distinct
  rw [(ofChildren_eq accepted).2.1, literalsOf, List.Nodup, List.pairwise_map,
    List.pairwise_filterMap]
  refine distinct.imp ?_
  intro first second apart one found other foundOther same
  have read := mem_literalsOf.mp (List.mem_filterMap.mpr ⟨first, List.mem_singleton_self _, found⟩)
  have readOther :=
    mem_literalsOf.mp (List.mem_filterMap.mpr ⟨second, List.mem_singleton_self _, foundOther⟩)
  rw [List.mem_singleton] at read readOther
  rw [← read, ← readOther, same] at apart
  exact apart rfl

theorem literal?_iff (distinct : (s.literals.map (·.1)).Nodup) {text : String} {child : α} :
    s.literal? text = some child ↔ (text, child) ∈ s.literals := by
  rw [literal?, Option.map_eq_some_iff]
  constructor
  · rintro ⟨⟨other, _⟩, found, rfl⟩
    have same : other = text := by simpa using List.find?_some found
    exact same ▸ List.mem_of_find?_eq_some found
  · intro present
    cases found : s.literals.find? fun entry => entry.1 == text with
    | none =>
      have apart := List.find?_eq_none.mp found _ present
      simp at apart
    | some entry =>
      have same : entry.1 = text := by simpa using List.find?_some found
      have equal := List.inj_on_of_nodup_map distinct (List.mem_of_find?_eq_some found) present same
      exact ⟨entry, rfl, by rw [equal]⟩

theorem literal?_eq_some (accepted : ofChildren path children = .ok s) {text : String} {child : α} :
    s.literal? text = some child ↔ (.literal text, child) ∈ children := by
  rw [literal?_iff (literals_nodup accepted), mem_literals accepted]

theorem literal?_eq_none (accepted : ofChildren path children = .ok s) {text : String} :
    s.literal? text = none ↔ ∀ child ∈ children, child.1 ≠ .literal text := by
  rw [Option.eq_none_iff_forall_not_mem]
  constructor
  · rintro absent ⟨_, child⟩ present rfl
    exact absent child ((literal?_eq_some accepted).mpr present)
  · intro absent child found
    exact absent _ ((literal?_eq_some accepted).mp found) rfl

private theorem isCandidate_iff (accepted : ofChildren path children = .ok s) {w : Walk}
    {key : String} {child : Element × α} :
    IsCandidate w key children child ↔ child ∈ s.computed ∧ fits w key child = true := by
  rw [IsCandidate, mem_computed accepted, and_assoc]

/-- The first computed child that matches precedes all others that do. -/
theorem find?_computed (accepted : ofChildren path children = .ok s) {w : Walk} {key : String}
    {child : Element × α} :
    s.computed.find? (fits w key) = some child ↔
      IsCandidate w key children child ∧
        ∀ other, IsCandidate w key children other → precedes child.1 other.1 = true := by
  have ordered : Ordered s.computed := by
    rw [(ofChildren_eq accepted).2.2.1]
    exact sortChildren_ordered _
  simp only [isCandidate_iff accepted]
  constructor
  · intro found
    refine ⟨⟨List.mem_of_find?_eq_some found, List.find?_some found⟩, ?_⟩
    intro other ⟨present, holds⟩
    exact precedes_of_find? ordered found present holds
  · rintro ⟨⟨present, holds⟩, first⟩
    cases found : s.computed.find? (fits w key) with
    | none => exact absurd holds (List.find?_eq_none.mp found child present)
    | some other =>
      have member := List.mem_of_find?_eq_some found
      have same := canonical_eq_of_precedes (precedes_of_find? ordered found present holds)
        (first other ⟨member, List.find?_some found⟩)
      rw [eq_of_canonical_eq accepted ((mem_computed accepted).mp member).1
        ((mem_computed accepted).mp present).1 same]

/-- The parts of a node choose the child that a key belongs to. -/
theorem choice?_eq_some (accepted : ofChildren path children = .ok s) {w : Walk} {key : String}
    {child : Element × α} :
    s.choice? w key = some child ↔ Handles w children key child := by
  unfold choice? Handles
  cases found : s.literal? key with
  | some value =>
    have present := (literal?_eq_some accepted).mp found
    constructor
    · intro same
      cases same
      exact .inl ⟨present, rfl⟩
    · rintro (⟨member, written⟩ | ⟨absent, -, -⟩)
      · have equal := eq_of_canonical_eq accepted member present (by rw [written])
        rw [equal]
      · exact absurd rfl (absent _ present)
  | none =>
    have absent := (literal?_eq_none accepted).mp found
    rw [find?_computed accepted]
    constructor
    · exact fun chosen => .inr ⟨absent, chosen⟩
    · rintro (⟨member, written⟩ | ⟨-, chosen⟩)
      · exact absurd written (absent _ member)
      · exact chosen

end Siblings

end Reshape.Spec
