import Mathlib.Data.List.Nodup
import Reshape.Proofs.Key.Canonical
import Reshape.Spec.Siblings

namespace Reshape

namespace Key

theorem canonical_injective {e f : Element} (wellFormed : e.WellFormed)
    (other : f.WellFormed) (same : e.canonical = f.canonical) : e = f := by
  have read := Element.parse_canonical wellFormed
  rw [same, Element.parse_canonical other] at read
  cases read
  rfl

/-- Well-formed elements are distinct where their canonical forms are. -/
theorem nodup_canonical_iff {es : List Element} (wellFormed : ∀ e ∈ es, e.WellFormed) :
    (es.map Element.canonical).Nodup ↔ es.Nodup := by
  constructor
  · exact List.Nodup.of_map _
  · intro distinct
    refine distinct.map_on ?_
    intro e member f other same
    exact canonical_injective (wellFormed e member) (wellFormed f other) same

end Key

namespace Spec.Siblings

open Key

variable {α : Type}

/-- The elements of the children up to the first index. -/
def upToIndex : List (Element × α) → List Element
  | [] => []
  | (element, _) :: rest =>
    if element.role = .index then [element] else element :: upToIndex rest

variable {path : Pointer} {seen : List String} {children : List (Element × α)}

theorem nodup_cons_append (text : String) (texts seen : List String) :
    (text :: texts ++ seen).Nodup ↔ (texts ++ text :: seen).Nodup :=
  List.perm_middle.symm.nodup_iff

theorem check_eq_ok (distinct : seen.Nodup) :
    check path seen children = .ok () ↔
      (children.map (·.1.canonical) ++ seen).Nodup ∧
        ∀ child ∈ children, child.1.role ≠ .index := by
  induction children generalizing seen with
  | nil => simp [check, distinct]
  | cons child rest ih =>
    rw [List.map_cons, nodup_cons_append, List.forall_mem_cons]
    by_cases repeated : child.1.canonical ∈ seen
    · simp [check, repeated, List.nodup_append]
    · by_cases index : child.1.role = .index
      · simp [check, repeated, index]
      · simp [check, repeated, index, ih (List.nodup_cons.mpr ⟨repeated, distinct⟩)]

theorem check_duplicate (distinct : seen.Nodup) :
    (∃ text, check path seen children = .error ⟨path, .duplicateKey text⟩) ↔
      ¬ ((upToIndex children).map Element.canonical ++ seen).Nodup := by
  induction children generalizing seen with
  | nil => simp [check, upToIndex, distinct]
  | cons child rest ih =>
    by_cases repeated : child.1.canonical ∈ seen
    · by_cases index : child.1.role = .index
      · simp [check, upToIndex, repeated, index]
      · simp [check, upToIndex, repeated, index]
    · by_cases index : child.1.role = .index
      · simp [check, upToIndex, repeated, index, distinct]
      · have later := ih (List.nodup_cons.mpr ⟨repeated, distinct⟩)
        rw [← nodup_cons_append] at later
        simpa [check, upToIndex, repeated, index] using later

theorem upToIndex_subset (children : List (Element × α)) :
    upToIndex children ⊆ children.map (·.1) := by
  induction children with
  | nil => exact List.Subset.refl _
  | cons child rest ih =>
    by_cases index : child.1.role = .index
    · simp [upToIndex, index]
    · simpa [upToIndex, index] using List.subset_cons_of_subset child.1 ih

theorem ofChildren_isOk {children : List (Element × α)} :
    (∃ s, ofChildren path children = .ok s) ↔ check path [] children = .ok () := by
  simp only [ofChildren]
  cases check path [] children with
  | error e => simp
  | ok checked => simp

theorem ofChildren_eq_error {children : List (Element × α)} {e : BuildError} :
    ofChildren path children = .error e ↔ check path [] children = .error e := by
  simp only [ofChildren]
  cases check path [] children with
  | error e => simp
  | ok checked => simp

/-- The canonical form of a key that was read is read as the same element. So keys that
were read have one canonical form where they are one element. A node with such children
is refused for a repeated key if an element stands twice up to the first index, and is
accepted if none stands twice and none is an index. -/
theorem canonical_faithful (α : Type) :
    (∀ key e, Element.parse key = .ok e → Element.parse e.canonical = .ok e) ∧
    (∀ key other e f, Element.parse key = .ok e → Element.parse other = .ok f →
      (e.canonical = f.canonical ↔ e = f)) ∧
    ∀ (path : Pointer) (children : List (Element × α)),
      (∀ child ∈ children, ∃ key, Element.parse key = .ok child.1) →
      ((∃ text, ofChildren path children = .error ⟨path, .duplicateKey text⟩) ↔
        ¬ (upToIndex children).Nodup) ∧
      ((∃ s, ofChildren path children = .ok s) ↔
        (children.map (·.1)).Nodup ∧ ∀ child ∈ children, child.1.role ≠ .index) := by
  refine ⟨?again, ?equal, ?checked⟩
  case again =>
    intro key e read
    exact Element.parse_canonical (Element.parse_wellFormed read)
  case equal =>
    intro key other e f read readOther
    constructor
    · exact canonical_injective (Element.parse_wellFormed read)
        (Element.parse_wellFormed readOther)
    · exact congrArg Element.canonical
  case checked =>
    intro path children read
    have wellFormed : ∀ e ∈ children.map (·.1), e.WellFormed := by
      intro e member
      obtain ⟨child, present, rfl⟩ := List.mem_map.mp member
      obtain ⟨key, found⟩ := read child present
      exact Element.parse_wellFormed found
    constructor
    · simp only [ofChildren_eq_error, check_duplicate List.nodup_nil, List.append_nil]
      rw [nodup_canonical_iff fun e member => wellFormed e (upToIndex_subset children member)]
    · rw [ofChildren_isOk, check_eq_ok List.nodup_nil, List.append_nil,
        ← nodup_canonical_iff wellFormed, List.map_map]
      rfl

/-- A reference and its shorthand are one element, whatever the shorthand leaves out. -/
theorem canonical_faithful_shorthand :
    Element.parse "&" = .ok (.template [.captured ⟨0, 0⟩]) ∧
    Element.parse "&(0,0)" = .ok (.template [.captured ⟨0, 0⟩]) ∧
    Element.parse (Element.template [.captured ⟨0, 0⟩]).canonical =
      .ok (.template [.captured ⟨0, 0⟩]) ∧
    ∃ text, ofChildren ["a"]
        [(Element.template [.captured ⟨0, 0⟩], 1), (Element.template [.captured ⟨0, 0⟩], 2)] =
      .error ⟨["a"], .duplicateKey text⟩ := by
  have short : Element.parse "&" = .ok (.template [.captured ⟨0, 0⟩]) := rfl
  have long : Element.parse "&(0,0)" = .ok (.template [.captured ⟨0, 0⟩]) := rfl
  obtain ⟨again, -, checked⟩ := canonical_faithful Nat
  refine ⟨short, long, again _ _ short, (checked _ _ ?_).1.mpr (by decide)⟩
  intro child member
  rcases List.mem_pair.mp member with rfl | rfl
  · exact ⟨"&", short⟩
  · exact ⟨"&(0,0)", long⟩

end Spec.Siblings

end Reshape
