import Reshape.Spec.Tree

namespace Reshape.Spec

open Key

namespace Tree

variable {B L : Type}

mutual

/-- Induction over a tree: what holds of leaves, and of branches if it holds of all of
their children, holds of all trees. -/
theorem induct {motive : Tree B L → Prop} (leaf : ∀ value, motive (.leaf value))
    (branch : ∀ info (s : Siblings (Tree B L)), (∀ child ∈ s.all, motive child.2) →
      motive (.branch info s)) : ∀ t, motive t
  | .leaf value => leaf value
  | .branch info ⟨literals, computed, special, strategy⟩ => by
    refine branch info _ fun child member => ?_
    rcases List.mem_append.mp member with member | present
    · rcases List.mem_append.mp member with literal | present
      · obtain ⟨entry, present, rfl⟩ := List.mem_map.mp literal
        exact induct_literals leaf branch literals entry present
      · exact induct_children leaf branch computed child present
    · exact induct_children leaf branch special child present

theorem induct_literals {motive : Tree B L → Prop} (leaf : ∀ value, motive (.leaf value))
    (branch : ∀ info (s : Siblings (Tree B L)), (∀ child ∈ s.all, motive child.2) →
      motive (.branch info s)) :
    ∀ children : List (String × Tree B L), ∀ child ∈ children, motive child.2
  | [], _, member => nomatch member
  | (_, first) :: rest, child, member => by
    rcases List.mem_cons.mp member with rfl | later
    · exact induct leaf branch first
    · exact induct_literals leaf branch rest child later

theorem induct_children {motive : Tree B L → Prop} (leaf : ∀ value, motive (.leaf value))
    (branch : ∀ info (s : Siblings (Tree B L)), (∀ child ∈ s.all, motive child.2) →
      motive (.branch info s)) :
    ∀ children : List (Element × Tree B L), ∀ child ∈ children, motive child.2
  | [], _, member => nomatch member
  | (_, first) :: rest, child, member => by
    rcases List.mem_cons.mp member with rfl | later
    · exact induct leaf branch first
    · exact induct_children leaf branch rest child later

end

end Tree

namespace Siblings

variable {α β γ : Type}

/-- The children with something else for each of them, which may depend on its element. -/
def map (f : Element → α → β) (s : Siblings α) : Siblings β where
  literals := s.literals.map fun child => (child.1, f (.literal child.1) child.2)
  computed := s.computed.map fun child => (child.1, f child.1 child.2)
  special := s.special.map fun child => (child.1, f child.1 child.2)
  strategy := s.strategy

theorem map_map (f : Element → α → β) (g : Element → β → γ) (s : Siblings α) :
    (s.map f).map g = s.map fun element child => g element (f element child) := by
  simp [map, Function.comp_def]

theorem all_map (f : Element → α → β) (s : Siblings α) :
    (s.map f).all = s.all.map fun child => (child.1, f child.1 child.2) := by
  simp [all, map, Function.comp_def]

theorem texts_map (s : Siblings α) (f : Element → α → β) :
    (s.map f).literals.map (·.1) = s.literals.map (·.1) := by
  simp [map, Function.comp_def]

end Siblings

namespace Visit

variable {α β : Type}

/-- The visit with something else for each candidate. -/
def map (f : Element → α → β) (visit : Visit α) : Visit β :=
  ⟨visit.slot, visit.candidates.map fun child => (child.1, f child.1 child.2)⟩

end Visit

namespace Siblings

variable {α β : Type} (f : Element → α → β) (s : Siblings α)

theorem foldSiblings_eq_map {B L : Type} (leaf : L → α) (branch : B → Siblings α → α)
    (s : Siblings (Tree B L)) :
    Tree.foldSiblings leaf branch s = s.map fun _ child => child.fold leaf branch := by
  simp [Tree.foldSiblings, map, Tree.foldLiterals_eq_map, Tree.foldChildren_eq_map]

theorem literal?_map (text : String) :
    (s.map f).literal? text = (s.literal? text).map (f (.literal text)) := by
  simp only [literal?, map, List.find?_map, Function.comp_def, Option.map_map]
  cases found : s.literals.find? fun child => child.1 == text with
  | none => rfl
  | some child =>
    have same : child.1 = text := by simpa using List.find?_some found
    rw [Option.map_some, Option.map_some, same]

theorem slot_literalFirstVisit (slot : Slot) : (s.literalFirstVisit slot).slot = slot := by
  unfold literalFirstVisit
  split <;> rfl

private theorem literalFirstVisit_map (slot : Slot) :
    (s.map f).literalFirstVisit slot = (s.literalFirstVisit slot).map f := by
  unfold literalFirstVisit
  rw [literal?_map]
  cases s.literal? slot.key with
  | none => rfl
  | some child => rfl

/-- The plan of a node asks the same children at the same places, whatever they are. -/
theorem visits_map (absent : Bool) (input : Json) :
    (s.map f).visits absent input = (s.visits absent input).map (Visit.map f) := by
  have strategy : (s.map f).strategy = s.strategy := rfl
  have computed : (s.map f).computedVisits input = (s.computedVisits input).map (Visit.map f) := by
    simp [computedVisits, map, Visit.map, Function.comp_def]
  have literals : (s.map f).literalVisits absent input =
      (s.literalVisits absent input).map (Visit.map f) := by
    simp only [literalVisits, map, List.filterMap_map, List.map_filterMap, Function.comp_def,
      Option.map_map]
    rfl
  have absents : (s.map f).absentVisits input = (s.absentVisits input).map (Visit.map f) := by
    simp only [absentVisits, map, List.filterMap_map, List.map_filterMap, Function.comp_def,
      Option.map_map]
    rfl
  simp only [visits, strategy, computed, literals, absents]
  cases s.strategy with
  | literalsOnly => rfl
  | computedOnly => rfl
  | disjoint => exact List.map_append.symm
  | literalFirst =>
    have later : (if absent then (s.absentVisits input).map (Visit.map f) else []) =
        (if absent then s.absentVisits input else []).map (Visit.map f) := by
      cases absent <;> rfl
    rw [List.map_append, List.map_map, later]
    exact congrArg (· ++ _) (List.map_congr_left fun slot _ => literalFirstVisit_map f s slot)

/-- A visit that a node makes: of a literal at the place that its text leads to or whose key it
is, or of the computed children at a place that is there. -/
inductive Planned (s : Siblings α) (absent : Bool) (input : Json) : Visit α → Prop where
  | led {entry : String × α} {slot : Slot} (present : entry ∈ s.literals)
      (found : Slot.ofPresent? entry.1 input = some slot ∨
        absent = true ∧ Slot.ofAbsent? entry.1 input = some slot) :
      Planned s absent input (literalVisit slot entry.1 entry.2)
  | named {entry : String × α} {slot : Slot} (present : entry ∈ s.literals)
      (same : entry.1 = slot.key) (place : slot ∈ Slot.ofInput input) :
      Planned s absent input (literalVisit slot entry.1 entry.2)
  | computed {slot : Slot} (place : slot ∈ Slot.ofInput input) :
      Planned s absent input ⟨slot, s.computed⟩

variable {absent : Bool} {input : Json} {visit : Visit α}

private theorem planned_literalFirst {slot : Slot} (place : slot ∈ Slot.ofInput input) :
    s.Planned absent input (s.literalFirstVisit slot) := by
  unfold literalFirstVisit
  split
  case h_1 found =>
    obtain ⟨entry, held, rfl⟩ := Option.map_eq_some_iff.mp found
    have same : entry.1 = slot.key := by simpa using List.find?_some held
    rw [← same]
    exact .named (List.mem_of_find?_eq_some held) same place
  case h_2 => exact .computed place

theorem planned_of_mem (planned : visit ∈ s.visits absent input) : s.Planned absent input visit := by
  have literals (planned : visit ∈ s.literalVisits absent input) : s.Planned absent input visit := by
    obtain ⟨entry, present, kept⟩ := List.mem_filterMap.mp planned
    obtain ⟨slot, found, rfl⟩ := Option.map_eq_some_iff.mp kept
    refine .led present ((Option.or_eq_some_iff.mp found).imp id fun missing => ?_)
    exact Option.ite_none_right_eq_some.mp missing.2
  have computed (planned : visit ∈ s.computedVisits input) : s.Planned absent input visit := by
    obtain ⟨slot, place, rfl⟩ := List.mem_map.mp planned
    exact .computed place
  unfold visits at planned
  split at planned
  · exact literals planned
  · exact computed planned
  · exact (List.mem_append.mp planned).elim literals computed
  · rcases List.mem_append.mp planned with first | later
    · obtain ⟨slot, place, rfl⟩ := List.mem_map.mp first
      exact planned_literalFirst s place
    · split at later
      case isTrue set =>
        obtain ⟨entry, present, kept⟩ := List.mem_filterMap.mp later
        obtain ⟨slot, found, rfl⟩ := Option.map_eq_some_iff.mp kept
        exact .led present (.inr ⟨set, found⟩)
      case isFalse => cases later

/-- The candidates of a visit are a literal child, or all computed children. -/
theorem candidates_of_visit (planned : visit ∈ s.visits absent input) {child : Element × α}
    (candidate : child ∈ visit.candidates) :
    (∃ entry ∈ s.literals, child = (.literal entry.1, entry.2)) ∨ child ∈ s.computed := by
  cases planned_of_mem s planned with
  | led present found => exact .inl ⟨_, present, List.mem_singleton.mp candidate⟩
  | named present same place => exact .inl ⟨_, present, List.mem_singleton.mp candidate⟩
  | computed place => exact .inr candidate

variable {f s}

theorem forall_literals {property : Element × α → Prop} (holds : ∀ child ∈ s.all, property child) :
    ∀ child ∈ s.literals, property (.literal child.1, child.2) :=
  fun _ present =>
    holds _ (List.mem_append_left _ (List.mem_append_left _ (List.mem_map_of_mem present)))

theorem forall_computed {property : Element × α → Prop} (holds : ∀ child ∈ s.all, property child) :
    ∀ child ∈ s.computed, property child :=
  fun child present => holds child (List.mem_append_left _ (List.mem_append_right _ present))

theorem forall_special {property : Element × α → Prop} (holds : ∀ child ∈ s.all, property child) :
    ∀ child ∈ s.special, property child :=
  fun child present => holds child (List.mem_append_right _ present)

theorem map_congr {g : Element → α → β}
    (same : ∀ child ∈ s.all, f child.1 child.2 = g child.1 child.2) : s.map f = s.map g := by
  have literals := List.map_congr_left fun child present =>
    congrArg (child.1, ·) (forall_literals same child present)
  have computed := List.map_congr_left fun child present =>
    congrArg (child.1, ·) (forall_computed same child present)
  have special := List.map_congr_left fun child present =>
    congrArg (child.1, ·) (forall_special same child present)
  rw [map, map, literals, computed, special]

/-- What holds of all children holds of the candidates of every visit. -/
theorem forall_visits {property : Element × α → Prop} (holds : ∀ child ∈ s.all, property child)
    (absent : Bool) (input : Json) :
    ∀ visit ∈ s.visits absent input, ∀ child ∈ visit.candidates, property child := by
  intro visit planned child candidate
  rcases candidates_of_visit s planned candidate with ⟨entry, present, rfl⟩ | present
  · exact forall_literals holds entry present
  · exact forall_computed holds child present

end Siblings

end Reshape.Spec
