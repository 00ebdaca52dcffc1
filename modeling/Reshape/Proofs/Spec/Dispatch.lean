import Reshape.Proofs.Spec.Fold
import Reshape.Proofs.Spec.Handling
import Reshape.Proofs.Spec.Slots

namespace Reshape.Spec

open Key

variable {α : Type}

/-- What happens to a document where every name is handled by the child it belongs to
and nothing is handled twice. -/
def FollowsRule (w : Walk) (children : List (Element × α)) (input : Json)
    (handled : List (String × Element × α)) : Prop :=
  (handled.map (·.1)).Nodup ∧
    ∀ key child, (key, child) ∈ handled ↔ key ∈ Slot.names input ∧ Handles w children key child

/-- Makes visits in order: the names of the places that were handled, and by whom. -/
def dispatch (w : Walk) : List (Visit α) → Except RunError (List (String × Element × α))
  | [] => .ok []
  | visit :: rest => do
    let found ← firstMatch w visit.slot.key visit.candidates
    let more ← dispatch w rest
    .ok ((found.map fun child => (visit.slot.name, child)).toList ++ more)

def Visit.handled? (w : Walk) (visit : Visit α) : Option (String × Element × α) :=
  (visit.candidates.find? (fits w visit.slot.key)).map fun child => (visit.slot.name, child)

variable {w : Walk}

theorem dispatch_eq {visits : List (Visit α)}
    (resolves : ∀ visit ∈ visits, ∀ child ∈ visit.candidates, Resolves w child.1) :
    dispatch w visits = .ok (visits.filterMap (Visit.handled? w)) := by
  induction visits with
  | nil => rfl
  | cons visit rest ih =>
    obtain ⟨first, later⟩ := List.forall_mem_cons.mp resolves
    rw [dispatch, firstMatch_eq first, Outcome.ok_bind, ih later, Outcome.ok_bind]
    rw [List.filterMap_cons, Visit.handled?]
    cases visit.candidates.find? (fits w visit.slot.key) with
    | none => rfl
    | some child => rfl

namespace Siblings

variable {path : Pointer} {children : List (Element × α)} {s : Siblings α}

variable {input : Json} {place : String} {child : Element × α}

/-- What a plan that looks at every place in turn handles. -/
theorem mem_handled_map {visit : Slot → Visit α} (choice : String → Option (Element × α))
    (chooses : ∀ slot, (visit slot).handled? w =
      (choice slot.key).map fun child => (slot.name, child)) :
    (place, child) ∈ ((Slot.ofInput input).map visit).filterMap (Visit.handled? w) ↔
      place ∈ Slot.names input ∧ choice place = some child := by
  simp only [List.mem_filterMap, List.mem_map, Slot.names]
  constructor
  · rintro ⟨_, ⟨slot, present, rfl⟩, found⟩
    rw [chooses, Slot.name_of_mem present, Option.map_eq_some_iff] at found
    obtain ⟨chosen, found, same⟩ := found
    cases same
    exact ⟨⟨slot, present, Slot.name_of_mem present⟩, found⟩
  · rintro ⟨⟨slot, present, rfl⟩, found⟩
    refine ⟨_, ⟨slot, present, rfl⟩, ?_⟩
    rw [chooses, ← Slot.name_of_mem present, found]
    rfl

/-- What the plan that looks the literals up handles. -/
theorem mem_handled_literals :
    (place, child) ∈ (s.literalVisits false input).filterMap (Visit.handled? w) ↔
      ∃ entry ∈ s.literals, child = (.literal entry.1, entry.2) ∧
        ∃ slot, Slot.ofPresent? entry.1 input = some slot ∧ slot.name = place := by
  have handled {slot : Slot} {entry : String × α}
      (found : Slot.ofPresent? entry.1 input = some slot) :
      (literalVisit slot entry.1 entry.2).handled? w =
        some (slot.name, .literal entry.1, entry.2) := by
    have matched := (fits_literal (w := w) entry.1 entry.2).mpr (Slot.ofPresent?_key found).symm
    simp [Visit.handled?, literalVisit, matched]
  have looked (entry : String × α) :
      ((Slot.ofPresent? entry.1 input).or (if false then Slot.ofAbsent? entry.1 input else none)) =
        Slot.ofPresent? entry.1 input := Option.or_none
  simp only [literalVisits, List.mem_filterMap]
  constructor
  · rintro ⟨visit, ⟨entry, present, planned⟩, found⟩
    rw [looked] at planned
    obtain ⟨slot, named, rfl⟩ := Option.map_eq_some_iff.mp planned
    rw [handled named] at found
    cases found
    exact ⟨entry, present, rfl, slot, named, rfl⟩
  · rintro ⟨entry, present, rfl, slot, named, rfl⟩
    exact ⟨_, ⟨entry, present, by rw [looked, named]; rfl⟩, handled named⟩

/-- Keeping some items of a list keeps the order of what they are named by. -/
theorem map_filterMap_sublist {β γ δ : Type} {keep : β → Option γ} {after : γ → δ}
    {before : β → δ} {xs : List β}
    (same : ∀ x ∈ xs, ∀ y, keep x = some y → after y = before x) :
    ((xs.filterMap keep).map after).Sublist (xs.map before) := by
  induction xs with
  | nil => exact .slnil
  | cons x rest ih =>
    obtain ⟨first, later⟩ := List.forall_mem_cons.mp same
    rw [List.filterMap_cons]
    cases kept : keep x with
    | none => exact (ih later).cons _
    | some y =>
      rw [List.map_cons, List.map_cons, first y kept]
      exact (ih later).cons_cons _

/-- The places that are handled are visited, in the same order. -/
theorem handled_sublist (visits : List (Visit α)) :
    ((visits.filterMap (Visit.handled? w)).map (·.1)).Sublist (visits.map (·.slot.name)) := by
  refine map_filterMap_sublist ?_
  intro visit _ entry found
  obtain ⟨child, -, rfl⟩ := Option.map_eq_some_iff.mp found
  rfl

theorem nodup_handled_map {visit : Slot → Visit α} (keeps : ∀ slot, (visit slot).slot = slot)
    (distinct : HasDistinctKeys input) :
    ((((Slot.ofInput input).map visit).filterMap (Visit.handled? w)).map (·.1)).Nodup := by
  refine (handled_sublist _).nodup ?_
  have names := Slot.names_nodup distinct
  simpa only [List.map_map, Function.comp_def, keeps, Slot.names] using names

/-- Literals that spell what they find handle their own names. -/
theorem nodup_handled_literals (accepted : ofChildren path children = .ok s)
    (spelled : ∀ entry ∈ s.literals, Slot.Spells entry.1 input) :
    (((s.literalVisits false input).filterMap (Visit.handled? w)).map (·.1)).Nodup := by
  have texts :
      ((s.literalVisits false input).map (·.slot.name)).Sublist (s.literals.map (·.1)) := by
    refine map_filterMap_sublist ?_
    intro entry present visit planned
    obtain ⟨slot, found, rfl⟩ := Option.map_eq_some_iff.mp planned
    simp only [Bool.false_eq_true, if_false, Option.or_none] at found
    exact ((Slot.ofPresent?_spec (spelled entry present)).mp ⟨slot, found, rfl⟩).1
  exact (handled_sublist _).nodup (texts.nodup (literals_nodup accepted))

/-- Whether the literals that are looked up spell what they find. -/
def Spelled (s : Siblings α) (input : Json) : Prop :=
  s.strategy ≠ .literalFirst → ∀ entry ∈ s.literals, Slot.Spells entry.1 input

/-- What each strategy says about the children. -/
theorem strategy_cases (accepted : ofChildren path children = .ok s) :
    s.strategy = .literalsOnly ∧ s.computed = [] ∨
    s.strategy = .computedOnly ∧ s.literals = [] ∨
    s.strategy = .disjoint ∧
      (∀ child ∈ s.computed, avoids (s.literals.map (·.1)) child.1 = true) ∨
    s.strategy = .literalFirst := by
  rw [(ofChildren_eq accepted).2.2.2]
  unfold Strategy.determine
  by_cases noComputed : s.computed = []
  · simp [noComputed]
  · by_cases noLiterals : s.literals = []
    · simp [noComputed, noLiterals]
    · by_cases apart : (s.computed.map (·.1)).all (avoids (s.literals.map (·.1))) = true
      · have each := apart
        simp only [List.all_eq_true, List.forall_mem_map] at each
        simp only [List.isEmpty_map, List.isEmpty_iff, noComputed, noLiterals, if_false,
          if_pos apart]
        exact .inr (.inr (.inl ⟨trivial, each⟩))
      · simp only [List.isEmpty_map, List.isEmpty_iff, noComputed, noLiterals, if_false,
          if_neg apart, or_true]

/-- An element that avoids some literals matches none of them. -/
theorem match?_of_avoids {literals : List String} {element : Element}
    (apart : avoids literals element = true) {text : String} (present : text ∈ literals) :
    element.match? w text = .ok none := by
  simp only [avoids, Bool.and_eq_true, List.all_eq_true, Bool.not_eq_true'] at apart
  obtain ⟨simple, missed⟩ := apart
  have misses := missed text present
  cases element with
  | star pattern =>
    rw [Element.matchesText, Option.isSome_eq_false_iff, Option.isNone_iff_eq_none] at misses
    simp [Element.match?, misses]
  | _ => cases simple

theorem fits_eq_false_of_avoids {literals : List String} (apart : avoids literals child.1 = true)
    {text : String} (present : text ∈ literals) : fits w text child = false := by
  rw [fits, match?_of_avoids apart present]

/-- What the lookup of literals that spell what they find handles. -/
theorem mem_handled_spelled (accepted : ofChildren path children = .ok s)
    (spelled : ∀ entry ∈ s.literals, Slot.Spells entry.1 input) :
    (place, child) ∈ (s.literalVisits false input).filterMap (Visit.handled? w) ↔
      place ∈ Slot.names input ∧
        (s.literal? place).map (fun value => (Element.literal place, value)) = some child := by
  rw [mem_handled_literals, Option.map_eq_some_iff]
  constructor
  · rintro ⟨entry, present, rfl, found⟩
    obtain ⟨rfl, held⟩ := (Slot.ofPresent?_spec (spelled entry present)).mp found
    exact ⟨held, entry.2, (literal?_eq_some accepted).mpr ((mem_literals accepted).mp present), rfl⟩
  · rintro ⟨held, value, found, rfl⟩
    have present : (place, value) ∈ s.literals :=
      (mem_literals accepted).mpr ((literal?_eq_some accepted).mp found)
    exact ⟨_, present, rfl, (Slot.ofPresent?_spec (spelled _ present)).mpr ⟨rfl, held⟩⟩

theorem mem_handled_computed :
    (place, child) ∈ (s.computedVisits input).filterMap (Visit.handled? w) ↔
      place ∈ Slot.names input ∧ s.computed.find? (fits w place) = some child :=
  mem_handled_map (fun key => s.computed.find? (fits w key)) fun _ => rfl

private theorem handled?_literalFirstVisit (slot : Slot) :
    (s.literalFirstVisit slot).handled? w =
      (s.choice? w slot.key).map fun child => (slot.name, child) := by
  unfold literalFirstVisit choice? Visit.handled?
  cases s.literal? slot.key with
  | none => rfl
  | some value => simp [literalVisit, (fits_literal slot.key value).mpr rfl]

/-- Literals win over computed siblings that avoid them. -/
theorem literal?_eq_none_of_avoids (accepted : ofChildren path children = .ok s)
    (apart : ∀ child ∈ s.computed, avoids (s.literals.map (·.1)) child.1 = true)
    (found : s.computed.find? (fits w place) = some child) : s.literal? place = none := by
  cases literal : s.literal? place with
  | none => rfl
  | some value =>
    have present := (mem_literals accepted).mpr ((literal?_eq_some accepted).mp literal)
    have misses := fits_eq_false_of_avoids (w := w) (apart child (List.mem_of_find?_eq_some found))
      (List.mem_map_of_mem present)
    have hits := List.find?_some found
    simp [misses] at hits

theorem followsRule (accepted : ofChildren path children = .ok s)
    (distinct : HasDistinctKeys input) (spelled : s.Spelled input) :
    FollowsRule w children input ((s.visits false input).filterMap (Visit.handled? w)) := by
  simp only [FollowsRule, ← choice?_eq_some accepted]
  rcases strategy_cases accepted with
    ⟨strategy, empty⟩ | ⟨strategy, empty⟩ | ⟨strategy, apart⟩ | strategy
  · have spells := spelled (by rw [strategy]; decide)
    simp only [visits, strategy]
    refine ⟨nodup_handled_literals accepted spells, ?_⟩
    intro key child
    rw [mem_handled_spelled accepted spells, choice?, empty]
    cases s.literal? key <;> rfl
  · simp only [visits, strategy]
    refine ⟨nodup_handled_map (fun _ => rfl) distinct, ?_⟩
    intro key child
    rw [mem_handled_computed, choice?, literal?, empty]
    rfl
  · have spells := spelled (by rw [strategy]; decide)
    simp only [visits, strategy, List.filterMap_append, List.map_append]
    constructor
    · refine List.nodup_append.mpr ⟨nodup_handled_literals accepted spells,
        nodup_handled_map (fun _ => rfl) distinct, ?_⟩
      rintro name first _ second rfl
      obtain ⟨⟨_, child⟩, handled, rfl⟩ := List.mem_map.mp first
      obtain ⟨⟨_, other⟩, again, rfl⟩ := List.mem_map.mp second
      obtain ⟨-, found⟩ := (mem_handled_spelled accepted spells).mp handled
      obtain ⟨-, matched⟩ := mem_handled_computed.mp again
      simp [literal?_eq_none_of_avoids accepted apart matched] at found
    · intro key child
      rw [List.mem_append, mem_handled_spelled accepted spells, mem_handled_computed,
        ← and_or_left, choice?]
      cases literal : s.literal? key with
      | none => simp
      | some value =>
        have unmatched : s.computed.find? (fits w key) ≠ some child := by
          intro matched
          simp [literal?_eq_none_of_avoids accepted apart matched] at literal
        simp [unmatched]
  · simp only [visits, strategy, Bool.false_eq_true, if_false, List.append_nil]
    refine ⟨nodup_handled_map s.slot_literalFirstVisit distinct, fun key child => ?_⟩
    exact mem_handled_map (s.choice? w) handled?_literalFirstVisit

/-- Where literals are looked up, the lookup alone decides what a literal handles. -/
theorem mem_handled_literal (accepted : ofChildren path children = .ok s)
    (looked : s.strategy ≠ .literalFirst) {entry : String × α} (present : entry ∈ s.literals) :
    (place, .literal entry.1, entry.2) ∈ (s.visits false input).filterMap (Visit.handled? w) ↔
      ∃ slot, Slot.ofPresent? entry.1 input = some slot ∧ slot.name = place := by
  have literals : (place, .literal entry.1, entry.2) ∈
      (s.literalVisits false input).filterMap (Visit.handled? w) ↔
        ∃ slot, Slot.ofPresent? entry.1 input = some slot ∧ slot.name = place := by
    rw [mem_handled_literals]
    constructor
    · rintro ⟨⟨text, value⟩, _, same, found⟩
      cases same
      exact found
    · exact fun found => ⟨entry, present, rfl, found⟩
  rcases strategy_cases accepted with
    ⟨strategy, -⟩ | ⟨-, empty⟩ | ⟨strategy, -⟩ | strategy
  · simpa only [visits, strategy] using literals
  · simp [empty] at present
  · have computed : (place, .literal entry.1, entry.2) ∉
        (s.computedVisits input).filterMap (Visit.handled? w) := by
      intro handled
      have found := (mem_handled_computed.mp handled).2
      have role := ((mem_computed accepted).mp (List.mem_of_find?_eq_some found)).2
      cases role
    simpa only [visits, strategy, List.filterMap_append, List.mem_append, computed, or_false]
      using literals
  · exact absurd strategy looked

private theorem handles_literal {text : String} {value : α}
    (present : (.literal text, value) ∈ children) :
    Handles w children place (.literal text, value) ↔ place = text := by
  constructor
  · rintro (⟨-, same⟩ | ⟨-, ⟨-, role, -⟩, -⟩)
    · cases same
      rfl
    · cases role
  · rintro rfl
    exact .inl ⟨present, rfl⟩

private theorem spelled_of_followsRule (accepted : ofChildren path children = .ok s)
    (follows : FollowsRule w children input
      ((s.visits false input).filterMap (Visit.handled? w))) :
    s.Spelled input := by
  intro looked entry present
  refine Slot.spells_of_ofPresent? fun place => ?_
  rw [← mem_handled_literal accepted looked present, follows.2,
    handles_literal ((mem_literals accepted).mp present)]
  constructor
  · rintro ⟨held, rfl⟩
    exact ⟨rfl, held⟩
  · rintro ⟨rfl, held⟩
    exact ⟨held, rfl⟩

/-- The candidates of a visit can be matched if the computed children can. -/
theorem resolves_visits (resolves : ∀ child ∈ s.computed, Resolves w child.1) :
    ∀ visit ∈ s.visits false input, ∀ child ∈ visit.candidates, Resolves w child.1 := by
  intro visit planned child candidate
  rcases candidates_of_visit s planned candidate with ⟨entry, -, rfl⟩ | present
  · exact fun key => ⟨_, rfl⟩
  · exact resolves child present

/-- A plan handles what the rule says, and all of it once, whichever strategy made it,
exactly if no literal that is looked up is another spelling of an index. -/
theorem dispatch_followsRule (accepted : ofChildren path children = .ok s)
    (distinct : HasDistinctKeys input)
    (resolves : ∀ child ∈ children, child.1.role = .computed → Resolves w child.1) :
    ∃ handled, dispatch w (s.visits false input) = .ok handled ∧
      (FollowsRule w children input handled ↔ s.Spelled input) := by
  have matchable : ∀ child ∈ s.computed, Resolves w child.1 := by
    intro child present
    obtain ⟨member, role⟩ := (mem_computed accepted).mp present
    exact resolves child member role
  exact ⟨_, dispatch_eq (resolves_visits matchable), spelled_of_followsRule accepted,
    followsRule accepted distinct⟩

/-- A sign makes a literal another spelling of index 10, which a wildcard handles too. -/
theorem dispatch_followsRule_signed :
    ∃ handled, dispatch (Walk.start 1)
        ((⟨[("+10", 1)], [(.star (.single "1" ""), 2)], [], .disjoint⟩ : Siblings Nat).visits
          false (.arr (List.replicate 11 .null))) = .ok handled ∧
      ¬ FollowsRule (Walk.start 1) [(.literal "+10", 1), (.star (.single "1" ""), 2)]
        (.arr (List.replicate 11 .null)) handled := by
  have accepted : ofChildren [] [(.literal "+10", 1), (.star (.single "1" ""), 2)] =
      .ok ⟨[("+10", 1)], [(.star (.single "1" ""), 2)], [], .disjoint⟩ := rfl
  have distinct : HasDistinctKeys (.arr (List.replicate 11 .null)) := trivial
  have resolves : ∀ child ∈ [(Element.literal "+10", 1), (Element.star (.single "1" ""), 2)],
      child.1.role = .computed → Resolves (Walk.start 1) child.1 := by
    intro child member role key
    rcases List.mem_pair.mp member with rfl | rfl
    · cases role
    · exact ⟨_, rfl⟩
  obtain ⟨handled, ran, follows⟩ := dispatch_followsRule accepted distinct resolves
  refine ⟨handled, ran, fun rule => ?_⟩
  have spells := follows.mp rule (by decide) ("+10", 1) (by simp) 10 (by decide)
  exact absurd (spells.mp rfl) (by decide)

end Siblings

end Reshape.Spec
