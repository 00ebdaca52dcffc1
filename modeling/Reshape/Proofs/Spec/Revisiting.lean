import Reshape.Proofs.Spec.Rounds

namespace Reshape.Spec

open Key Decimal

/-- Containers of one kind with the same places, or one document. -/
inductive SamePlaces : Json → Json → Prop where
  | refl (doc : Json) : SamePlaces doc doc
  | object {members others : Members} (keys : others.map (·.1) = members.map (·.1)) :
      SamePlaces (.obj members) (.obj others)
  | array {items others : List Json} (length : others.length = items.length) :
      SamePlaces (.arr items) (.arr others)

namespace SamePlaces

variable {doc other third value : Json} {slot : Slot}

theorem trans (one : SamePlaces doc other) (two : SamePlaces other third) :
    SamePlaces doc third := by
  cases one with
  | refl => exact two
  | object keys =>
    cases two with
    | refl => exact .object keys
    | object also => exact .object (also.trans keys)
  | array length =>
    cases two with
    | refl => exact .array length
    | array also => exact .array (also.trans length)

theorem isObject_eq (same : SamePlaces doc other) : other.isObject = doc.isObject := by
  cases same <;> rfl

theorem isArray_eq (same : SamePlaces doc other) : other.isArray = doc.isArray := by
  cases same <;> rfl

theorem isContainer_eq (same : SamePlaces doc other) : other.isContainer = doc.isContainer := by
  rw [Json.isContainer, Json.isContainer, same.isArray_eq, same.isObject_eq]

theorem ofInput_eq (same : SamePlaces doc other) : Slot.ofInput other = Slot.ofInput doc := by
  cases same with
  | refl => rfl
  | @object members others keys =>
    have named (members : Members) : Slot.ofInput (.obj members) =
        (members.map (·.1)).map Slot.member := by simp [Slot.ofInput, Slot.ofContainer]
    rw [named, named, keys]
  | array length => exact congrArg Slot.items length

private theorem ofPresent?_eq (same : SamePlaces doc other) (text : String) :
    Slot.ofPresent? text other = Slot.ofPresent? text doc := by
  cases same with
  | refl => rfl
  | @object members others keys =>
    have held : Members.has text others = Members.has text members := by
      rw [Bool.eq_iff_iff, Members.has_iff, Members.has_iff, keys]
    rw [Slot.ofPresent?, Slot.ofPresent?, held]
  | array length => rw [Slot.ofPresent?, Slot.ofPresent?, length]

theorem replace (present : slot.child? doc = some value) (made : Json) :
    SamePlaces doc (slot.replace made doc) := by
  cases doc with
  | obj members =>
    have held : slot.key ∈ members.map (·.1) := by
      rw [← Members.has_iff, Members.has, Option.isSome_iff_exists]
      exact ⟨value, present⟩
    exact .object (Extends.keys_put held made)
  | arr items =>
    obtain ⟨index, place, -⟩ := Option.bind_eq_some_iff.mp present
    simp only [Slot.replace, place]
    exact .array List.length_set
  | _ => cases present

/-- The same visits are planned for the same places. -/
theorem visits_eq {α : Type} (same : SamePlaces doc other) (s : Siblings α) :
    s.visits false other = s.visits false doc := by
  rw [Siblings.visits_eq, Siblings.visits_eq]
  simp only [Siblings.led, Siblings.placed, Siblings.computedVisits, same.ofInput_eq,
    same.ofPresent?_eq]

end SamePlaces

/-- A text that is read as an index is the text of that index. -/
def IsPlain (text : String) : Prop :=
  ∀ index ∈ readIndex text, text = natText index

instance : DecidablePred IsPlain := fun text =>
  inferInstanceAs (Decidable (∀ index ∈ readIndex text, text = natText index))

theorem Siblings.apartIndices_of_isPlain {texts : List String}
    (plain : ∀ text ∈ texts, IsPlain text) : ApartIndices texts := by
  intro first present second also index read reread
  rw [plain first present index read, plain second also index reread]

variable {α : Type} {s : Siblings α} {doc : Json} {slot place : Slot} {text : String}

/-- Places that a container lists are apart, or are one place. -/
theorem Slot.eq_or_apart (container : doc.isContainer = true) (present : slot ∈ Slot.ofInput doc)
    (also : place ∈ Slot.ofInput doc) : slot = place ∨ Slot.Apart doc slot place := by
  cases doc with
  | obj members =>
    obtain ⟨entry, -, rfl⟩ := List.mem_map.mp present
    obtain ⟨another, -, rfl⟩ := List.mem_map.mp also
    exact (eq_or_ne entry.1 another.1).imp (congrArg Slot.member) id
  | arr items =>
    obtain ⟨index, -, rfl⟩ := List.mem_map.mp present
    obtain ⟨further, -, rfl⟩ := List.mem_map.mp also
    refine (eq_or_ne index further).imp (congrArg Slot.item) fun differ same => ?_
    exact differ (Option.some.inj same)
  | _ => cases container

/-- The place that a plain text leads to is apart from the places with other keys. -/
theorem Slot.key_eq_or_apart (container : doc.isContainer = true) (plain : IsPlain text)
    (found : Slot.ofPresent? text doc = some slot) (listed : place ∈ Slot.ofInput doc) :
    place.key = text ∨ Slot.Apart doc slot place := by
  cases doc with
  | obj members =>
    have named : slot.key = text := Slot.ofPresent?_key found
    refine (eq_or_ne place.key text).imp_right fun differ same => ?_
    exact differ (same.symm.trans named)
  | arr items =>
    obtain ⟨index, read, rfl⟩ := Option.map_eq_some_iff.mp found
    obtain ⟨further, -, rfl⟩ := List.mem_map.mp listed
    refine (eq_or_ne index further).imp (fun same => ?_) fun differ same => ?_
    · rw [plain index (Option.filter_eq_some_iff.mp read).1, same]
      rfl
    · exact differ (Option.some.inj same)
  | _ => cases container

/-- The later of two visits leaves alone what the first one has made, unless it is the same visit:
it is at a place that is apart, or asks children that avoid its key. -/
inductive Spares (texts : List String) (doc : Json) (first later : Visit α) : Prop where
  | same (equal : first = later)
  | apart (places : Slot.Apart doc first.slot later.slot)
  | avoided (named : later.slot.key ∈ texts)
      (avoid : ∀ child ∈ later.candidates, avoids texts child.1 = true)

namespace Siblings

/-- Children whose literals are different plain texts, and whose computed children avoid them
where both are asked. -/
structure Tidy (s : Siblings α) : Prop where
  distinct : (s.literals.map (·.1)).Nodup
  plain : ∀ text ∈ s.literals.map (·.1), IsPlain text
  avoid : s.strategy = .disjoint →
    ∀ child ∈ s.computed, avoids (s.literals.map (·.1)) child.1 = true

theorem Tidy.map {β : Type} (tidy : s.Tidy) (f : Element → α → β) : (s.map f).Tidy where
  distinct := by rw [texts_map]; exact tidy.distinct
  plain := by rw [texts_map]; exact tidy.plain
  avoid := by
    intro disjoint
    rw [texts_map]
    exact List.forall_mem_map.mpr (tidy.avoid disjoint)

private theorem placed_spares (texts : List String) (container : doc.isContainer = true) :
    (s.placed doc).Pairwise (Spares texts doc) := by
  have places : (Slot.ofInput doc).Pairwise fun slot place =>
      slot = place ∨ Slot.Apart doc slot place :=
    List.pairwise_of_forall_mem_list fun _ present _ also =>
      Slot.eq_or_apart container present also
  have each {visit : Slot → Visit α} (keeps : ∀ slot, (visit slot).slot = slot) :
      ((Slot.ofInput doc).map visit).Pairwise (Spares texts doc) := by
    refine List.pairwise_map.mpr (places.imp fun {slot place} related => ?_)
    rcases related with rfl | apart
    · exact .same rfl
    · exact .apart (by rwa [keeps, keeps])
  unfold placed
  cases s.strategy with
  | literalsOnly => exact .nil
  | computedOnly => exact each fun _ => rfl
  | disjoint => exact each fun _ => rfl
  | literalFirst => exact each s.slot_literalFirstVisit

/-- A literal is sought in vain where the computed children are asked about its place. -/
theorem Tidy.led_spares (tidy : s.Tidy) (container : doc.isContainer = true)
    {first later : Visit α} (led : first ∈ s.led doc) (placed : later ∈ s.placed doc) :
    Spares (s.literals.map (·.1)) doc first later := by
  unfold Siblings.led at led
  unfold Siblings.placed at placed
  cases strategy : s.strategy with
  | literalsOnly => simp [strategy] at placed
  | computedOnly => simp [strategy] at led
  | literalFirst => simp [strategy] at led
  | disjoint =>
    -- Only here are literals looked up and computed children asked as well.
    simp only [strategy] at led placed
    obtain ⟨entry, present, kept⟩ := List.mem_filterMap.mp led
    obtain ⟨slot, found, rfl⟩ := Option.map_eq_some_iff.mp kept
    obtain ⟨place, listed, rfl⟩ := List.mem_map.mp placed
    have written : entry.1 ∈ s.literals.map (·.1) := List.mem_map_of_mem present
    rcases Slot.key_eq_or_apart container (tidy.plain _ written) found listed with named | apart
    · exact .avoided (named ▸ written) (tidy.avoid strategy)
    · exact .apart apart

/-- Each visit of a container spares what the visits before it have made. -/
theorem Tidy.visits_spare (tidy : s.Tidy) (container : doc.isContainer = true) :
    (s.visits false doc).Pairwise (Spares (s.literals.map (·.1)) doc) := by
  have separate : Separate (s.literals.map (·.1)) :=
    ⟨tidy.distinct, apartIndices_of_isPlain tidy.plain⟩
  rw [visits_eq]
  refine List.pairwise_append.mpr ⟨(led_apart separate container).imp .apart,
    placed_spares _ container, ?_⟩
  exact fun first led later placed => tidy.led_spares container led placed

theorem tidy_of_accepted {path : Pointer} {children : List (Element × α)}
    (accepted : ofChildren path children = .ok s)
    (plain : ∀ child ∈ children, ∀ text, child.1 = .literal text → IsPlain text) : s.Tidy where
  distinct := literals_nodup accepted
  plain := by
    intro text written
    obtain ⟨entry, present, rfl⟩ := List.mem_map.mp written
    exact plain _ ((mem_literals accepted).mp present) entry.1 rfl
  avoid := by
    intro disjoint
    rcases strategy_cases accepted with ⟨other, -⟩ | ⟨other, -⟩ | ⟨-, apart⟩ | other
    case inr.inr.inl => exact apart
    all_goals cases disjoint.symm.trans other

end Siblings

end Reshape.Spec
