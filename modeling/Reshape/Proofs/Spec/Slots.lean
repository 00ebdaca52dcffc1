import Mathlib.Data.List.Nodup
import Reshape.Proofs.Numerals
import Reshape.Spec.Slot

namespace Reshape.Spec

open Decimal

/-- The name of a place: its key, or its index in an array. -/
def Slot.name (s : Slot) : String :=
  match s.index with
  | some index => natText index
  | none => s.key

def Slot.names (doc : Json) : List String :=
  (Slot.ofInput doc).map Slot.name

/-- No key stands twice in an object. -/
def HasDistinctKeys : Json → Prop
  | .obj members => (members.map (·.1)).Nodup
  | _ => True

variable {key : String}

theorem Members.has_iff {members : Members} : Members.has key members = true ↔
    key ∈ members.map (·.1) := by
  rw [Members.has]
  induction members with
  | nil => simp [Members.get?]
  | cons member rest ih =>
    by_cases same : member.1 = key
    · simp [Members.get?, same]
    · have other : key ≠ member.1 := Ne.symm same
      simp only [Members.get?, if_neg same, ih, List.map_cons, List.mem_cons, other, false_or]

namespace Slot

@[simp]
theorem name_member (key : String) : (member key).name = key := rfl

@[simp]
theorem name_item (index : Nat) : (item index).name = natText index := rfl

theorem name_of_mem {input : Json} {slot : Slot} (present : slot ∈ ofInput input) :
    slot.name = slot.key := by
  cases input with
  | obj members =>
    obtain ⟨entry, -, rfl⟩ := List.mem_map.mp present
    rfl
  | arr values =>
    obtain ⟨index, -, rfl⟩ := List.mem_map.mp present
    rfl
  | null => cases present
  | _ =>
    obtain rfl := List.mem_singleton.mp present
    rfl

theorem names_obj (members : Members) : names (.obj members) = members.map (·.1) := by
  simp [names, ofInput, ofContainer, Function.comp_def]

theorem names_arr (values : List Json) :
    names (.arr values) = (List.range values.length).map natText := by
  simp [names, ofInput, ofContainer, items, Function.comp_def]

theorem names_nodup {input : Json} (distinct : HasDistinctKeys input) :
    (names input).Nodup := by
  cases input with
  | obj members => rw [names_obj]; exact distinct
  | arr values =>
    rw [names_arr]
    exact List.nodup_range.map fun _ _ same => natText_injective same
  | null => exact List.nodup_nil
  | _ => exact List.nodup_singleton _

/-- A literal finds the items of an array by their names alone: it is read as an index
of the array just where it is the text of that index. -/
def Spells (text : String) : Json → Prop
  | .arr values => ∀ index < values.length, readIndex text = some index ↔ text = natText index
  | _ => True

theorem ofPresent?_key {text : String} {input : Json} {slot : Slot}
    (found : ofPresent? text input = some slot) : slot.key = text := by
  cases input with
  | obj members =>
    obtain ⟨-, built⟩ := Option.ite_none_right_eq_some.mp found
    cases built
    rfl
  | arr values =>
    obtain ⟨index, -, rfl⟩ := Option.map_eq_some_iff.mp found
    rfl
  | null => cases found
  | _ =>
    obtain ⟨-, built⟩ := Option.ite_none_right_eq_some.mp found
    cases built
    rfl

/-- A literal that spells what it finds is looked up under its own name. -/
theorem ofPresent?_spec {text place : String} {input : Json} (spells : Spells text input) :
    (∃ slot, ofPresent? text input = some slot ∧ slot.name = place) ↔
      place = text ∧ text ∈ names input := by
  cases input with
  | obj members =>
    rw [names_obj, ← Members.has_iff, ofPresent?]
    by_cases held : Members.has text members = true
    · simp [held, eq_comm]
    · simp [held]
  | arr values =>
    rw [names_arr, ofPresent?]
    constructor
    · rintro ⟨slot, found, rfl⟩
      obtain ⟨index, read, rfl⟩ := Option.map_eq_some_iff.mp found
      obtain ⟨read, bounded⟩ := Option.filter_eq_some_iff.mp read
      rw [decide_eq_true_eq] at bounded
      have same := (spells index bounded).mp read
      exact ⟨same.symm, List.mem_map.mpr ⟨index, List.mem_range.mpr bounded, same.symm⟩⟩
    · rintro ⟨rfl, held⟩
      obtain ⟨index, bounded, rfl⟩ := List.mem_map.mp held
      rw [List.mem_range] at bounded
      have read := (spells index bounded).mpr rfl
      exact ⟨⟨natText index, some index⟩, by simp [read, Option.filter, bounded], rfl⟩
  | null => simp [ofPresent?, names, ofInput, Json.keyText?]
  | _ =>
    simp only [ofPresent?, names, ofInput, Json.keyText?, Option.some.injEq, Option.map_some,
      Option.toList_some, List.map_cons, List.map_nil, name_member, List.mem_singleton]
    constructor
    · rintro ⟨slot, found, rfl⟩
      obtain ⟨same, built⟩ := Option.ite_none_right_eq_some.mp found
      cases built
      exact ⟨rfl, same.symm⟩
    · rintro ⟨rfl, rfl⟩
      exact ⟨member _, if_pos rfl, rfl⟩

/-- A literal that is looked up under its own name spells what it finds. -/
theorem spells_of_ofPresent? {text : String} {input : Json}
    (looked : ∀ place, (∃ slot, ofPresent? text input = some slot ∧ slot.name = place) ↔
      place = text ∧ text ∈ names input) : Spells text input := by
  cases input with
  | arr values =>
    intro index bounded
    constructor
    · intro read
      have found : ofPresent? text (.arr values) = some ⟨text, some index⟩ := by
        simp [ofPresent?, read, Option.filter, bounded]
      exact ((looked (natText index)).mp ⟨_, found, rfl⟩).1.symm
    · rintro rfl
      have held : natText index ∈ names (.arr values) := by
        rw [names_arr]
        exact List.mem_map_of_mem (List.mem_range.mpr bounded)
      obtain ⟨slot, found, same⟩ := (looked (natText index)).mpr ⟨rfl, held⟩
      obtain ⟨other, read, rfl⟩ := Option.map_eq_some_iff.mp found
      rw [(Option.filter_eq_some_iff.mp read).1, natText_injective same]
  | _ => trivial

end Slot

end Reshape.Spec
