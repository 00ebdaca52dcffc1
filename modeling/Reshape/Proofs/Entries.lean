import Reshape.Proofs.Spec.Following
import Reshape.Proofs.Spec.Slots

namespace Reshape

open Decimal Spec

namespace Json

def entries : Json → List (String × Json)
  | .obj members => members
  | .arr items => items.zipIdx.map fun item => (natText item.2, item.1)
  | _ => []

def revise (f : String → Json → Json) : Json → Json
  | .obj members => .obj (members.map fun member => (member.1, f member.1 member.2))
  | .arr items => .arr (items.zipIdx.map fun item => f (natText item.2) item.1)
  | doc => doc

/-- A container with other values for some entries and without the others. -/
def select (f : String → Json → Option Json) : Json → Json
  | .obj members =>
    .obj (members.filterMap fun member => (f member.1 member.2).map (member.1, ·))
  | .arr items => .arr (items.zipIdx.filterMap fun item => f (natText item.2) item.1)
  | doc => doc

/-- No key stands twice in an object, wherever it is in a document. -/
inductive Keyed : Json → Prop where
  | scalar {doc : Json} (plain : doc.isContainer = false) : Keyed doc
  | array {items : List Json} (each : ∀ item ∈ items, Keyed item) : Keyed (.arr items)
  | object {members : Members} (distinct : (members.map (·.1)).Nodup)
      (each : ∀ member ∈ members, Keyed member.2) : Keyed (.obj members)

variable {doc value : Json} {name : String}

theorem Keyed.hasDistinctKeys (keyed : doc.Keyed) : HasDistinctKeys doc := by
  cases keyed with
  | scalar plain =>
    cases doc with
    | obj members => cases plain
    | _ => trivial
  | array each => trivial
  | object distinct each => exact distinct

theorem mem_entries_arr {items : List Json} :
    (name, value) ∈ entries (.arr items) ↔
      ∃ index, items[index]? = some value ∧ natText index = name := by
  rw [entries, List.mem_map]
  constructor
  · rintro ⟨⟨held, index⟩, present, same⟩
    cases same
    exact ⟨index, List.mem_zipIdx_iff_getElem?.mp present, rfl⟩
  · rintro ⟨index, present, rfl⟩
    exact ⟨(value, index), List.mem_zipIdx_iff_getElem?.mpr present, rfl⟩

theorem Keyed.entry (keyed : doc.Keyed) (present : (name, value) ∈ doc.entries) :
    value.Keyed := by
  cases keyed with
  | scalar plain =>
    cases doc with
    | arr items => cases plain
    | obj members => cases plain
    | _ => cases present
  | array each =>
    obtain ⟨index, found, -⟩ := mem_entries_arr.mp present
    exact each value (List.mem_of_getElem? found)
  | object distinct each => exact each (name, value) present

theorem Indexable.entry (indexable : doc.Indexable) (present : (name, value) ∈ doc.entries) :
    value.Indexable := by
  cases indexable with
  | scalar plain =>
    cases doc with
    | arr items => cases plain
    | obj members => cases plain
    | _ => cases present
  | array bounded each =>
    obtain ⟨index, found, -⟩ := mem_entries_arr.mp present
    exact each value (List.mem_of_getElem? found)
  | object each => exact each (name, value) present

theorem revise_congr {f g : String → Json → Json}
    (same : ∀ name value, (name, value) ∈ doc.entries → f name value = g name value) :
    doc.revise f = doc.revise g := by
  cases doc with
  | obj members =>
    refine congrArg obj (List.map_congr_left fun member present => ?_)
    exact congrArg (member.1, ·) (same member.1 member.2 present)
  | arr items =>
    refine congrArg arr (List.map_congr_left fun item present => ?_)
    exact same _ _ (List.mem_map_of_mem present)
  | _ => rfl

theorem select_congr {f g : String → Json → Option Json}
    (same : ∀ name value, (name, value) ∈ doc.entries → f name value = g name value) :
    doc.select f = doc.select g := by
  cases doc with
  | obj members =>
    refine congrArg obj (List.filterMap_congr fun member present => ?_)
    exact congrArg (Option.map (member.1, ·)) (same member.1 member.2 present)
  | arr items =>
    refine congrArg arr (List.filterMap_congr fun item present => ?_)
    exact same _ _ (List.mem_map_of_mem present)
  | _ => rfl

theorem revise_eq_self {f : String → Json → Json} (stays : ∀ name value, f name value = value) :
    doc.revise f = doc := by
  cases doc with
  | obj members => simp [revise, stays]
  | arr items => simp [revise, stays]
  | _ => rfl

end Json

theorem Members.get?_map {f : String → Json → Json} {members : Members} {key : String}
    {value : Json} (distinct : (members.map (·.1)).Nodup) (present : (key, value) ∈ members) :
    get? key (members.map fun member => (member.1, f member.1 member.2)) = some (f key value) := by
  induction members with
  | nil => cases present
  | cons member rest ih =>
    obtain ⟨absent, later⟩ := List.nodup_cons.mp distinct
    rcases List.mem_cons.mp present with rfl | further
    · exact if_pos rfl
    · have apart : member.1 ≠ key := by
        rintro rfl
        exact absent (List.mem_map.mpr ⟨_, further, rfl⟩)
      rw [List.map_cons, get?, if_neg apart]
      exact ih later further

theorem Members.put_eq_map {key : String} (value : Json) {members : Members}
    (held : key ∈ members.map (·.1)) (distinct : (members.map (·.1)).Nodup) :
    put key value members =
      members.map fun member => (member.1, if member.1 = key then value else member.2) := by
  induction members with
  | nil => cases held
  | cons member rest ih =>
    rw [List.map_cons, List.nodup_cons] at distinct
    obtain ⟨absent, later⟩ := distinct
    by_cases same : member.1 = key
    · have others : rest.map (fun (name, old) => (name, if name = key then value else old)) =
          rest := by
        refine (List.map_congr_left fun other present => ?_).trans (List.map_id rest)
        have apart : other.1 ≠ key := fun equal =>
          absent (same ▸ equal ▸ List.mem_map_of_mem present)
        exact Prod.ext rfl (if_neg apart)
      rw [put, if_pos same, List.map_cons, others, if_pos same]
    · have held := (List.mem_cons.mp held).resolve_left (Ne.symm same)
      rw [put, if_neg same, List.map_cons, ih held later, if_neg same]

namespace Spec.Slot

open Json

variable {doc value : Json} {slot other : Slot} {f : String → Json → Json}

/-- The places in a container are told apart by their keys. -/
theorem eq_of_key_eq (present : slot ∈ ofContainer doc) (also : other ∈ ofContainer doc)
    (same : slot.key = other.key) : slot = other := by
  cases doc with
  | obj members =>
    obtain ⟨first, -, rfl⟩ := List.mem_map.mp present
    obtain ⟨second, -, rfl⟩ := List.mem_map.mp also
    exact congrArg member same
  | arr values =>
    obtain ⟨first, -, rfl⟩ := List.mem_map.mp present
    obtain ⟨second, -, rfl⟩ := List.mem_map.mp also
    exact congrArg item (natText_injective same)
  | _ => cases present

theorem ofInput_eq (container : doc.isContainer = true) : ofInput doc = ofContainer doc := by
  cases doc with
  | arr items => rfl
  | obj members => rfl
  | _ => cases container

theorem exists_entry (present : slot ∈ ofContainer doc) :
    ∃ value, (slot.key, value) ∈ doc.entries := by
  cases doc with
  | obj members =>
    obtain ⟨entry, held, rfl⟩ := List.mem_map.mp present
    exact ⟨entry.2, held⟩
  | arr values =>
    obtain ⟨index, bounded, rfl⟩ := List.mem_map.mp present
    have bounded := List.mem_range.mp bounded
    exact ⟨values[index], mem_entries_arr.mpr ⟨index, List.getElem?_eq_getElem bounded, rfl⟩⟩
  | _ => cases present

theorem exists_place {name : String} (present : (name, value) ∈ doc.entries) :
    ∃ slot ∈ ofContainer doc, slot.key = name := by
  cases doc with
  | obj members => exact ⟨member name, List.mem_map_of_mem present, rfl⟩
  | arr values =>
    obtain ⟨index, found, rfl⟩ := mem_entries_arr.mp present
    obtain ⟨bounded, -⟩ := List.getElem?_eq_some_iff.mp found
    exact ⟨item index, List.mem_map_of_mem (List.mem_range.mpr bounded), rfl⟩
  | _ => cases present

theorem keyed_child? (keyed : doc.Keyed) (found : slot.child? doc = some value) :
    value.Keyed := by
  cases keyed with
  | scalar plain =>
    cases doc with
    | arr items => cases plain
    | obj members => cases plain
    | _ => cases found
  | array each =>
    obtain ⟨index, -, present⟩ := Option.bind_eq_some_iff.mp found
    exact each value (List.mem_of_getElem? present)
  | object _ each => exact each (slot.key, value) (Members.mem_of_get? found)

/-- The value at a place is the entry under its key. -/
theorem child?_revise (place : slot ∈ ofContainer doc) (distinct : HasDistinctKeys doc)
    (present : (slot.key, value) ∈ doc.entries) :
    slot.child? (doc.revise f) = some (f slot.key value) := by
  cases doc with
  | obj members =>
    obtain ⟨entry, -, rfl⟩ := List.mem_map.mp place
    exact Members.get?_map distinct present
  | arr values =>
    obtain ⟨index, -, rfl⟩ := List.mem_map.mp place
    obtain ⟨other, found, same⟩ := mem_entries_arr.mp present
    cases natText_injective same
    simp [child?, item, index?, revise, found]
  | _ => cases place

theorem child?_of_entry (place : slot ∈ ofContainer doc) (distinct : HasDistinctKeys doc)
    (present : (slot.key, value) ∈ doc.entries) : slot.child? doc = some value := by
  have held := child?_revise (f := fun _ value => value) place distinct present
  rwa [revise_eq_self fun _ _ => rfl] at held

theorem entry_unique {held : Json} (place : slot ∈ ofContainer doc) (distinct : HasDistinctKeys doc)
    (present : (slot.key, value) ∈ doc.entries) (also : (slot.key, held) ∈ doc.entries) :
    held = value := by
  have first := child?_of_entry place distinct present
  rw [child?_of_entry place distinct also] at first
  exact Option.some.inj first

theorem replace_revise (present : slot ∈ ofContainer doc) (distinct : HasDistinctKeys doc) :
    slot.replace value (doc.revise f) =
      doc.revise fun name held => if name = slot.key then value else f name held := by
  cases doc with
  | obj members =>
    obtain ⟨entry, held, rfl⟩ := List.mem_map.mp present
    have keys : ((members.map fun member => (member.1, f member.1 member.2)).map (·.1)) =
        members.map (·.1) := by simp [Function.comp_def]
    have named : entry.1 ∈ members.map (·.1) := List.mem_map_of_mem held
    rw [← keys] at named
    have put := Members.put_eq_map value named (keys.symm ▸ distinct)
    exact congrArg Json.obj (put.trans (by rw [List.map_map]; rfl))
  | arr values =>
    obtain ⟨index, bounded, rfl⟩ := List.mem_map.mp present
    refine congrArg Json.arr (List.ext_getElem (by simp) fun other within _ => ?_)
    by_cases same : index = other
    · subst same
      simp [item]
    · have apart : natText other ≠ natText index := fun equal => same (natText_injective equal).symm
      simp [item, same, apart]
  | _ => cases present

private theorem discard_zipIdx (gone : Nat → Bool) (g : Nat → Json → Json) (values : List Json)
    (start : Nat) :
    ((((values.zipIdx start).map fun item => g item.2 item.1).zipIdx start).filter
        fun item => !gone item.2).map (·.1) =
      (values.zipIdx start).filterMap fun item =>
        if gone item.2 then none else some (g item.2 item.1) := by
  induction values generalizing start with
  | nil => rfl
  | cons held rest ih =>
    rw [List.zipIdx_cons, List.map_cons, List.zipIdx_cons, List.filter_cons, List.filterMap_cons]
    dsimp only
    cases gone start with
    | false => exact congrArg _ (ih (start + 1))
    | true => exact ih (start + 1)

/-- Places are dropped by their keys. -/
theorem discard_revise {doomed : List Slot} (places : ∀ slot ∈ doomed, slot ∈ ofContainer doc) :
    discard doomed (doc.revise f) =
      doc.select fun name held => if name ∈ doomed.map (·.key) then none else some (f name held) := by
  cases doc with
  | obj members =>
    refine congrArg Json.obj ?_
    rw [← List.filterMap_eq_map, ← List.filterMap_eq_filter, List.filterMap_filterMap]
    refine List.filterMap_congr fun member _ => ?_
    have told : (doomed.any fun slot => slot.key == member.1) =
        decide (member.1 ∈ doomed.map (·.key)) := by simp [List.any_eq]
    by_cases gone : member.1 ∈ doomed.map (·.key)
    · simp [told, gone]
    · simp [told, gone]
  | arr values =>
    have found (index : Nat) : (doomed.filterMap (·.index)).contains index =
        decide (natText index ∈ doomed.map (·.key)) := by
      rw [Bool.eq_iff_iff, List.contains_iff_mem, decide_eq_true_eq, List.mem_filterMap,
        List.mem_map]
      refine exists_congr fun slot => and_congr_right fun present => ?_
      obtain ⟨other, -, rfl⟩ := List.mem_map.mp (places slot present)
      exact Option.some_inj.trans ⟨congrArg natText, fun same => natText_injective same⟩
    have kept := discard_zipIdx (fun index => (doomed.filterMap (·.index)).contains index)
      (fun index held => f (natText index) held) values 0
    refine congrArg Json.arr (kept.trans ?_)
    refine List.filterMap_congr fun item _ => ?_
    simp only [found, decide_eq_true_eq]
  | _ => rfl

end Spec.Slot

end Reshape
