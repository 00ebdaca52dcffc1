import Reshape.Proofs.Numerals
import Reshape.Proofs.Spec.Nesting

namespace Reshape

open Key Spec

/-- The value that keys lead to, one after the other. -/
def Json.follow? (keys : List String) (doc : Json) : Option Json :=
  keys.foldlM (fun part key => (Slot.member key).child? part) doc

theorem Json.follow?_concat (keys : List String) (key : String) (doc : Json) :
    follow? (keys ++ [key]) doc = (follow? keys doc).bind (Slot.member key).child? := by
  simp [follow?, List.foldlM_append]

/-- The indices of all items in a document fit in 64 bits. -/
inductive Json.Indexable : Json → Prop where
  | scalar {doc : Json} (plain : doc.isContainer = false) : Indexable doc
  | array {items : List Json} (bounded : items.length ≤ Decimal.wordBound)
      (each : ∀ item ∈ items, Indexable item) : Indexable (.arr items)
  | object {members : Members} (each : ∀ member ∈ members, Indexable member.2) :
      Indexable (.obj members)

theorem Members.mem_of_get? {key : String} {value : Json} {members : Members}
    (found : get? key members = some value) : (key, value) ∈ members := by
  induction members with
  | nil => cases found
  | cons member rest ih =>
    rw [get?] at found
    split at found
    · rename_i same
      cases found
      exact List.mem_cons.mpr (.inl (by rw [← same]))
    · exact List.mem_cons_of_mem _ (ih found)

namespace Spec.Slot

variable {slot : Slot} {doc value : Json}

/-- The key of a place tells its index: it is read as the index or is its text. -/
def Named (slot : Slot) : Prop :=
  ∀ index, slot.index = some index →
    Decimal.readIndex slot.key = some index ∨ slot.key = Decimal.natText index

theorem indexable_child? (indexable : doc.Indexable) (found : slot.child? doc = some value) :
    value.Indexable := by
  cases indexable with
  | scalar plain =>
    cases doc with
    | arr items => cases plain
    | obj members => cases plain
    | _ => cases found
  | array bounded each =>
    obtain ⟨index, -, present⟩ := Option.bind_eq_some_iff.mp found
    exact each value (List.mem_of_getElem? present)
  | object each => exact each (slot.key, value) (Members.mem_of_get? found)

/-- A place is found by its key alone. -/
theorem child?_of_named (named : slot.Named) (indexable : doc.Indexable) :
    slot.child? doc = (member slot.key).child? doc := by
  cases doc with
  | arr items =>
    cases indexable with
    | scalar plain => cases plain
    | array bounded each =>
      have same : (slot.index?.bind fun index => items[index]?) =
          (Decimal.readIndex slot.key).bind fun index => items[index]? := by
        cases told : slot.index with
        | none => rw [index?, told, Option.none_or]
        | some index =>
          rw [index?, told, Option.some_or]
          rcases named index told with read | text
          · rw [read]
          · -- an index past 64 bits is not read, but no array has an item there
            rw [text, Decimal.readIndex, Decimal.natText, String.toList_ofList,
              Decimal.readIndexChars_natChars_eq]
            by_cases within : index < Decimal.wordBound
            · simp [Option.filter, within]
            · simp [Option.filter, within, bounded.trans (Nat.le_of_not_lt within)]
      exact same
  | _ => rfl

theorem named_member (key : String) : (member key).Named :=
  fun _ told => nomatch told

theorem named_of_readIndex {text : String} {index : Nat}
    (read : Decimal.readIndex text = some index) : Named ⟨text, some index⟩ := by
  intro other told
  cases told
  exact .inl read

theorem named_of_mem {slot : Slot} (present : slot ∈ ofInput doc) : slot.Named := by
  cases doc with
  | obj members =>
    obtain ⟨entry, -, rfl⟩ := List.mem_map.mp present
    exact named_member entry.1
  | arr values =>
    obtain ⟨index, -, rfl⟩ := List.mem_map.mp present
    intro other told
    cases told
    exact .inr rfl
  | null => cases present
  | _ =>
    obtain rfl := List.mem_singleton.mp present
    exact named_member _

theorem named_of_present {text : String} (found : ofPresent? text doc = some slot) :
    slot.Named := by
  cases doc with
  | arr items =>
    obtain ⟨index, read, rfl⟩ := Option.map_eq_some_iff.mp found
    exact named_of_readIndex (Option.filter_eq_some_iff.mp read).1
  | null => cases found
  | _ =>
    obtain ⟨-, built⟩ := Option.ite_none_right_eq_some.mp found
    cases built
    exact named_member text

private theorem named_of_absent {text : String} (found : ofAbsent? text doc = some slot) :
    slot.Named := by
  cases doc with
  | arr items =>
    obtain ⟨index, read, rfl⟩ := Option.map_eq_some_iff.mp found
    exact named_of_readIndex (Option.filter_eq_some_iff.mp read).1
  | obj members =>
    obtain ⟨-, built⟩ := Option.ite_none_left_eq_some.mp found
    cases built
    exact named_member text
  | _ => cases found

end Spec.Slot

theorem Json.indexable_follow? {keys : List String} {doc value : Json} (indexable : doc.Indexable)
    (found : follow? keys doc = some value) : value.Indexable := by
  induction keys generalizing doc with
  | nil =>
    cases found
    exact indexable
  | cons key rest ih =>
    obtain ⟨child, first, later⟩ := Option.bind_eq_some_iff.mp found
    exact ih (Slot.indexable_child? indexable first) later

namespace Spec.Siblings

variable {α : Type} {s : Siblings α} {absent : Bool} {input : Json} {visit : Visit α}

/-- Visits are of places whose keys tell their indices. -/
theorem named_of_visit (planned : visit ∈ s.visits absent input) : visit.slot.Named := by
  cases planned_of_mem s planned with
  | led _ found =>
    rcases found with present | ⟨-, missing⟩
    · exact Slot.named_of_present present
    · exact Slot.named_of_absent missing
  | named _ _ place => exact Slot.named_of_mem place
  | computed place => exact Slot.named_of_mem place

/-- The children that are asked at a visit are not special. -/
theorem Parted.role_candidate (parted : s.Parted) (planned : visit ∈ s.visits absent input)
    {child : Element × α} (candidate : child ∈ visit.candidates) : child.1.role ≠ .special := by
  rcases candidates_of_visit s planned candidate with ⟨entry, -, rfl⟩ | present
  · exact nofun
  · rw [parted.computed child present]
    exact nofun

end Spec.Siblings

end Reshape
