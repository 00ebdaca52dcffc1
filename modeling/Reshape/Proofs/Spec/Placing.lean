import Reshape.Proofs.Alike

namespace Reshape

open Spec

theorem Members.put_put (key : String) (first second : Json) (members : Members) :
    put key second (put key first members) = put key second members := by
  induction members with
  | nil => exact if_pos rfl
  | cons member rest ih =>
    by_cases same : member.1 = key
    · simp [put, same]
    · simp [put, same, ih]

theorem Members.put_of_get? {key : String} {value : Json} {members : Members}
    (held : get? key members = some value) : put key value members = members := by
  induction members with
  | nil => cases held
  | cons member rest ih =>
    obtain ⟨name, own⟩ := member
    by_cases same : name = key
    · have own : own = value := by simpa [get?, same] using held
      simp [put, same, own]
    · have later : get? key rest = some value := by simpa [get?, same] using held
      simp [put, same, ih later]

namespace Spec.Slot

variable {slot other : Slot} {doc value : Json} {index : Nat} {items : List Json}

/-- An array that has grown with nulls to hold a value at an index. -/
def grow (index : Nat) (value : Json) (items : List Json) : List Json :=
  (items ++ List.replicate (index + 1 - items.length) Json.null).set index value

def assign (slot : Slot) (value : Json) : Json → Json
  | .obj members => .obj (Members.put slot.key value members)
  | .arr items =>
    match slot.index? with
    | some index => .arr (grow index value items)
    | none => .arr items
  | doc => doc

/-- The places are not the same one in a container. -/
def Apart (doc : Json) (slot other : Slot) : Prop :=
  match doc with
  | .obj _ => slot.key ≠ other.key
  | _ => slot.index? ≠ other.index?

theorem Apart.symm (apart : Apart doc slot other) : Apart doc other slot := by
  cases doc with
  | obj members => exact fun same => apart same.symm
  | _ => exact fun same => apart same.symm

theorem Apart.congr {another : Json} (kind : another.isObject = doc.isObject)
    (apart : Apart doc slot other) : Apart another slot other := by
  cases doc with
  | obj members =>
    cases another with
    | obj others => exact apart
    | _ => cases kind
  | _ =>
    cases another with
    | obj others => cases kind
    | _ => exact apart

theorem getElem?_grow (index : Nat) (value : Json) (items : List Json) (other : Nat) :
    (grow index value items)[other]? =
      if other = index then some value
      else if other < items.length then items[other]?
      else if other < index then some .null else none := by
  rw [grow, List.getElem?_set, List.length_append, List.length_replicate, List.getElem?_append,
    List.getElem?_replicate]
  by_cases same : index = other
  · subst same
    rw [if_pos rfl, if_pos (by omega), if_pos rfl]
  · rw [if_neg same, if_neg (Ne.symm same)]
    by_cases held : other < items.length
    · rw [if_pos held, if_pos held]
    · rw [if_neg held, if_neg held]
      by_cases before : other < index
      · rw [if_pos before, if_pos (by omega)]
      · rw [if_neg before, if_neg (by omega)]

theorem length_grow (index : Nat) (value : Json) (items : List Json) :
    (grow index value items).length = max items.length (index + 1) := by
  rw [grow, List.length_set, List.length_append, List.length_replicate]
  omega

theorem grow_comm {first second : Nat} (apart : first ≠ second) (one another : Json)
    (items : List Json) : grow first one (grow second another items) =
      grow second another (grow first one items) := by
  refine List.ext_getElem? fun other => ?_
  simp only [getElem?_grow, length_grow]
  split_ifs <;> first | rfl | omega

theorem replace_assign (slot : Slot) (first second doc : Json) :
    slot.replace second (slot.assign first doc) = slot.assign second doc := by
  cases doc with
  | obj members => exact congrArg Json.obj (Members.put_put slot.key first second members)
  | arr items =>
    cases found : slot.index? with
    | none => simp [replace, assign, found]
    | some index => simp [replace, assign, found, grow]
  | _ => rfl

/-- At a place that is there, replacing and assigning are the same. -/
theorem replace_eq_assign {held : Json} (present : slot.child? doc = some held) (value : Json) :
    slot.replace value doc = slot.assign value doc := by
  cases doc with
  | obj members => rfl
  | arr items =>
    obtain ⟨index, found, there⟩ := Option.bind_eq_some_iff.mp present
    obtain ⟨bounded, -⟩ := List.getElem?_eq_some_iff.mp there
    have full : index + 1 - items.length = 0 := by omega
    simp [replace, assign, found, grow, full]
  | _ => cases present

theorem child?_replace {held : Json} (present : slot.child? doc = some held) (value : Json) :
    slot.child? (slot.replace value doc) = some value := by
  cases doc with
  | obj members => exact Members.get?_put_self slot.key value members
  | arr items =>
    obtain ⟨index, place, found⟩ := Option.bind_eq_some_iff.mp present
    obtain ⟨within, -⟩ := List.getElem?_eq_some_iff.mp found
    simp only [Slot.child?, Slot.replace, place, Option.bind_some, List.getElem?_set_self within]
  | _ => cases present

/-- Replacing a value by itself changes nothing. -/
theorem replace_child (present : slot.child? doc = some value) :
    slot.replace value doc = doc := by
  cases doc with
  | obj members => exact congrArg Json.obj (Members.put_of_get? present)
  | arr items =>
    obtain ⟨index, place, found⟩ := Option.bind_eq_some_iff.mp present
    obtain ⟨within, rfl⟩ := List.getElem?_eq_some_iff.mp found
    simp only [replace, place, List.set_getElem_self]
  | _ => cases present

theorem assign_arr (found : slot.index? = some index) (value : Json) (items : List Json) :
    slot.assign value (.arr items) = .arr (grow index value items) := by
  simp [assign, found]

theorem assign_arr_of_none (missing : slot.index? = none) (value : Json) (items : List Json) :
    slot.assign value (.arr items) = .arr items := by
  simp [assign, missing]

private theorem set_alike {others : List Json} {written : Json}
    (each : List.Forall₂ Json.Alike items others) (alike : value.Alike written) (index : Nat) :
    List.Forall₂ Json.Alike (items.set index value) (others.set index written) := by
  induction each generalizing index with
  | nil => exact .nil
  | cons first later ih =>
    cases index with
    | zero => exact .cons alike later
    | succ index => exact .cons first (ih index)

theorem grow_alike {others : List Json} {written : Json}
    (each : List.Forall₂ Json.Alike items others) (alike : value.Alike written) (index : Nat) :
    List.Forall₂ Json.Alike (grow index value items) (grow index written others) := by
  rw [grow, grow, each.length_eq]
  refine set_alike (List.rel_append each ?_) alike index
  exact List.forall₂_same.mpr fun item _ => .refl item

theorem hasDistinctKeys_assign (distinct : HasDistinctKeys doc) (value : Json) :
    HasDistinctKeys (slot.assign value doc) := by
  cases doc with
  | obj members =>
    change ((Members.put slot.key value members).map (·.1)).Nodup
    by_cases held : slot.key ∈ members.map (·.1)
    · rw [Members.put_eq_map value held distinct, List.map_map]
      exact distinct
    · rw [Members.put_of_not_mem held, List.map_append]
      exact List.nodup_append_comm.mp (List.nodup_cons.mpr ⟨held, distinct⟩)
  | arr items =>
    unfold assign
    dsimp only
    split <;> trivial
  | _ => trivial

theorem assign_comm (apart : Apart doc slot other) (value written : Json) :
    Json.Alike (slot.assign value (other.assign written doc))
      (other.assign written (slot.assign value doc)) := by
  cases doc with
  | obj members => exact .shuffle (Members.put_comm apart value written members)
  | arr items =>
    cases own : slot.index? with
    | none =>
      cases found : other.index? with
      | none => simp only [assign_arr_of_none own, assign_arr_of_none found]; exact .refl _
      | some further => simp only [assign_arr_of_none own, assign_arr found]; exact .refl _
    | some index =>
      cases found : other.index? with
      | none => simp only [assign_arr own, assign_arr_of_none found]; exact .refl _
      | some further =>
        have ne : index ≠ further := fun same => apart (by rw [own, found, same])
        simp only [assign_arr own, assign_arr found, grow_comm ne]
        exact .refl _
  | _ => exact .refl _

/-- Putting values that are alike at a place keeps documents alike. -/
theorem assign_alike {another written : Json} (alike : doc.Alike another)
    (values : value.Alike written) (distinct : HasDistinctKeys doc) :
    (slot.assign value doc).Alike (slot.assign written another) := by
  have array {items others : List Json} (each : List.Forall₂ Json.Alike items others)
      {value : Json} (values : value.Alike written) :
      (slot.assign value (.arr items)).Alike (slot.assign written (.arr others)) := by
    cases own : slot.index? with
    | none =>
      rw [assign_arr_of_none own, assign_arr_of_none own]
      exact .of_items each
    | some index =>
      rw [assign_arr own, assign_arr own]
      exact .of_items (grow_alike each values index)
  have object {members others : Members} (each : Json.AlikeMembers members others)
      {value : Json} (values : value.Alike written) :
      (slot.assign value (.obj members)).Alike (slot.assign written (.obj others)) :=
    .of_members (Members.put_alike each values)
  induction alike generalizing value with
  | refl doc =>
    cases doc with
    | obj members => exact object (List.forall₂_same.mpr fun member _ => ⟨rfl, .refl _⟩) values
    | arr items => exact array (List.forall₂_same.mpr fun item _ => .refl item) values
    | _ => exact .refl _
  | trans one two ihOne ihTwo =>
    exact (ihOne values distinct).trans (ihTwo (.refl _) (one.hasDistinctKeys distinct))
  | @shuffle members others same =>
    have shuffled : Json.Alike (.obj (Members.put slot.key value members))
        (.obj (Members.put slot.key value others)) := .shuffle (Members.put_perm same distinct)
    exact shuffled.trans (object (List.forall₂_same.mpr fun member _ => ⟨rfl, .refl _⟩) values)
  | members each =>
    refine object ?_ values
    rw [Json.AlikeMembers, List.forall₂_map_left_iff, List.forall₂_map_right_iff]
    exact List.forall₂_same.mpr fun pair present => ⟨rfl, each pair present⟩
  | items each =>
    refine array ?_ values
    rw [List.forall₂_map_left_iff, List.forall₂_map_right_iff]
    exact List.forall₂_same.mpr each

end Spec.Slot

end Reshape
