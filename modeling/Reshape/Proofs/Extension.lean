import Mathlib.Data.List.Forall2
import Reshape.Proofs.Outcome
import Reshape.Proofs.Spec.Slots
import Reshape.Json.Entries
import Reshape.Transform.WriteMode
import Reshape.Walk

/-! When a document extends another one: what is there stays, and more may come after it.
A write that looks at what is there first never takes anything away, and neither does one
that is told how long an array was. -/

namespace Reshape

open Spec Transform

/-- What may become of the nulls of a document. -/
inductive Nulls where
  /-- They may become anything. -/
  | fillable
  /-- They stay. -/
  | kept
deriving DecidableEq, Repr

/-- A document extends another one. Scalars stay as they are. The items of an array stay in
their places, and the keys of an object at the front in their order, and each is extended;
what is new comes after them. -/
inductive Extends (nulls : Nulls) : Json → Json → Prop where
  | filled (fillable : nulls = .fillable) (doc : Json) : Extends nulls .null doc
  | scalar {doc : Json} (plain : doc.isContainer = false) : Extends nulls doc doc
  | array {items kept : List Json} (added : List Json)
      (each : List.Forall₂ (Extends nulls) items kept) :
      Extends nulls (.arr items) (.arr (kept ++ added))
  | object {members kept added : Members} (keys : kept.map (·.1) = members.map (·.1))
      (each : List.Forall₂ (Extends nulls) (members.map (·.2)) (kept.map (·.2)))
      (fresh : ∀ entry ∈ added, entry.1 ∉ members.map (·.1)) :
      Extends nulls (.obj members) (.obj (kept ++ added))

/-- What a mode makes of nulls; one that overwrites keeps nothing. -/
def Transform.WriteMode.nulls? : WriteMode → Option Nulls
  | overwrite => none
  | fill => some .fillable
  | define => some .kept

namespace Members

variable {key : String} {value : Json} {members kept added : Members}

theorem get?_append (key : String) (members more : Members) :
    get? key (members ++ more) = (get? key members).or (get? key more) := by
  induction members with
  | nil => rfl
  | cons member rest ih =>
    by_cases same : member.1 = key
    · simp [get?, same]
    · simp [get?, same, ih]

/-- A key that is there is written there. -/
theorem put_append_of_mem (held : key ∈ members.map (·.1)) (value : Json) (more : Members) :
    put key value (members ++ more) = put key value members ++ more := by
  induction members with
  | nil => cases held
  | cons member rest ih =>
    by_cases same : member.1 = key
    · simp [put, same]
    · have later : key ∈ rest.map (·.1) := by
        rcases List.mem_cons.mp held with first | later
        · exact absurd first.symm same
        · exact later
      simp [put, same, ih later]

theorem put_append_of_not_mem (absent : key ∉ members.map (·.1)) (value : Json) (more : Members) :
    put key value (members ++ more) = members ++ put key value more := by
  induction members with
  | nil => rfl
  | cons member rest ih =>
    rw [List.map_cons, List.mem_cons, not_or] at absent
    obtain ⟨other, later⟩ := absent
    simp [put, Ne.symm other, ih later]

/-- A write brings in no other key. -/
theorem mem_put {entry : String × Json} (present : entry ∈ put key value members) :
    entry.1 = key ∨ entry ∈ members := by
  induction members with
  | nil =>
    rw [List.mem_singleton.mp present]
    exact .inl rfl
  | cons member rest ih =>
    rw [put] at present
    split at present
    · rcases List.mem_cons.mp present with rfl | later
      · exact .inl ‹_›
      · exact .inr (List.mem_cons_of_mem _ later)
    · rcases List.mem_cons.mp present with rfl | later
      · exact .inr List.mem_cons_self
      · exact (ih later).imp_right (List.mem_cons_of_mem _)

end Members

private theorem Json.sizeOf_lt_arr {item : Json} {items : List Json} (present : item ∈ items) :
    sizeOf item < sizeOf (arr items) := by
  have smaller := List.sizeOf_lt_of_mem present
  rw [arr.sizeOf_spec]
  omega

private theorem Json.sizeOf_lt_obj {value : Json} {members : Members}
    (present : value ∈ members.map (·.2)) : sizeOf value < sizeOf (obj members) := by
  obtain ⟨⟨key, held⟩, member, rfl⟩ := List.mem_map.mp present
  have smaller := List.sizeOf_lt_of_mem member
  rw [Prod.mk.sizeOf_spec] at smaller
  rw [obj.sizeOf_spec]
  dsimp only
  omega

namespace Extends

variable {nulls : Nulls} {doc larger value old : Json} {slot : Slot}

theorem refl (nulls : Nulls) : ∀ doc, Extends nulls doc doc
  | .null => .scalar rfl
  | .bool _ => .scalar rfl
  | .num _ => .scalar rfl
  | .str _ => .scalar rfl
  | .arr items => by
    have each := List.forall₂_same.mpr fun item (_ : item ∈ items) => refl nulls item
    simpa using array [] each
  | .obj members => by
    have each := List.forall₂_same.mpr fun value (_ : value ∈ members.map (·.2)) => refl nulls value
    have fresh : ∀ entry ∈ ([] : Members), entry.1 ∉ members.map (·.1) :=
      fun entry absent => nomatch absent
    simpa using object rfl each fresh
termination_by doc => doc
decreasing_by
  · exact Json.sizeOf_lt_arr ‹_›
  · exact Json.sizeOf_lt_obj ‹_›

theorem eq_null (extension : Extends nulls doc .null) : doc = .null := by
  cases extension with
  | filled fillable doc => rfl
  | scalar plain => rfl

section Items

variable {items longer : List Json}

/-- An array is extended place by place. -/
theorem array_iff : Extends nulls (.arr items) (.arr longer) ↔
    ∀ (index : Nat) (old : Json), items[index]? = some old →
      ∃ new, longer[index]? = some new ∧ Extends nulls old new := by
  constructor
  · intro extension index old found
    cases extension with
    | scalar plain => cases plain
    | @array _ kept added each =>
      obtain ⟨bounded, rfl⟩ := List.getElem?_eq_some_iff.mp found
      have within : index < kept.length := each.length_eq ▸ bounded
      refine ⟨kept[index], ?_, each.get bounded within⟩
      rw [List.getElem?_append_left within, List.getElem?_eq_getElem within]
  · intro each
    have bounded : items.length ≤ longer.length := by
      by_contra shorter
      have within : longer.length < items.length := by omega
      obtain ⟨new, found, -⟩ := each longer.length _ (List.getElem?_eq_getElem within)
      rw [List.getElem?_eq_none (Nat.le_refl _)] at found
      cases found
    have kept : List.Forall₂ (Extends nulls) items (longer.take items.length) := by
      refine List.forall₂_iff_get.mpr ⟨by simp [bounded], fun index first second => ?_⟩
      obtain ⟨new, found, extension⟩ := each index _ (List.getElem?_eq_getElem first)
      obtain ⟨within, same⟩ := List.getElem?_eq_some_iff.mp found
      simpa [same] using extension
    have extension := array (longer.drop items.length) kept
    rwa [List.take_append_drop] at extension

theorem set (extension : Extends nulls (.arr items) (.arr longer)) {index : Nat}
    (keeps : ∀ old, items[index]? = some old → Extends nulls old value) :
    Extends nulls (.arr items) (.arr (longer.set index value)) := by
  rw [array_iff] at extension ⊢
  intro place old found
  obtain ⟨new, present, below⟩ := extension place old found
  by_cases same : index = place
  · subst same
    obtain ⟨bounded, -⟩ := List.getElem?_eq_some_iff.mp present
    exact ⟨value, List.getElem?_set_self bounded, keeps old found⟩
  · exact ⟨new, (List.getElem?_set_ne same).trans present, below⟩

theorem append (extension : Extends nulls (.arr items) (.arr longer)) (more : List Json) :
    Extends nulls (.arr items) (.arr (longer ++ more)) := by
  rw [array_iff] at extension ⊢
  intro index old found
  obtain ⟨new, present, below⟩ := extension index old found
  obtain ⟨bounded, -⟩ := List.getElem?_eq_some_iff.mp present
  exact ⟨new, (List.getElem?_append_left bounded).trans present, below⟩

end Items

section Members

variable {members kept added : Members} {key : String}

theorem get?_kept (keys : kept.map (·.1) = members.map (·.1))
    (each : List.Forall₂ (Extends nulls) (members.map (·.2)) (kept.map (·.2)))
    (found : Members.get? key members = some old) :
    ∃ new, Members.get? key kept = some new ∧ Extends nulls old new := by
  induction members generalizing kept with
  | nil => cases found
  | cons member rest ih =>
    cases kept with
    | nil => cases keys
    | cons first more =>
      obtain ⟨name, value⟩ := member
      obtain ⟨rfl, others⟩ := List.cons.inj keys
      cases each with
      | cons below each =>
        by_cases same : first.1 = key
        · simp only [Members.get?, if_pos same] at found ⊢
          cases found
          exact ⟨first.2, rfl, below⟩
        · simp only [Members.get?, if_neg same] at found ⊢
          exact ih others each found

theorem keys_put (held : key ∈ members.map (·.1)) (value : Json) :
    (Members.put key value members).map (·.1) = members.map (·.1) := by
  induction members with
  | nil => cases held
  | cons member rest ih =>
    by_cases same : member.1 = key
    · simp [Members.put, same]
    · have later : key ∈ rest.map (·.1) := by simpa [Ne.symm same] using held
      simp [Members.put, same, ih later]

private theorem put_kept (keys : kept.map (·.1) = members.map (·.1))
    (each : List.Forall₂ (Extends nulls) (members.map (·.2)) (kept.map (·.2)))
    (held : key ∈ members.map (·.1))
    (keeps : ∀ old, Members.get? key members = some old → Extends nulls old value) :
    List.Forall₂ (Extends nulls) (members.map (·.2)) ((Members.put key value kept).map (·.2)) := by
  induction members generalizing kept with
  | nil => cases held
  | cons member rest ih =>
    cases kept with
    | nil => cases keys
    | cons first more =>
      obtain ⟨name, own⟩ := member
      obtain ⟨rfl, others⟩ := List.cons.inj keys
      cases each with
      | cons below each =>
        by_cases same : first.1 = key
        · have kept : Extends nulls own value := keeps own (by simp [Members.get?, same])
          simp only [Members.put, if_pos same]
          exact .cons kept each
        · have later : key ∈ rest.map (·.1) := by simpa [Ne.symm same] using held
          have keeps (old : Json) (found : Members.get? key rest = some old) :
              Extends nulls old value := keeps old (by simpa [Members.get?, same] using found)
          simp only [Members.put, if_neg same]
          exact .cons below (ih others each later keeps)

theorem put {larger : Members} (extension : Extends nulls (.obj members) (.obj larger))
    (keeps : ∀ old, Members.get? key members = some old → Extends nulls old value) :
    Extends nulls (.obj members) (.obj (Members.put key value larger)) := by
  cases extension with
  | scalar plain => cases plain
  | @object _ kept added keys each fresh =>
    by_cases held : key ∈ members.map (·.1)
    · have within : key ∈ kept.map (·.1) := keys ▸ held
      rw [Members.put_append_of_mem within]
      exact object ((keys_put within value).trans keys) (put_kept keys each held keeps) fresh
    · have outside : key ∉ kept.map (·.1) := keys ▸ held
      rw [Members.put_append_of_not_mem outside]
      refine object keys each fun entry present => ?_
      rcases Members.mem_put present with same | older
      · exact same ▸ held
      · exact fresh entry older

theorem get? {larger : Members} (extension : Extends nulls (.obj members) (.obj larger))
    (found : Members.get? key members = some old) :
    ∃ new, Members.get? key larger = some new ∧ Extends nulls old new := by
  cases extension with
  | scalar plain => cases plain
  | @object _ kept added keys each fresh =>
    obtain ⟨new, present, below⟩ := get?_kept keys each found
    exact ⟨new, by rw [Members.get?_append, present, Option.some_or], below⟩

end Members

/-- What is at a place is extended by what is there later. -/
theorem child? (extension : Extends nulls doc larger) (found : slot.child? doc = some old) :
    ∃ new, slot.child? larger = some new ∧ Extends nulls old new := by
  cases doc with
  | obj members =>
    cases extension with
    | scalar plain => cases plain
    | object keys each fresh => exact get? (.object keys each fresh) found
  | arr items =>
    cases extension with
    | scalar plain => cases plain
    | array added each =>
      obtain ⟨index, named, found⟩ := Option.bind_eq_some_iff.mp found
      obtain ⟨new, present, below⟩ := array_iff.mp (.array added each) index old found
      exact ⟨new, Option.bind_eq_some_iff.mpr ⟨index, named, present⟩, below⟩
  | _ => cases found

/-- A place takes any value that extends what was there. -/
theorem replace (extension : Extends nulls doc larger)
    (keeps : ∀ old, slot.child? doc = some old → Extends nulls old value) :
    Extends nulls doc (slot.replace value larger) := by
  cases extension with
  | filled fillable => exact .filled fillable _
  | scalar plain =>
    cases doc with
    | arr items => cases plain
    | obj members => cases plain
    | _ => exact .scalar plain
  | array added each =>
    simp only [Slot.replace]
    split
    · rename_i index named
      refine set (.array added each) fun old found => keeps old ?_
      exact Option.bind_eq_some_iff.mpr ⟨index, named, found⟩
    · exact .array added each
  | object keys each fresh => exact put (.object keys each fresh) keeps

variable {mode : WriteMode}

/-- A member that may be written was not there, or was a null that may be filled. -/
theorem keeps_allowed_member {members larger : Members} {key : String}
    (extension : Extends nulls (.obj members) (.obj larger)) (rule : mode.nulls? = some nulls)
    (allowed : mode.allowsMember larger key = true) (found : Members.get? key members = some old) :
    Extends nulls old value := by
  obtain ⟨new, present, below⟩ := extension.get? found
  cases mode with
  | overwrite => cases rule
  | fill =>
    cases rule
    cases new with
    | null =>
      rw [below.eq_null]
      exact .filled rfl value
    | _ => simp [WriteMode.allowsMember, present] at allowed
  | define => simp [WriteMode.allowsMember, Members.has, present] at allowed

/-- An item that may be written was not there, or was a null that may be filled. -/
theorem keeps_allowed_item {items longer : List Json} {index size : Nat}
    (extension : Extends nulls (.arr items) (.arr longer)) (rule : mode.nulls? = some nulls)
    (measured : mode = .define → size = items.length)
    (allowed : mode.allowsItem longer index size = true) (found : items[index]? = some old) :
    Extends nulls old value := by
  obtain ⟨new, present, below⟩ := array_iff.mp extension index old found
  cases mode with
  | overwrite => cases rule
  | fill =>
    cases rule
    cases new with
    | null =>
      rw [below.eq_null]
      exact .filled rfl value
    | _ => simp [WriteMode.allowsItem, present] at allowed
  | define =>
    obtain ⟨bounded, -⟩ := List.getElem?_eq_some_iff.mp found
    have beyond : size ≤ index := of_decide_eq_true allowed
    have length := measured rfl
    omega

/-- A write keeps what was there if it looks for it, or knows how long an array was. -/
theorem write (extension : Extends nulls doc larger) (rule : mode.nulls? = some nulls)
    {size : Option Nat} (measured : mode = .define → size = doc.arrayLength?) :
    Extends nulls doc (mode.write slot value size larger) := by
  cases extension with
  | filled fillable => exact .filled fillable _
  | scalar plain =>
    cases doc with
    | arr items => cases plain
    | obj members => cases plain
    | _ => exact .scalar plain
  | @array items kept added each =>
    have extension := array added each
    simp only [WriteMode.write]
    split
    · exact extension
    · rename_i index named
      split
      · rename_i allowed
        split
        · rename_i grown grew
          obtain ⟨-, same⟩ := Option.ite_none_left_eq_some.mp grew
          cases same
          refine set (extension.append _) fun old found => ?_
          refine keeps_allowed_item extension rule (fun define => ?_) allowed found
          rw [measured define]
          rfl
        · exact extension
      · exact extension
  | @object members kept added keys each fresh =>
    have extension := object keys each fresh
    simp only [WriteMode.write]
    split
    · rename_i allowed
      exact put extension fun old found => keeps_allowed_member extension rule allowed found
    · exact extension

variable {f : String → Json → Except RunError Json}

private theorem mapMembers {members kept mapped : Members}
    (steps : ∀ key {old value new}, Extends nulls old value → f key value = .ok new →
      Extends nulls old new)
    (each : List.Forall₂ (Extends nulls) (members.map (·.2)) (kept.map (·.2)))
    (ran : kept.mapM (fun member => (f member.1 member.2).map (member.1, ·)) = .ok mapped) :
    mapped.map (·.1) = kept.map (·.1) ∧
      List.Forall₂ (Extends nulls) (members.map (·.2)) (mapped.map (·.2)) := by
  have related := Outcome.mapM_eq_ok.mp ran
  clear ran
  induction related generalizing members with
  | nil => exact ⟨rfl, each⟩
  | cons first rest ih =>
    obtain ⟨new, changed, rfl⟩ := Outcome.map_eq_ok.mp first
    cases members with
    | nil => cases each
    | cons member others =>
      cases each with
      | cons below each =>
        obtain ⟨keys, later⟩ := ih each
        exact ⟨congrArg (_ :: ·) keys, .cons (steps _ below changed) later⟩

/-- A change of each entry that keeps what was there keeps the document. -/
theorem mapEntries (extension : Extends nulls doc larger) {mapped : Json}
    (steps : ∀ key {old value new}, Extends nulls old value → f key value = .ok new →
      Extends nulls old new)
    (ran : larger.mapEntries f = .ok mapped) : Extends nulls doc mapped := by
  cases extension with
  | filled fillable => exact .filled fillable mapped
  | scalar plain =>
    cases doc with
    | arr items => cases plain
    | obj members => cases plain
    | _ =>
      cases ran
      exact .scalar plain
  | @array items kept added each =>
    obtain ⟨changed, done, rfl⟩ := Outcome.map_eq_ok.mp ran
    have related := Outcome.mapM_eq_ok.mp done
    refine array_iff.mpr fun index old found => ?_
    obtain ⟨value, present, below⟩ := array_iff.mp (array added each) index old found
    obtain ⟨bounded, rfl⟩ := List.getElem?_eq_some_iff.mp present
    have within : index < ((kept ++ added).zipIdx).length := by simpa using bounded
    have inside : index < changed.length := related.length_eq ▸ within
    have step := related.get within inside
    simp only [List.get_eq_getElem, List.getElem_zipIdx, Nat.zero_add] at step
    exact ⟨changed[index], List.getElem?_eq_getElem inside, steps _ below step⟩
  | @object members kept added keys each fresh =>
    obtain ⟨changed, done, rfl⟩ := Outcome.map_eq_ok.mp ran
    rw [List.mapM_append] at done
    obtain ⟨front, first, done⟩ := Outcome.bind_eq_ok.mp done
    obtain ⟨back, second, built⟩ := Outcome.bind_eq_ok.mp done
    cases built
    obtain ⟨same, below⟩ := mapMembers steps each first
    refine object (same.trans keys) below fun entry present => ?_
    obtain ⟨source, member, read⟩ := Outcome.exists_of_mapM second present
    obtain ⟨new, -, rfl⟩ := Outcome.map_eq_ok.mp read
    exact fresh source member

end Extends

end Reshape
