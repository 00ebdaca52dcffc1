import Reshape.Json.Entries
import Reshape.Proofs.Spec.Placing

/-! Documents without double keys that are equal up to the order of members. They have values
that are such twins in the same places, and what is done to both of them entry by entry or
place by place leaves twins. -/

namespace Reshape

open Decimal Spec

/-- Values that may be missing are related in two steps if they are related in each. -/
theorem rel_trans {α β γ : Type} {first : α → β → Prop} {second : β → γ → Prop}
    {both : α → γ → Prop} (compose : ∀ {a b c}, first a b → second b c → both a c)
    {x : Option α} {y : Option β} {z : Option γ} (one : Option.Rel first x y)
    (two : Option.Rel second y z) : Option.Rel both x z := by
  cases one with
  | none => cases two; exact .none
  | some same =>
    cases two with
    | some also => exact .some (compose same also)

theorem rel_refl {α : Type} {related : α → α → Prop} {x : Option α}
    (refl : ∀ a ∈ x, related a a) : Option.Rel related x x := by
  cases x with
  | none => exact .none
  | some a => exact .some (refl a rfl)

theorem rel_symm {α β : Type} {related : α → β → Prop} {reversed : β → α → Prop}
    (reverse : ∀ {a b}, related a b → reversed b a) {x : Option α} {y : Option β}
    (both : Option.Rel related x y) : Option.Rel reversed y x := by
  cases both with
  | none => exact .none
  | some same => exact .some (reverse same)

namespace Json

variable {doc other third value written : Json} {slot : Slot}

namespace Alike

theorem symm (alike : Alike doc other) : Alike other doc := by
  induction alike with
  | refl doc => exact .refl doc
  | trans _ _ one two => exact two.trans one
  | shuffle same => exact .shuffle same.symm
  | @members pairs _ ih =>
    refine .of_members ?_
    rw [AlikeMembers, List.forall₂_map_left_iff, List.forall₂_map_right_iff]
    exact List.forall₂_same.mpr fun pair present => ⟨rfl, ih pair present⟩
  | items _ ih =>
    refine .of_items ?_
    rw [List.forall₂_map_left_iff, List.forall₂_map_right_iff]
    exact List.forall₂_same.mpr ih

theorem keyed (alike : Alike doc other) (keyed : doc.Keyed) : other.Keyed := by
  induction alike with
  | refl doc => exact keyed
  | trans _ _ one two => exact two (one keyed)
  | @shuffle members others same =>
    cases keyed with
    | scalar plain => cases plain
    | object distinct each =>
      refine .object ((same.map (·.1)).nodup_iff.mp distinct) fun member present => ?_
      exact each member (same.mem_iff.mpr present)
  | @members pairs _ ih =>
    cases keyed with
    | scalar plain => cases plain
    | object distinct each =>
      refine .object ?_ (List.forall_mem_map.mpr fun pair present => ?_)
      · rw [List.map_map] at distinct ⊢
        exact distinct
      · exact ih pair present (List.forall_mem_map.mp each pair present)
  | @items pairs _ ih =>
    cases keyed with
    | scalar plain => cases plain
    | array each =>
      refine .array (List.forall_mem_map.mpr fun pair present => ?_)
      exact ih pair present (List.forall_mem_map.mp each pair present)

theorem isArray_eq (alike : Alike doc other) : doc.isArray = other.isArray := by
  induction alike with
  | refl doc => rfl
  | trans _ _ one two => exact one.trans two
  | _ => rfl

theorem isContainer_eq (alike : Alike doc other) : doc.isContainer = other.isContainer := by
  rw [isContainer, isContainer, alike.isArray_eq, alike.isObject_eq]

/-- Documents that are alike are two objects or two arrays, or one scalar. -/
inductive Kinds : Json → Json → Prop where
  | objects (members others : Members) : Kinds (.obj members) (.obj others)
  | arrays (items others : List Json) : Kinds (.arr items) (.arr others)
  | scalar {doc : Json} (plain : doc.isContainer = false) : Kinds doc doc

theorem kinds (alike : Alike doc other) : Kinds doc other := by
  induction alike with
  | refl doc =>
    cases doc with
    | obj members => exact .objects members members
    | arr items => exact .arrays items items
    | _ => exact .scalar rfl
  | trans _ _ one two =>
    cases one with
    | objects members _ =>
      cases two with
      | objects _ others => exact .objects members others
      | scalar plain => cases plain
    | arrays items _ =>
      cases two with
      | arrays _ others => exact .arrays items others
      | scalar plain => cases plain
    | scalar plain => exact two
  | shuffle _ => exact .objects _ _
  | members _ => exact .objects _ _
  | items _ => exact .arrays _ _

theorem isNull_eq (alike : Alike doc other) : doc.isNull = other.isNull := by
  induction alike with
  | refl doc => rfl
  | trans _ _ one two => exact one.trans two
  | _ => rfl

theorem keyText?_eq (alike : Alike doc other) : doc.keyText? = other.keyText? := by
  induction alike with
  | refl doc => rfl
  | trans _ _ one two => exact one.trans two
  | _ => rfl

end Alike

end Json

open Json

namespace Members

variable {key : String} {value : Json} {members others : Members}

theorem get?_eq_some_iff (distinct : (members.map (·.1)).Nodup) :
    get? key members = some value ↔ (key, value) ∈ members := by
  refine ⟨mem_of_get?, fun present => ?_⟩
  have found := get?_map (f := fun _ value => value) distinct present
  rwa [List.map_id'' fun member => rfl] at found

theorem get?_perm (same : members.Perm others) (distinct : (members.map (·.1)).Nodup) :
    get? key members = get? key others := by
  refine Option.ext fun value => ?_
  rw [get?_eq_some_iff distinct, get?_eq_some_iff ((same.map _).nodup_iff.mp distinct)]
  exact same.mem_iff

theorem get?_alike (each : AlikeMembers members others) :
    Option.Rel Alike (get? key members) (get? key others) := by
  induction each with
  | nil => exact .none
  | @cons member other _ _ first _ ih =>
    obtain ⟨same, alike⟩ := first
    rw [get?, get?, ← same]
    split
    · exact .some alike
    · exact ih

theorem eq_or_mem_of_mem_put {entry : String × Json} (present : entry ∈ put key value members) :
    entry.2 = value ∨ entry ∈ members := by
  induction members with
  | nil =>
    rw [List.mem_singleton.mp present]
    exact .inl rfl
  | cons member rest ih =>
    rw [put] at present
    split at present
    · rcases List.mem_cons.mp present with rfl | later
      · exact .inl rfl
      · exact .inr (List.mem_cons_of_mem _ later)
    · rcases List.mem_cons.mp present with rfl | later
      · exact .inr List.mem_cons_self
      · exact (ih later).imp_right (List.mem_cons_of_mem _)

end Members

namespace Json

variable {doc other third value written : Json} {slot : Slot}

/-- Two documents are equal up to the order of members, and no key stands twice in them. -/
structure Twins (doc other : Json) : Prop where
  alike : doc.Alike other
  keyed : doc.Keyed

namespace Twins

theorem refl (keyed : doc.Keyed) : Twins doc doc := ⟨.refl doc, keyed⟩

theorem symm (twins : Twins doc other) : Twins other doc :=
  ⟨twins.alike.symm, twins.alike.keyed twins.keyed⟩

theorem trans (one : Twins doc other) (two : Twins other third) : Twins doc third :=
  ⟨one.alike.trans two.alike, one.keyed⟩

/-- Twins have twins at the same places. -/
theorem child? (twins : Twins doc other) (slot : Slot) :
    Option.Rel Twins (slot.child? doc) (slot.child? other) := by
  have related : Option.Rel Alike (slot.child? doc) (slot.child? other) := by
    obtain ⟨alike, keyed⟩ := twins
    induction alike with
    | refl doc => exact rel_refl fun held _ => .refl held
    | trans one _ ihOne ihTwo =>
      exact rel_trans (fun one two => one.trans two) (ihOne keyed) (ihTwo (one.keyed keyed))
    | @shuffle members others same =>
      have equal : slot.child? (.obj members) = slot.child? (.obj others) :=
        Members.get?_perm same keyed.hasDistinctKeys
      rw [equal]
      exact rel_refl fun held _ => .refl held
    | @members pairs each _ =>
      refine Members.get?_alike ?_
      rw [AlikeMembers, List.forall₂_map_left_iff, List.forall₂_map_right_iff]
      exact List.forall₂_same.mpr fun pair present => ⟨rfl, each pair present⟩
    | @items pairs each _ =>
      simp only [Slot.child?]
      cases slot.index? with
      | none => exact .none
      | some index =>
        simp only [Option.bind_some, List.getElem?_map]
        cases found : pairs[index]? with
        | none => exact .none
        | some pair => exact .some (each pair (List.mem_of_getElem? found))
  generalize found : slot.child? doc = held, slot.child? other = also at related
  cases related with
  | none => exact .none
  | some alike => exact .some ⟨alike, Slot.keyed_child? twins.keyed found⟩

section Agree

variable {ε α : Type} {related : α → α → Prop} {f g h : Json → Except ε α}

/-- What is made of a document is related to what is made of a twin of it, or both fail. -/
def Agree (related : α → α → Prop) (f g : Json → Except ε α) : Prop :=
  ∀ value other, Twins value other → Outcome.Both related (f value) (g other)

theorem Agree.trans (one : Agree related f g) (two : Agree related g h)
    (compose : ∀ {a b c}, related a b → related b c → related a c) : Agree related f h := by
  intro value other twins
  refine Outcome.Both.trans ?_ (one value value (.refl twins.keyed)) (two value other twins)
  exact compose

/-- What agrees with something makes related results of twins itself. -/
theorem Agree.self (agree : Agree related f g) (symm : ∀ {a b}, related a b → related b a)
    (trans : ∀ {a b c}, related a b → related b c → related a c) : Agree related f f := by
  intro value other twins
  have back : Outcome.Both related (g other) (f other) :=
    (agree other other (.refl twins.symm.keyed)).symm symm
  refine Outcome.Both.trans ?_ (agree value other twins) back
  exact trans

theorem Agree.trans_rel {f g h : Json → Except ε (Option Json)}
    (one : Agree (Option.Rel Twins) f g) (two : Agree (Option.Rel Twins) g h) :
    Agree (Option.Rel Twins) f h :=
  one.trans two (rel_trans fun one two => one.trans two)

theorem Agree.self_rel {f g : Json → Except ε (Option Json)}
    (agree : Agree (Option.Rel Twins) f g) : Agree (Option.Rel Twins) f f :=
  agree.self (rel_symm fun same => same.symm) (rel_trans fun one two => one.trans two)

end Agree

section Entries

variable {ε : Type} {f g : String → Json → Except ε (Option Json)} {members others : Members}

/-- Two changes of entries make twins of twins under one key, and drop both or none. -/
def EntriesAgree (f g : String → Json → Except ε (Option Json)) : Prop :=
  ∀ key, Agree (Option.Rel Twins) (f key) (g key)

/-- Members under the same keys with values that are twins. -/
def TwinMembers : Members → Members → Prop :=
  List.Forall₂ fun member other => member.1 = other.1 ∧ Twins member.2 other.2

theorem of_members (each : TwinMembers members others) (distinct : (members.map (·.1)).Nodup) :
    Twins (.obj members) (.obj others) where
  alike := .of_members (each.imp fun _ _ related => ⟨related.1, related.2.alike⟩)
  keyed := by
    refine .object distinct fun member present => ?_
    obtain ⟨index, bounded, rfl⟩ := List.mem_iff_getElem.mp present
    exact (each.get bounded (each.length_eq ▸ bounded)).2.keyed

theorem of_items {items others : List Json} (each : List.Forall₂ Twins items others) :
    Twins (.arr items) (.arr others) where
  alike := .of_items (each.imp fun _ _ => alike)
  keyed := by
    refine .array fun item present => ?_
    obtain ⟨index, bounded, rfl⟩ := List.mem_iff_getElem.mp present
    exact (each.get bounded (each.length_eq ▸ bounded)).keyed

theorem forall₂_reduceOption {α β : Type} {related : α → β → Prop} {xs : List (Option α)}
    {ys : List (Option β)} (each : List.Forall₂ (Option.Rel related) xs ys) :
    List.Forall₂ related xs.reduceOption ys.reduceOption := by
  induction each with
  | nil => exact .nil
  | cons first _ ih =>
    cases first with
    | none => exact ih
    | some same => exact .cons same ih

/-- A member with what becomes of its value. -/
def entry (f : String → Json → Except ε (Option Json)) (member : String × Json) :
    Except ε (Option (String × Json)) :=
  (f member.1 member.2).map (Option.map (member.1, ·))

/-- The entries that are left keep their keys. -/
theorem keys_sublist {results : List (Option (String × Json))}
    (ran : members.mapM (entry f) = .ok results) :
    (results.reduceOption.map (·.1)).Sublist (members.map (·.1)) := by
  have related := Outcome.mapM_eq_ok.mp ran
  clear ran
  induction related with
  | nil => exact .slnil
  | cons first _ ih =>
    obtain ⟨left, -, rfl⟩ := Outcome.map_eq_ok.mp first
    cases left with
    | none => exact ih.cons _
    | some value => exact ih.cons_cons _

theorem filterMapEntries_obj (members : Members) : (Json.obj members).filterMapEntries f =
    (members.mapM (entry f)).map fun results => .obj results.reduceOption := by
  change (members.filterMapM (entry f)).map obj = _
  rw [Outcome.filterMapM_eq_map]
  cases members.mapM (entry f) <;> rfl

theorem filterMapEntries_arr (items : List Json) : (Json.arr items).filterMapEntries f =
    (items.zipIdx.mapM fun item => f (natText item.2) item.1).map
      fun results => .arr results.reduceOption := by
  change (items.zipIdx.filterMapM fun item => f (natText item.2) item.1).map arr = _
  rw [Outcome.filterMapM_eq_map]
  cases items.zipIdx.mapM fun item => f (natText item.2) item.1 <;> rfl

theorem filterMapEntries_members (agree : EntriesAgree f g) (each : TwinMembers members others)
    (distinct : (members.map (·.1)).Nodup) :
    Outcome.Both Twins ((Json.obj members).filterMapEntries f)
      ((Json.obj others).filterMapEntries g) := by
  rw [filterMapEntries_obj, filterMapEntries_obj]
  have results : Outcome.Both
      (List.Forall₂ (Option.Rel fun member other => member.1 = other.1 ∧ Twins member.2 other.2))
      (members.mapM (entry f)) (others.mapM (entry g)) := by
    refine Outcome.Both.mapM_forall₂ (each.imp fun member other related => ?_)
    obtain ⟨same, twins⟩ := related
    rw [entry, entry, ← same]
    refine (agree member.1 _ _ twins).map fun left => ?_
    cases left with
    | none => exact .none
    | some twins => exact .some ⟨rfl, twins⟩
  refine results.map_of_ok fun ran related => ?_
  exact of_members (forall₂_reduceOption related) ((keys_sublist ran).nodup distinct)

theorem forall₂_zipIdx {α β : Type} {related : α → β → Prop} {xs : List α} {ys : List β}
    (each : List.Forall₂ related xs ys) (start : Nat) :
    List.Forall₂ (fun first second => first.2 = second.2 ∧ related first.1 second.1)
      (xs.zipIdx start) (ys.zipIdx start) := by
  induction each generalizing start with
  | nil => exact .nil
  | cons first _ ih => exact .cons ⟨rfl, first⟩ (ih (start + 1))

private theorem filterMapEntries_items (agree : EntriesAgree f g) {items others : List Json}
    (each : List.Forall₂ Twins items others) :
    Outcome.Both Twins ((Json.arr items).filterMapEntries f)
      ((Json.arr others).filterMapEntries g) := by
  rw [filterMapEntries_arr, filterMapEntries_arr]
  have results : Outcome.Both (List.Forall₂ (Option.Rel Twins))
      (items.zipIdx.mapM fun item => f (natText item.2) item.1)
      (others.zipIdx.mapM fun item => g (natText item.2) item.1) := by
    refine Outcome.Both.mapM_forall₂ ((forall₂_zipIdx each 0).imp fun first second related => ?_)
    obtain ⟨same, twins⟩ := related
    rw [← same]
    exact agree _ _ _ twins
  exact results.map fun related => of_items (forall₂_reduceOption related)

/-- What is made of a document entry by entry does not depend on the order of members. -/
theorem filterMapEntries (agree : EntriesAgree f g) (twins : Twins doc other) :
    Outcome.Both Twins (doc.filterMapEntries f) (other.filterMapEntries g) := by
  have self {members : Members} (keyed : (Json.obj members).Keyed) : TwinMembers members members :=
    List.forall₂_same.mpr fun member present => by
      cases keyed with
      | scalar plain => cases plain
      | object _ each => exact ⟨rfl, .refl (each member present)⟩
  obtain ⟨alike, keyed⟩ := twins
  induction alike generalizing g with
  | refl doc =>
    cases doc with
    | obj members => exact filterMapEntries_members agree (self keyed) keyed.hasDistinctKeys
    | arr items =>
      refine filterMapEntries_items agree (List.forall₂_same.mpr fun item present => ?_)
      cases keyed with
      | scalar plain => cases plain
      | array each => exact .refl (each item present)
    | _ => exact .done (.refl keyed)
  | trans one _ ihOne ihTwo =>
    have first := ihOne (fun key => (agree key).self_rel) keyed
    exact first.trans (fun one two => one.trans two) (ihTwo agree (one.keyed keyed))
  | @shuffle members others same =>
    have kept := filterMapEntries_members (fun key => (agree key).self_rel) (self keyed)
      keyed.hasDistinctKeys
    have moved : Outcome.Both Alike ((Json.obj members).filterMapEntries f)
        ((Json.obj others).filterMapEntries f) := by
      rw [filterMapEntries_obj, filterMapEntries_obj]
      refine (Outcome.Both.mapM_perm same (entry f)).map fun shuffled => .shuffle ?_
      exact shuffled.filterMap id
    have first : Outcome.Both Twins ((Json.obj members).filterMapEntries f)
        ((Json.obj others).filterMapEntries f) := by
      refine moved.imp fun ran _ alike => ⟨alike, ?_⟩
      rw [ran] at kept
      cases kept with
      | done twins => exact twins.keyed
    have after := (Alike.shuffle same).keyed keyed
    exact first.trans (fun one two => one.trans two)
      (filterMapEntries_members agree (self after) after.hasDistinctKeys)
  | @members pairs each _ =>
    refine filterMapEntries_members agree ?_ keyed.hasDistinctKeys
    rw [TwinMembers, List.forall₂_map_left_iff, List.forall₂_map_right_iff]
    refine List.forall₂_same.mpr fun pair present => ⟨rfl, each pair present, ?_⟩
    cases keyed with
    | scalar plain => cases plain
    | object _ below => exact List.forall_mem_map.mp below pair present
  | @items pairs each _ =>
    refine filterMapEntries_items agree ?_
    rw [List.forall₂_map_left_iff, List.forall₂_map_right_iff]
    refine List.forall₂_same.mpr fun pair present => ⟨each pair present, ?_⟩
    cases keyed with
    | scalar plain => cases plain
    | array below => exact List.forall_mem_map.mp below pair present

private theorem mapEntries_eq (g : String → Json → Except ε Json) (doc : Json) :
    doc.mapEntries g = doc.filterMapEntries fun key value => (g key value).map some := by
  cases doc with
  | obj members =>
    rw [mapEntries, Json.filterMapEntries, ← Outcome.filterMapM_some]
    refine congrArg (Except.map obj) (congrArg (List.filterMapM · members) ?_)
    funext ⟨key, value⟩
    dsimp only
    cases g key value <;> rfl
  | arr items =>
    rw [mapEntries, Json.filterMapEntries, ← Outcome.filterMapM_some]
  | _ => rfl

theorem mapEntries {f g : String → Json → Except ε Json}
    (agree : ∀ key, Agree Twins (f key) (g key)) (twins : Twins doc other) :
    Outcome.Both Twins (doc.mapEntries f) (other.mapEntries g) := by
  rw [mapEntries_eq, mapEntries_eq]
  exact filterMapEntries (fun key _ _ twins => (agree key _ _ twins).map .some) twins

end Entries

end Twins

end Json

namespace Spec.Slot

variable {slot : Slot} {doc other value written : Json} {doomed gone : List Slot}

private theorem keyed_assign (keyed : doc.Keyed) (value_keyed : value.Keyed) :
    (slot.assign value doc).Keyed := by
  cases doc with
  | obj members =>
    refine .object (hasDistinctKeys_assign keyed.hasDistinctKeys value) fun member present => ?_
    rcases Members.eq_or_mem_of_mem_put present with same | held
    · rwa [same]
    · cases keyed with
      | scalar plain => cases plain
      | object _ each => exact each member held
  | arr items =>
    cases own : slot.index? with
    | none => rwa [assign_arr_of_none own]
    | some index =>
      rw [assign_arr own]
      refine .array fun item present => ?_
      obtain ⟨place, found⟩ := List.mem_iff_getElem?.mp present
      rw [getElem?_grow] at found
      split_ifs at found
      · cases found
        exact value_keyed
      · cases keyed with
        | scalar plain => cases plain
        | array each => exact each item (List.mem_of_getElem? found)
      · cases found
        exact .scalar rfl
  | _ => exact keyed

theorem assign_twins (twins : Json.Twins doc other) (values : Json.Twins value written) :
    Json.Twins (slot.assign value doc) (slot.assign written other) :=
  ⟨assign_alike twins.alike values.alike twins.keyed.hasDistinctKeys,
    keyed_assign twins.keyed values.keyed⟩

theorem replace_eq (slot : Slot) (value doc : Json) : slot.replace value doc =
    if doc.isObject || (slot.child? doc).isSome then slot.assign value doc else doc := by
  cases doc with
  | obj members => rfl
  | arr items =>
    cases held : slot.child? (.arr items) with
    | some found => exact replace_eq_assign held value
    | none =>
      change slot.replace value (.arr items) = .arr items
      cases own : slot.index? with
      | none => simp [replace, own]
      | some index =>
        have past : items.length ≤ index := by simpa [Slot.child?, own] using held
        simp [replace, own, List.set_eq_of_length_le past]
  | _ => rfl

theorem replace_twins (twins : Json.Twins doc other) (values : Json.Twins value written) :
    Json.Twins (slot.replace value doc) (slot.replace written other) := by
  have held : (slot.child? doc).isSome = (slot.child? other).isSome := by
    have related := twins.child? slot
    generalize slot.child? doc = held, slot.child? other = also at related
    cases related <;> rfl
  rw [replace_eq, replace_eq, twins.alike.isObject_eq, held]
  split
  · exact assign_twins twins values
  · exact twins

/-- Replacing what is at another place changes nothing at a place. -/
theorem child?_replace_of_apart {place : Slot} (apart : Apart doc slot place) (value : Json) :
    place.child? (slot.replace value doc) = place.child? doc := by
  cases doc with
  | obj members => exact Members.get?_put_of_ne (Ne.symm apart) value members
  | arr items =>
    cases own : slot.index? with
    | none => simp [replace, own]
    | some index =>
      cases found : place.index? with
      | none => simp [replace, own, Slot.child?, found]
      | some further =>
        have ne : index ≠ further := fun same => apart (by rw [own, found, same])
        simp [replace, own, Slot.child?, found, List.getElem?_set_ne ne]
  | _ => rfl

theorem replace_comm {place : Slot} (apart : Apart doc slot place) (value written : Json) :
    (slot.replace value (place.replace written doc)).Alike
      (place.replace written (slot.replace value doc)) := by
  cases doc with
  | obj members => exact .shuffle (Members.put_comm apart value written members)
  | arr items =>
    cases own : slot.index? with
    | none => cases found : place.index? <;> simp only [replace, own, found] <;> exact .refl _
    | some index =>
      cases found : place.index? with
      | none => simp only [replace, own, found]; exact .refl _
      | some further =>
        have ne : index ≠ further := fun same => apart (by rw [own, found, same])
        simp only [replace, own, found, List.set_comm _ _ ne]
        exact .refl _
  | _ => exact .refl _

theorem ofInput_perm (twins : Json.Twins doc other) : (ofInput doc).Perm (ofInput other) := by
  obtain ⟨alike, keyed⟩ := twins
  clear keyed
  induction alike with
  | refl doc => exact .refl _
  | trans _ _ one two => exact one.trans two
  | shuffle same => exact same.map _
  | members _ => exact .of_eq (by simp [ofInput, ofContainer, Function.comp_def])
  | items _ => exact .of_eq (by simp [ofInput, ofContainer])

theorem ofPresent?_eq (alike : doc.Alike other) (text : String) :
    ofPresent? text doc = ofPresent? text other := by
  induction alike with
  | refl doc => rfl
  | trans _ _ one two => exact one.trans two
  | @shuffle members others same =>
    have held : Members.has text members = Members.has text others := by
      rw [Bool.eq_iff_iff, Members.has_iff, Members.has_iff]
      exact (same.map _).mem_iff
    rw [ofPresent?, ofPresent?, held]
  | @members pairs _ =>
    have held : Members.has text (pairs.map fun pair => (pair.1, pair.2.1)) =
        Members.has text (pairs.map fun pair => (pair.1, pair.2.2)) := by
      rw [Bool.eq_iff_iff, Members.has_iff, Members.has_iff, List.map_map, List.map_map]
      rfl
    rw [ofPresent?, ofPresent?, held]
  | items _ => simp only [ofPresent?, List.length_map]

/-- Which places are dropped does not depend on their order. -/
theorem discard_congr (same : ∀ slot, slot ∈ doomed ↔ slot ∈ gone) (doc : Json) :
    discard doomed doc = discard gone doc := by
  have names (key : String) :
      (doomed.any fun slot => slot.key == key) = gone.any fun slot => slot.key == key := by
    rw [Bool.eq_iff_iff, List.any_eq_true, List.any_eq_true]
    exact exists_congr fun slot => and_congr_left fun _ => same slot
  have indices (index : Nat) : (doomed.filterMap (·.index)).contains index =
      (gone.filterMap (·.index)).contains index := by
    rw [Bool.eq_iff_iff, List.contains_iff_mem, List.contains_iff_mem, List.mem_filterMap,
      List.mem_filterMap]
    exact exists_congr fun slot => and_congr_left fun _ => same slot
  cases doc with
  | obj members => simp only [discard, names]
  | arr items => simp only [discard, indices]
  | _ => rfl

private theorem discard_alike (alike : doc.Alike other) (doomed : List Slot) :
    (discard doomed doc).Alike (discard doomed other) := by
  induction alike with
  | refl doc => exact .refl _
  | trans _ _ one two => exact one.trans two
  | shuffle same => exact .shuffle (same.filter _)
  | @members pairs each _ =>
    have related : Json.AlikeMembers (pairs.map fun pair => (pair.1, pair.2.1))
        (pairs.map fun pair => (pair.1, pair.2.2)) := by
      rw [Json.AlikeMembers, List.forall₂_map_left_iff, List.forall₂_map_right_iff]
      exact List.forall₂_same.mpr fun pair present => ⟨rfl, each pair present⟩
    exact .of_members (List.rel_filter (fun _ _ same => by dsimp only; rw [same.1]) related)
  | @items pairs each _ =>
    have related : List.Forall₂ Json.Alike (pairs.map (·.1)) (pairs.map (·.2)) := by
      rw [List.forall₂_map_left_iff, List.forall₂_map_right_iff]
      exact List.forall₂_same.mpr each
    refine .of_items ?_
    rw [List.forall₂_map_left_iff, List.forall₂_map_right_iff]
    have kept := List.rel_filter (p := fun item => !(doomed.filterMap (·.index)).contains item.2)
      (q := fun item => !(doomed.filterMap (·.index)).contains item.2)
      (fun _ _ same => by dsimp only; rw [same.1]) (Json.Twins.forall₂_zipIdx related 0)
    exact kept.imp fun _ _ same => same.2

private theorem discard_keyed (keyed : doc.Keyed) (doomed : List Slot) :
    (discard doomed doc).Keyed := by
  cases doc with
  | obj members =>
    cases keyed with
    | scalar plain => cases plain
    | object distinct each =>
      refine .object ((List.filter_sublist.map _).nodup distinct) fun member present => ?_
      exact each member (List.mem_of_mem_filter present)
  | arr items =>
    cases keyed with
    | scalar plain => cases plain
    | array each =>
      refine .array (List.forall_mem_map.mpr fun item present => ?_)
      exact each item.1 (List.fst_mem_of_mem_zipIdx (List.mem_of_mem_filter present))
  | _ => exact keyed

theorem discard_twins (twins : Json.Twins doc other) (same : ∀ slot, slot ∈ doomed ↔ slot ∈ gone) :
    Json.Twins (discard doomed doc) (discard gone other) := by
  rw [discard_congr same]
  exact ⟨discard_alike twins.alike gone, discard_keyed twins.keyed gone⟩

end Spec.Slot

end Reshape
