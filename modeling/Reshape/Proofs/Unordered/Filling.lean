import Reshape.Proofs.Spec.Rounds
import Reshape.Proofs.Transform.Assignment
import Reshape.Transform.Default

namespace Reshape.Transform.Default

open Key Spec Outcome Decimal

variable {doc other node value filled written : Json} {w : Walk} {text label : String}
  {container : Container}

/-- What a default sees at the place of a text: nothing is null to it. -/
def seen (text : String) (node : Json) : Json :=
  ((Slot.member text).child? node).getD .null

/-- Whether the place of a text can have a value: it has one, is a member of an object, or is
in reach of an array. -/
def reaches (text : String) (node : Json) : Bool :=
  !(seen text node).isNull || node.isObject ||
    node.isArray && (readIndex text).any fun index => decide (index ≤ maxIndex)

/-- The container with a value at the place of a text, if that can have one. -/
def settle (text : String) (value node : Json) : Json :=
  if reaches text node then (Slot.member text).assign value node else node

private theorem permits_eq_reaches (vacant : (seen text node).isNull = true) :
    WriteMode.fill.permits (.member text) none node = reaches text node := by
  rw [reaches, vacant]
  cases node with
  | obj members =>
    have held : ((Members.get? text members).getD .null).isNull = true := vacant
    change WriteMode.fill.allowsMember members text = true
    rw [WriteMode.allowsMember]
    cases found : Members.get? text members with
    | none => rfl
    | some value =>
      rw [found] at held
      cases value <;> first | rfl | cases held
  | arr items =>
    have place : (Slot.member text).index? = readIndex text := rfl
    cases read : readIndex text with
    | none => simp [WriteMode.permits, place, read, Json.isObject, Json.isArray]
    | some index =>
      have held : ((items[index]?).getD .null).isNull = true := by
        simpa only [seen, Slot.child?, place, read, Option.bind_some] using vacant
      have allowed : WriteMode.fill.allowsItem items index items.length = true := by
        rw [WriteMode.allowsItem]
        cases found : items[index]? with
        | none => rfl
        | some value =>
          rw [found] at held
          cases value <;> first | rfl | cases held
      simp [WriteMode.permits, place, read, allowed, Json.isObject, Json.isArray]
  | _ => rfl

/-- Filling a place settles what an action makes of what is seen there. -/
theorem fillPlace_eq (w : Walk) (text : String) (act : Action) (node : Json) :
    fillPlace w text act node =
      (act (.ofKey text) w (seen text node)).map (settle text · node) := by
  have created (vacant : (seen text node).isNull = true) (x : Except RunError Json) :
      (x >>= fun filled => .ok (WriteMode.fill.write (.member text) filled none node)) =
        x.map (settle text · node) := by
    have told (filled : Json) : WriteMode.fill.write (.member text) filled none node =
        settle text filled node := by
      rw [WriteMode.write_eq, permits_eq_reaches vacant, settle]
    simp only [told]
    cases x <;> rfl
  unfold fillPlace
  dsimp only
  cases held : (Slot.member text).child? node with
  | none =>
    have same : seen text node = .null := by rw [seen, held]; rfl
    rw [same]
    exact created (by rw [same]; rfl) _
  | some value =>
    have same : seen text node = value := by rw [seen, held]; rfl
    rw [same]
    cases value with
    | null => exact created (by rw [same]; rfl) _
    | _ =>
      have reached : reaches text node = true := by rw [reaches, same]; rfl
      simp only [settle, reached, if_true, Slot.replace_eq_assign held]
      generalize act (.ofKey text) w _ = x
      cases x <;> rfl

theorem seen_twins (twins : doc.Twins other) (text : String) :
    (seen text doc).Twins (seen text other) := by
  have held := twins.child? (Slot.member text)
  rw [seen, seen]
  generalize (Slot.member text).child? doc = value, (Slot.member text).child? other = also at held
  cases held with
  | none => exact .refl (.scalar rfl)
  | some same => exact same

private theorem reaches_eq (twins : doc.Twins other) (text : String) :
    reaches text doc = reaches text other := by
  rw [reaches, reaches, (seen_twins twins text).alike.isNull_eq, twins.alike.isObject_eq,
    twins.alike.isArray_eq]

theorem settle_twins (twins : doc.Twins other) (values : value.Twins written) (text : String) :
    (settle text value doc).Twins (settle text written other) := by
  rw [settle, settle, reaches_eq twins]
  split
  · exact Slot.assign_twins twins values
  · exact twins

theorem accepts_eq (container : Container) (alike : doc.Alike other) :
    container.accepts doc = container.accepts other := by
  cases container with
  | object => exact alike.isObject_eq
  | array => exact alike.isArray_eq

/-- Putting a value somewhere leaves the kind of a container. -/
theorem kinds_settle (text : String) (value node : Json) :
    (settle text value node).isObject = node.isObject ∧
      (settle text value node).isArray = node.isArray := by
  rw [settle]
  split
  · cases node with
    | arr items =>
      cases own : (Slot.member text).index? with
      | none => rw [Slot.assign_arr_of_none own]; exact ⟨rfl, rfl⟩
      | some index => rw [Slot.assign_arr own]; exact ⟨rfl, rfl⟩
    | _ => exact ⟨rfl, rfl⟩
  · exact ⟨rfl, rfl⟩

theorem accepts_settle (container : Container) (text : String) (value node : Json) :
    container.accepts (settle text value node) = container.accepts node := by
  cases container with
  | object => exact (kinds_settle text value node).1
  | array => exact (kinds_settle text value node).2

/-- Two texts are different members of an object, or different indices in an array. -/
def ApartTexts (container : Container) (text label : String) : Prop :=
  text ≠ label ∧ (container = .array → ∀ index,
    readIndex text = some index → readIndex label ≠ some index)

theorem ApartTexts.symm (apart : ApartTexts container text label) :
    ApartTexts container label text :=
  ⟨apart.1.symm, fun array index read also => apart.2 array index also read⟩

/-- A place that can have a value is apart from those of other texts. -/
theorem apart_of_reaches (apart : ApartTexts container text label)
    (accepted : container.accepts node = true) (reached : reaches text node = true) :
    Slot.Apart node (.member text) (.member label) := by
  cases node with
  | obj members => exact apart.1
  | arr items =>
    cases container with
    | object => cases accepted
    | array =>
      cases read : readIndex text with
      | none =>
        have place : (Slot.member text).index? = readIndex text := rfl
        simp [reaches, seen, Slot.child?, place, read, Json.isNull, Json.isObject] at reached
      | some index =>
        intro same
        have also : readIndex label = some index := read ▸ same.symm
        exact apart.2 rfl index read also
  | _ => cases container <;> cases accepted

private theorem seen_assign (apart : Slot.Apart node (.member text) (.member label))
    (value : Json) : seen label ((Slot.member text).assign value node) = seen label node := by
  cases node with
  | obj members =>
    exact congrArg (Option.getD · _) (Members.get?_put_of_ne (Ne.symm apart) value members)
  | arr items =>
    cases own : (Slot.member text).index? with
    | none => rw [Slot.assign_arr_of_none own]
    | some index =>
      rw [Slot.assign_arr own]
      cases found : (Slot.member label).index? with
      | none => simp only [seen, Slot.child?, found, Option.bind_none]
      | some further =>
        have ne : further ≠ index := fun same => apart (by rw [own, found, same])
        simp only [seen, Slot.child?, found, Option.bind_some, Slot.getElem?_grow, if_neg ne]
        by_cases held : further < items.length
        · rw [if_pos held]
        · rw [if_neg held, List.getElem?_eq_none (Nat.le_of_not_lt held)]
          split <;> rfl
  | _ => rfl

theorem seen_settle (apart : ApartTexts container text label)
    (accepted : container.accepts node = true) (value : Json) :
    seen label (settle text value node) = seen label node := by
  rw [settle]
  split
  · rename_i reached
    exact seen_assign (apart_of_reaches apart accepted reached) value
  · rfl

private theorem reaches_settle (apart : ApartTexts container text label)
    (accepted : container.accepts node = true) (value : Json) :
    reaches label (settle text value node) = reaches label node := by
  rw [reaches, reaches, seen_settle apart accepted, (kinds_settle text value node).1,
    (kinds_settle text value node).2]

theorem settle_comm (apart : ApartTexts container text label)
    (accepted : container.accepts node = true) (value written : Json) :
    (settle label written (settle text value node)).Alike
      (settle text value (settle label written node)) := by
  have one := reaches_settle apart accepted value
  have two := reaches_settle apart.symm accepted written
  rw [settle, one]
  conv => rhs; rw [settle, two]
  simp only [settle]
  by_cases first : reaches text node = true
  · by_cases second : reaches label node = true
    · simp only [if_pos first, if_pos second]
      exact Slot.assign_comm (apart_of_reaches apart accepted first).symm written value
    · simp only [if_pos first, if_neg second]
      exact .refl _
  · simp only [if_neg first]
    exact .refl _

end Reshape.Transform.Default
