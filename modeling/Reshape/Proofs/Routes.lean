import Reshape.Proofs.Spec.Placing
import Reshape.Traversal

namespace Reshape

open Decimal Spec

namespace StepKind

variable {kind : StepKind} {key other : String} {value held doc out : Json} {index : Nat}
  {items : List Json}

/-- Whether a document is the kind of container that the step goes through. -/
def accepts : StepKind → Json → Bool
  | member, doc => doc.isObject
  | item, doc => doc.isArray
  | append, doc => doc.isArray

/-- The key is one that the step can be taken with: an array does not grow past the largest
index, and a new item has no other key than empty brackets. -/
def Fits : StepKind → String → Prop
  | member, _ => True
  | item, key => ∃ index ≤ maxIndex, readIndex key = some index
  | append, key => key = "[]"

/-- The keys name one entry: the same member, or items with the same index. -/
def SameEntry : StepKind → String → String → Prop
  | item, key, other => readIndex key = readIndex other
  | _, key, other => key = other

theorem emptyContainer_accepts (kind : StepKind) : kind.accepts kind.emptyContainer = true := by
  cases kind <;> rfl

theorem child?_emptyContainer (kind container : StepKind) (key : String) :
    kind.child? key container.emptyContainer = none := by
  cases kind <;> cases container <;> first | rfl | simp [child?, emptyContainer]

theorem accepts_of_child? (present : kind.child? key doc = some value) :
    kind.accepts doc = true := by
  cases kind <;> cases doc <;> first | rfl | exact nomatch present

theorem SameEntry.child? (same : kind.SameEntry key other) (doc : Json) :
    kind.child? key doc = kind.child? other doc := by
  cases kind with
  | item =>
    cases doc with
    | arr items => exact congrArg (Option.bind · fun index => items[index]?) same
    | _ => rfl
  | _ => exact congrArg (StepKind.child? _ · doc) same

theorem putChild?_item : putChild? item key value (.arr items) = some out ↔
    ∃ index, readIndex key = some index ∧ index ≤ maxIndex ∧
      out = .arr (Slot.grow index value items) := by
  simp only [putChild?, growTo?, Option.bind_eq_some_iff, Option.map_eq_some_iff,
    Option.ite_none_left_eq_some, Option.some_inj]
  constructor
  · rintro ⟨index, read, grown, ⟨within, rfl⟩, rfl⟩
    exact ⟨index, read, Nat.le_of_not_lt within, rfl⟩
  · rintro ⟨index, read, within, rfl⟩
    exact ⟨index, read, _, ⟨Nat.not_lt.mpr within, rfl⟩, rfl⟩

/-- A step puts a value under each key that fits it. -/
theorem exists_putChild? (accepted : kind.accepts doc = true) (fits : kind.Fits key)
    (value : Json) : ∃ out, kind.putChild? key value doc = some out := by
  cases kind with
  | member =>
    cases doc with
    | obj members => exact ⟨_, rfl⟩
    | _ => cases accepted
  | item =>
    cases doc with
    | arr items =>
      obtain ⟨index, within, read⟩ := fits
      exact ⟨_, putChild?_item.mpr ⟨index, read, within, rfl⟩⟩
    | _ => cases accepted
  | append =>
    cases doc with
    | arr items => exact ⟨_, if_pos fits⟩
    | _ => cases accepted

theorem child?_putChild? (closed : kind ≠ append)
    (written : kind.putChild? key value doc = some out) : kind.child? key out = some value := by
  cases kind with
  | member =>
    cases doc with
    | obj members =>
      cases written
      exact Members.get?_put_self key value members
    | _ => cases written
  | item =>
    cases doc with
    | arr items =>
      obtain ⟨index, read, -, rfl⟩ := putChild?_item.mp written
      rw [child?, read, Option.bind_some, Slot.getElem?_grow, if_pos rfl]
    | _ => cases written
  | append => exact absurd rfl closed

/-- Putting a value leaves the other entries, but an array may have been padded with nulls. -/
theorem child?_putChild?_of_apart (apart : ¬ kind.SameEntry key other)
    (written : kind.putChild? key value doc = some out) :
    kind.child? other out = kind.child? other doc ∨
      kind = item ∧ kind.child? other doc = none ∧ kind.child? other out = some .null := by
  cases kind with
  | member =>
    cases doc with
    | obj members =>
      cases written
      exact .inl (Members.get?_put_of_ne (Ne.symm apart) value members)
    | _ => cases written
  | item =>
    cases doc with
    | arr items =>
      obtain ⟨index, read, -, rfl⟩ := putChild?_item.mp written
      cases further : readIndex other with
      | none => exact .inl (by simp only [child?, further, Option.bind_none])
      | some place =>
        have ne : place ≠ index := by
          rintro rfl
          exact apart (read.trans further.symm)
        simp only [child?, further, Option.bind_some, Slot.getElem?_grow, if_neg ne]
        by_cases within : place < items.length
        · exact .inl (if_pos within)
        · have missing : items[place]? = none := List.getElem?_eq_none (Nat.le_of_not_lt within)
          rw [if_neg within, missing]
          by_cases padded : place < index
          · exact .inr ⟨trivial, rfl, if_pos padded⟩
          · exact .inl (if_neg padded)
    | _ => cases written
  | append =>
    cases doc with
    | arr items =>
      obtain ⟨-, built⟩ := Option.ite_none_right_eq_some.mp written
      cases built
      exact .inl rfl
    | _ => cases written

theorem replaceChild_item (present : item.child? key (.arr items) = some held) (value : Json) :
    ∃ index, readIndex key = some index ∧ items[index]? = some held ∧
      item.replaceChild key value (.arr items) = .arr (items.set index value) := by
  obtain ⟨index, read, found⟩ := Option.bind_eq_some_iff.mp present
  exact ⟨index, read, found, by rw [replaceChild, read]⟩

theorem child?_replaceChild (present : kind.child? key doc = some held) (value : Json) :
    kind.child? key (kind.replaceChild key value doc) = some value := by
  cases kind with
  | member =>
    cases doc with
    | obj members => exact Members.get?_put_self key value members
    | _ => cases present
  | item =>
    cases doc with
    | arr items =>
      obtain ⟨index, read, found, replaced⟩ := replaceChild_item present value
      obtain ⟨bounded, -⟩ := List.getElem?_eq_some_iff.mp found
      rw [replaced, child?, read, Option.bind_some, List.getElem?_set_self bounded]
    | _ => cases present
  | append => cases present

theorem child?_replaceChild_of_apart (apart : ¬ kind.SameEntry key other)
    (present : kind.child? key doc = some held) (value : Json) :
    kind.child? other (kind.replaceChild key value doc) = kind.child? other doc := by
  cases kind with
  | member =>
    cases doc with
    | obj members => exact Members.get?_put_of_ne (Ne.symm apart) value members
    | _ => cases present
  | item =>
    cases doc with
    | arr items =>
      obtain ⟨index, read, -, replaced⟩ := replaceChild_item present value
      rw [replaced, child?, child?]
      refine Option.bind_congr fun place further => List.getElem?_set_ne ?_
      rintro rfl
      exact apart (read.trans further.symm)
    | _ => cases present
  | append => cases present

/-- A value that takes its own place changes nothing. -/
theorem replaceChild_self (present : kind.child? key doc = some held) :
    kind.replaceChild key held doc = doc := by
  cases kind with
  | member =>
    cases doc with
    | obj members =>
      refine congrArg Json.obj ?_
      have found : Members.get? key members = some held := present
      clear present
      induction members with
      | nil => cases found
      | cons entry rest ih =>
        rw [Members.get?] at found
        rw [Members.put]
        split at found
        · rename_i same
          cases found
          exact if_pos same
        · rename_i further
          rw [if_neg further, ih found]
    | _ => cases present
  | item =>
    cases doc with
    | arr items =>
      obtain ⟨index, -, found, replaced⟩ := replaceChild_item present held
      obtain ⟨bounded, rfl⟩ := List.getElem?_eq_some_iff.mp found
      rw [replaced, List.set_getElem_self]
    | _ => cases present
  | append => cases present

end StepKind

namespace Route

variable {kind : StepKind} {key : String} {doc child : Json} {rest : Route}

/-- Where nothing is, a write goes on in an empty container, which is then put there. -/
theorem set_vacant_step (policy : WritePolicy) (data : Json) (next : StepKind × String)
    (rest : Route) (vacant : kind.child? key doc = none ∨ kind.child? key doc = some .null) :
    set policy data ((kind, key) :: next :: rest) doc =
      match kind.putChild? key (set policy data (next :: rest) next.1.emptyContainer).2 doc with
      | some written => ((set policy data (next :: rest) next.1.emptyContainer).1, written)
      | none => (false, doc) := by
  obtain ⟨next, nextKey⟩ := next
  cases stored : kind.putChild? key
      (set policy data ((next, nextKey) :: rest) next.emptyContainer).2 doc with
  | none => rcases vacant with missing | null <;> simp only [set, *]
  | some written => rcases vacant with missing | null <;> simp only [set, *]

/-- Where a value is, a write goes on in it, and what it becomes takes its place. -/
theorem set_present_step (policy : WritePolicy) (data : Json) (next : StepKind × String)
    (rest : Route) (present : kind.child? key doc = some child) (held : child ≠ .null) :
    set policy data ((kind, key) :: next :: rest) doc =
      ((set policy data (next :: rest) child).1,
        kind.replaceChild key (set policy data (next :: rest) child).2 doc) := by
  obtain ⟨next, nextKey⟩ := next
  cases child with
  | null => exact absurd rfl held
  | _ => simp only [set, present]

/-- A place is vacant, or a value is there. -/
theorem vacant_or_present (kind : StepKind) (key : String) (doc : Json) :
    (kind.child? key doc = none ∨ kind.child? key doc = some .null) ∨
      ∃ child, kind.child? key doc = some child ∧ child ≠ .null := by
  cases found : kind.child? key doc with
  | none => exact .inl (.inl rfl)
  | some child =>
    by_cases null : child = .null
    · exact .inl (.inr (congrArg some null))
    · exact .inr ⟨child, rfl, null⟩

end Route

end Reshape
