import Mathlib.Algebra.BigOperators.Group.Multiset.Basic
import Reshape.Proofs.Outcome
import Reshape.Traversal

namespace Reshape

namespace Json

mutual

/-- The scalars in a document, each as often as it stands there; nulls are no data. -/
def leaves : Json → Multiset Json
  | .null => 0
  | .bool value => {.bool value}
  | .num value => {.num value}
  | .str value => {.str value}
  | .arr items => itemLeaves items
  | .obj members => memberLeaves members

def itemLeaves : List Json → Multiset Json
  | [] => 0
  | item :: rest => leaves item + itemLeaves rest

def memberLeaves : Members → Multiset Json
  | [] => 0
  | (_, value) :: rest => leaves value + memberLeaves rest

end

/-- The scalars at a place; without a value there are none. -/
def placeLeaves : Option Json → Multiset Json
  | none => 0
  | some value => value.leaves

theorem itemLeaves_append (items more : List Json) :
    itemLeaves (items ++ more) = itemLeaves items + itemLeaves more := by
  induction items with
  | nil => simp [itemLeaves]
  | cons item rest ih => simp only [List.cons_append, itemLeaves, ih, add_assoc]

@[simp]
theorem itemLeaves_replicate_null (count : Nat) :
    itemLeaves (List.replicate count .null) = 0 := by
  induction count with
  | zero => rfl
  | succ count ih => simp [List.replicate_succ, itemLeaves, leaves, ih]

/-- Replacing an item exchanges its scalars. -/
theorem itemLeaves_set {items : List Json} {index : Nat} (bounded : index < items.length)
    (value : Json) :
    itemLeaves (items.set index value) + placeLeaves items[index]? =
      itemLeaves items + value.leaves := by
  induction items generalizing index with
  | nil => cases bounded
  | cons item rest ih =>
    cases index with
    | zero =>
      simp only [List.set_cons_zero, itemLeaves, List.getElem?_cons_zero, placeLeaves]
      rw [add_comm, add_comm value.leaves, add_assoc]
    | succ index =>
      have later := ih (Nat.lt_of_succ_lt_succ bounded)
      simp only [List.set_cons_succ, itemLeaves, List.getElem?_cons_succ, add_assoc, later]

/-- Putting a member exchanges the scalars under its key. -/
theorem memberLeaves_put (key : String) (value : Json) (members : Members) :
    memberLeaves (Members.put key value members) + placeLeaves (Members.get? key members) =
      memberLeaves members + value.leaves := by
  induction members with
  | nil => simp [Members.put, Members.get?, memberLeaves, placeLeaves]
  | cons member rest ih =>
    by_cases same : member.1 = key
    · simp only [Members.put, Members.get?, if_pos same, memberLeaves, placeLeaves]
      rw [add_comm, add_comm value.leaves, add_assoc]
    · simp only [Members.put, Members.get?, if_neg same, memberLeaves, add_assoc, ih]

end Json

open Json

variable {kind : StepKind} {key : String} {value data doc : Json}

/-- An array that is filled up with nulls gains no scalars. -/
theorem itemLeaves_growTo {index : Nat} {items grown : List Json}
    (filled : growTo? index items = some grown) :
    index < grown.length ∧ itemLeaves grown = itemLeaves items ∧
      placeLeaves grown[index]? = placeLeaves items[index]? := by
  obtain ⟨-, built⟩ := Option.ite_none_left_eq_some.mp filled
  cases built
  refine ⟨?_, ?_, ?_⟩
  · rw [List.length_append, List.length_replicate]
    omega
  · rw [itemLeaves_append, itemLeaves_replicate_null, add_zero]
  · by_cases inside : index < items.length
    · rw [List.getElem?_append_left inside]
    · have outside : items.length ≤ index := Nat.le_of_not_lt inside
      rw [List.getElem?_append_right outside, List.getElem?_eq_none outside,
        List.getElem?_replicate]
      split <;> rfl

namespace StepKind

/-- A value that is put at a place exchanges the scalars there. -/
theorem leaves_putChild? {written : Json} (put : kind.putChild? key value doc = some written) :
    written.leaves + placeLeaves (kind.child? key doc) = doc.leaves + value.leaves := by
  unfold putChild? at put
  split at put
  case h_1 members =>
    cases put
    exact memberLeaves_put key value members
  case h_2 items =>
    obtain ⟨index, read, put⟩ := Option.bind_eq_some_iff.mp put
    obtain ⟨grown, filled, rfl⟩ := Option.map_eq_some_iff.mp put
    obtain ⟨bounded, same, place⟩ := itemLeaves_growTo filled
    have exchanged := itemLeaves_set bounded value
    rw [place, same] at exchanged
    simpa only [child?, read, Option.bind_some, leaves] using exchanged
  case h_3 items =>
    obtain ⟨-, built⟩ := Option.ite_none_right_eq_some.mp put
    cases built
    simp [child?, leaves, placeLeaves, itemLeaves_append, itemLeaves]
  case h_4 => cases put

theorem leaves_replaceChild (value : Json) {old : Json} (present : kind.child? key doc = some old) :
    (kind.replaceChild key value doc).leaves + old.leaves = doc.leaves + value.leaves := by
  unfold child? at present
  split at present
  case h_1 members =>
    have exchanged := memberLeaves_put key value members
    rw [present] at exchanged
    exact exchanged
  case h_2 items =>
    obtain ⟨index, read, present⟩ := Option.bind_eq_some_iff.mp present
    have bounded := (List.getElem?_eq_some_iff.mp present).1
    have exchanged := itemLeaves_set bounded value
    rw [present] at exchanged
    simpa only [replaceChild, read, leaves, placeLeaves] using exchanged
  case h_3 => cases present

@[simp]
theorem leaves_emptyContainer : kind.emptyContainer.leaves = 0 := by
  cases kind <;> rfl

end StepKind

namespace Route

def gained (done : Bool) (data : Json) : Multiset Json :=
  if done then data.leaves else 0

@[simp]
theorem gained_true : gained true data = data.leaves := rfl

@[simp]
theorem gained_false : gained false data = 0 := rfl

private theorem leaves_joined (old : Json) :
    (joined old data).leaves = old.leaves + data.leaves := by
  cases old with
  | arr items => simp [joined, leaves, itemLeaves_append, itemLeaves]
  | _ => simp [joined, leaves, itemLeaves]

private theorem leaves_put (free : placeLeaves (kind.child? key doc) = 0) :
    (put kind key data doc).2.leaves = doc.leaves + gained (put kind key data doc).1 data := by
  unfold put
  cases stored : kind.putChild? key data doc with
  | none => simp
  | some written =>
    have exchanged := StepKind.leaves_putChild? stored
    rw [free, add_zero] at exchanged
    simpa using exchanged

/-- A collecting write at the last step adds the scalars of the data, or nothing. -/
theorem leaves_setLast :
    (setLast .collect kind key data doc).2.leaves =
      doc.leaves + gained (setLast .collect kind key data doc).1 data := by
  unfold setLast
  split
  case h_1 overwrites => cases overwrites
  case h_2 present => exact leaves_put (by rw [present]; rfl)
  case h_3 present => exact leaves_put (by rw [present]; rfl)
  case h_4 old _ _ present =>
    have exchanged := StepKind.leaves_replaceChild (joined old data) present
    rw [leaves_joined, add_comm old.leaves, ← add_assoc] at exchanged
    exact add_right_cancel exchanged

/-- A value that is created where there is no data adds its own scalars, and if it can
not be put there the document stays as it is. -/
theorem leaves_create (free : placeLeaves (kind.child? key doc) = 0) {done : Bool} {below : Json}
    (created : below.leaves = gained done data) :
    let outcome := match kind.putChild? key below doc with
      | some written => (done, written)
      | none => (false, doc)
    outcome.2.leaves = doc.leaves + gained outcome.1 data := by
  cases stored : kind.putChild? key below doc with
  | none => simp
  | some written =>
    have exchanged := StepKind.leaves_putChild? stored
    rw [free, add_zero, created] at exchanged
    exact exchanged

/-- A collecting write adds the scalars of the data if it says so, and nothing else. -/
theorem leaves_set (route : Route) (doc : Json) :
    (set .collect data route doc).2.leaves =
      doc.leaves + gained (set .collect data route doc).1 data := by
  induction route generalizing doc with
  | nil => simp [set]
  | cons step rest ih =>
    obtain ⟨kind, key⟩ := step
    cases rest with
    | nil => exact leaves_setLast
    | cons following later =>
      obtain ⟨next, nextKey⟩ := following
      have created := ih next.emptyContainer
      rw [StepKind.leaves_emptyContainer, zero_add] at created
      unfold set
      split
      case h_1 absent => exact leaves_create (by rw [absent]; rfl) created
      case h_2 absent => exact leaves_create (by rw [absent]; rfl) created
      case h_3 child _ present =>
        have exchanged := StepKind.leaves_replaceChild
          (set .collect data ((next, nextKey) :: later) child).2 present
        rw [ih, add_comm child.leaves, ← add_assoc] at exchanged
        exact add_right_cancel exchanged

end Route

/-- A collecting write: where it goes, under which keys, and what it writes. -/
structure Write where
  steps : Traversal
  keys : List String
  data : Json

namespace Write

/-- Makes one write: what it answers and the document after it, which is the same if the
keys do not fit the steps. -/
def apply (write : Write) (doc : Json) : Except RunError Bool × Json :=
  match write.steps.set .collect write.keys write.data doc with
  | .ok (done, written) => (.ok done, written)
  | .error e => (.error e, doc)

/-- Makes writes one after the other: their answers and the last document. -/
def run : List Write → Json → List (Except RunError Bool) × Json
  | [], doc => ([], doc)
  | write :: rest, doc =>
    let (answer, written) := write.apply doc
    let (answers, final) := run rest written
    (answer :: answers, final)

def made : Except RunError Bool → Bool
  | .ok done => done
  | .error _ => false

/-- The scalars of the data of the writes that were made. -/
def taken : List Write → List (Except RunError Bool) → Multiset Json
  | write :: rest, answer :: answers => Route.gained (made answer) write.data + taken rest answers
  | _, _ => 0

/-- One write adds the scalars of its data if it was made, and nothing else. -/
theorem leaves_apply (write : Write) (doc : Json) :
    (write.apply doc).2.leaves =
      doc.leaves + Route.gained (made (write.apply doc).1) write.data := by
  unfold apply Traversal.set
  cases write.steps.route write.keys with
  | error e => exact (add_zero _).symm
  | ok route => exact Route.leaves_set route doc

/-- After any writes in any order a document has the scalars that it had before and those
of the data of exactly the writes that were made. -/
theorem run_conserves (writes : List Write) (doc : Json) :
    (run writes doc).2.leaves = doc.leaves + taken writes (run writes doc).1 := by
  induction writes generalizing doc with
  | nil => exact (add_zero _).symm
  | cons write rest ih =>
    have step := leaves_apply write doc
    have later := ih (write.apply doc).2
    rw [step, add_assoc] at later
    exact later

end Write

end Reshape
