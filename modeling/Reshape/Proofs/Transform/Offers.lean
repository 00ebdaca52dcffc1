import Reshape.Proofs.Spec.Handling
import Reshape.Transform.Filter
import Reshape.Transform.Modify
import Reshape.Transform.Shift

namespace Reshape.Transform

open Key Spec Outcome

variable {α β : Type} {w : Walk} {key : String} {counts : β → Bool} {missed : β}

/-- An element decides about an answer: it is `missed` for the keys that the element does
not match, and counts for those that it matches. -/
def Decides (w : Walk) (key : String) (counts : β → Bool) (missed : β) (element : Element)
    (answer : Except RunError β) : Prop :=
  match element.match? w key with
  | .error e => answer = .error e
  | .ok none => answer = .ok missed
  | .ok (some _) => ∀ found, answer = .ok found → counts found = true

/-- A loop that asks children one after the other until an answer counts. -/
structure AsksInOrder (counts : β → Bool) (missed : β) (ask : Element × α → Except RunError β)
    (offer : List (Element × α) → Except RunError β) : Prop where
  nil : offer [] = .ok missed
  passed : ∀ {child rest}, ask child = .ok missed → offer (child :: rest) = offer rest
  taken : ∀ {child rest}, (∀ found, ask child = .ok found → counts found = true) →
    offer (child :: rest) = ask child

theorem Decides.of_match {element : Element} {more : Match → Except RunError β}
    (counted : ∀ matched found, more matched = .ok found → counts found = true) :
    Decides w key counts missed element (do
      match ← element.match? w key with
      | none => .ok missed
      | some matched => more matched) := by
  unfold Decides
  cases element.match? w key with
  | error e => rfl
  | ok found =>
    cases found with
    | none => rfl
    | some matched => exact counted matched

/-- A loop over children that decide by their elements goes on with the first match. -/
theorem AsksInOrder.eq_firstMatch {ask : Element × α → Except RunError β}
    {offer : List (Element × α) → Except RunError β} (asks : AsksInOrder counts missed ask offer)
    {children : List (Element × α)}
    (decides : ∀ child ∈ children, Decides w key counts missed child.1 (ask child)) :
    offer children =
      (firstMatch w key children >>= fun found => found.elim (.ok missed) ask) := by
  induction children with
  | nil => exact asks.nil
  | cons child rest ih =>
    obtain ⟨first, later⟩ := List.forall_mem_cons.mp decides
    unfold Decides at first
    rw [firstMatch]
    cases matching : child.1.match? w key with
    | error e =>
      have failed : ask child = .error e := by simpa only [matching] using first
      rw [asks.taken (by simp [failed]), failed]
      rfl
    | ok found =>
      cases found with
      | none =>
        have passed : ask child = .ok missed := by simpa only [matching] using first
        rw [asks.passed passed, ih later]
        rfl
      | some matched =>
        rw [asks.taken (by simpa only [matching] using first)]
        rfl

namespace Shift

private theorem branchData_of_role {element : Element} (plain : element.role ≠ .special)
    (data : Option Json) (w : Walk) : branchData element data w = .ok (some data) := by
  unfold branchData
  split
  · exact absurd rfl plain
  · rfl

private theorem leafData_of_role {element : Element} (plain : element.role ≠ .special)
    (matched : Match) (data : Option Json) (w : Walk) :
    leafData element matched data w = .ok (some (data, true)) := by
  unfold leafData
  split
  · exact absurd rfl plain
  · exact absurd rfl plain
  · exact absurd rfl plain
  · exact absurd rfl plain
  · rfl

theorem run_decides {element : Element} (plain : element.role ≠ .special) (t : Node)
    (data : Option Json) (output : Json) :
    Decides w key (·.1) (false, output) element (run t element key data w output) := by
  cases t with
  | leaf paths =>
    rw [run, Tree.fold]
    refine Decides.of_match fun matched found ran => ?_
    rw [leafData_of_role plain, ok_bind] at ran
    obtain ⟨inner, -, ran⟩ := bind_eq_ok.mp ran
    cases data with
    | none =>
      cases ran
      rfl
    | some value =>
      obtain ⟨written, -, ran⟩ := bind_eq_ok.mp ran
      cases ran
      rfl
  | branch info children =>
    rw [run, Tree.fold_branch]
    refine Decides.of_match fun matched found ran => ?_
    rw [branchData_of_role plain, ok_bind] at ran
    obtain ⟨inner, -, ran⟩ := bind_eq_ok.mp ran
    obtain ⟨⟨after, written⟩, -, ran⟩ := bind_eq_ok.mp ran
    cases data with
    | none =>
      cases ran
      rfl
    | some node =>
      obtain ⟨⟨last, done⟩, -, ran⟩ := bind_eq_ok.mp ran
      cases ran
      rfl

end Shift

namespace Filter

def Verdict.isDecided : Verdict → Bool
  | .unmatched => false
  | _ => true

/-- What a compiled node says about a value. -/
def judge : Node → Judge :=
  Tree.fold judgeLeaf judgeBranch

private theorem judge_decides (element : Element) (t : Node) (value : Json) :
    Decides w key Verdict.isDecided .unmatched element (judge t element key value w) := by
  cases t with
  | leaf predicates =>
    rw [judge, Tree.fold]
    refine Decides.of_match fun matched verdict ran => ?_
    obtain ⟨inner, -, ran⟩ := bind_eq_ok.mp ran
    obtain ⟨passes, -, ran⟩ := bind_eq_ok.mp ran
    split at ran
    · cases ran
      rfl
    · cases ran
      rfl
  | branch info children =>
    rw [judge, Tree.fold_branch]
    refine Decides.of_match fun matched verdict ran => ?_
    obtain ⟨inner, -, ran⟩ := bind_eq_ok.mp ran
    obtain ⟨sifted, -, rfl⟩ := map_eq_ok.mp ran
    rfl

/-- The value at a place is judged by the first candidate that matches its key. -/
theorem offer_eq_firstMatch (candidates : List (Element × Node)) {slot : Slot} {s : Sifted}
    {value : Json} (held : slot.child? s.node = some value) :
    offer slot w s (candidates.map fun child => (child.1, judge child.2)) =
      (firstMatch w slot.key candidates >>= fun found =>
        found.elim (.ok .unmatched) fun child => judge child.2 child.1 slot.key value w) := by
  have asked (element : Element) (act : Judge) :
      s.ask slot w element act = act element slot.key value w := by
    rw [Sifted.ask, held]
  have asks : AsksInOrder Verdict.isDecided .unmatched
      (fun child : Element × Node => judge child.2 child.1 slot.key value w) fun children =>
        offer slot w s (children.map fun child => (child.1, judge child.2)) := by
    refine ⟨rfl, fun passed => ?_, fun {child rest} counted => ?_⟩
    · rw [List.map_cons, offer, asked, passed]
      rfl
    · rw [List.map_cons, offer, asked]
      cases answer : judge child.2 child.1 slot.key value w with
      | error e => rfl
      | ok verdict =>
        have decided := counted _ answer
        cases verdict with
        | unmatched => cases decided
        | keep kept => rfl
        | drop => rfl
  exact asks.eq_firstMatch fun child _ => judge_decides child.1 child.2 value

end Filter

namespace Modify

variable {mode : WriteMode} {slot : Slot}

private theorem run_decides (element : Element) (t : Node) (context : Json) (snapshot : Option Json)
    (parent : Json) : Decides w slot.key Option.isSome none element
      (run mode context t element slot snapshot w parent) := by
  cases t with
  | leaf formula =>
    rw [run, Tree.fold]
    refine Decides.of_match fun matched found ran => ?_
    obtain ⟨inner, -, ran⟩ := bind_eq_ok.mp ran
    obtain ⟨computed, -, ran⟩ := bind_eq_ok.mp ran
    cases computed with
    | none =>
      cases ran
      rfl
    | some value =>
      cases ran
      rfl
  | branch declared children =>
    rw [run, Tree.fold_branch]
    refine Decides.of_match fun matched found ran => ?_
    dsimp only at ran
    split at ran
    · cases ran
      rfl
    · split at ran
      · obtain ⟨inner, -, ran⟩ := bind_eq_ok.mp ran
        obtain ⟨node, -, ran⟩ := bind_eq_ok.mp ran
        cases ran
        rfl
      · cases ran
        rfl

/-- A place is handled by the first candidate that matches its key. -/
theorem offer_eq_firstMatch (candidates : List (Element × Node)) (context : Json)
    (snapshot : Option Json) (parent : Json) :
    offer slot snapshot w parent
        (candidates.map fun child => (child.1, run mode context child.2)) =
      (firstMatch w slot.key candidates >>= fun found =>
        found.elim (.ok none) fun child =>
          run mode context child.2 child.1 slot snapshot w parent) := by
  have asks : AsksInOrder Option.isSome none
      (fun child : Element × Node => run mode context child.2 child.1 slot snapshot w parent)
      fun children => offer slot snapshot w parent
        (children.map fun child => (child.1, run mode context child.2)) := by
    refine ⟨rfl, fun passed => ?_, fun {child rest} counted => ?_⟩
    · rw [List.map_cons, offer, passed]
      rfl
    · rw [List.map_cons, offer]
      cases answer : run mode context child.2 child.1 slot snapshot w parent with
      | error e => rfl
      | ok found =>
        obtain ⟨changed, rfl⟩ := Option.isSome_iff_exists.mp (counted _ answer)
        rfl
  exact asks.eq_firstMatch fun child _ => run_decides child.1 child.2 context snapshot parent

end Modify

end Reshape.Transform
