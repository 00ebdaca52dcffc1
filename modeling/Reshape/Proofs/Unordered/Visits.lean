import Reshape.Proofs.Spec.Rounds
import Reshape.Transform.Filter

namespace Reshape.Transform.Filter

open Key Spec Outcome

/-- Verdicts that are the same up to the order of members. -/
inductive Verdict.Twins : Verdict → Verdict → Prop where
  | unmatched : Twins .unmatched .unmatched
  | keep {value other : Json} (same : Json.Twins value other) : Twins (.keep value) (.keep other)
  | drop : Twins .drop .drop

namespace Verdict.Twins

variable {first second third : Verdict}

private theorem symm (twins : Twins first second) : Twins second first := by
  cases twins with
  | unmatched => exact .unmatched
  | keep same => exact .keep same.symm
  | drop => exact .drop

theorem trans (one : Twins first second) (two : Twins second third) : Twins first third := by
  cases one with
  | unmatched => exact two
  | keep same =>
    cases two with
    | keep also => exact .keep (same.trans also)
  | drop => exact two

end Verdict.Twins

/-- On a walk two judges say the same about twins. -/
def Agreeing (w : Walk) (element : Element) (f g : Judge) : Prop :=
  ∀ key, Json.Twins.Agree Verdict.Twins (f element key · w) (g element key · w)

theorem Agreeing.self {w : Walk} {element : Element} {f g : Judge}
    (agree : Agreeing w element f g) : Agreeing w element f f :=
  fun key => (agree key).self .symm .trans

variable {doc : Json} {s t : Sifted} {slot place : Slot} {verdict other : Verdict}

/-- Containers under work that are twins, and objects just where a document is one, and that
the same places will go from. -/
structure Sifted.Twins (doc : Json) (s t : Sifted) : Prop where
  node : s.node.Twins t.node
  doomed : ∀ slot, slot ∈ s.doomed ↔ slot ∈ t.doomed
  kind : s.node.isObject = doc.isObject

namespace Sifted

theorem Twins.trans {u : Sifted} (one : Twins doc s t) (two : Twins doc t u) : Twins doc s u :=
  ⟨one.node.trans two.node, fun slot => (one.doomed slot).trans (two.doomed slot), one.kind⟩

private theorem isObject_take (s : Sifted) (slot : Slot) (verdict : Verdict) :
    (s.take slot verdict).node.isObject = s.node.isObject := by
  cases verdict with
  | keep value =>
    change (slot.replace value s.node).isObject = _
    rw [Slot.replace_eq]
    split
    · cases s.node with
      | arr items =>
        cases own : slot.index? with
        | none => rw [Slot.assign_arr_of_none own]
        | some index => rw [Slot.assign_arr own]; rfl
      | _ => rfl
    · rfl
  | _ => rfl

theorem Twins.take (twins : Twins doc s t) (same : Verdict.Twins verdict other) (slot : Slot) :
    Twins doc (s.take slot verdict) (t.take slot other) := by
  obtain ⟨node, doomed, kind⟩ := twins
  have kept : (s.take slot verdict).node.isObject = doc.isObject :=
    (isObject_take s slot verdict).trans kind
  cases same with
  | unmatched => exact ⟨node, doomed, kind⟩
  | keep same => exact ⟨Slot.replace_twins node same, doomed, kept⟩
  | drop =>
    refine ⟨node, fun place => ?_, kind⟩
    simp only [Sifted.take, List.mem_cons, doomed place]

/-- A verdict on another place changes nothing at a place. -/
theorem child?_take (apart : Slot.Apart s.node slot place) (verdict : Verdict) :
    place.child? (s.take slot verdict).node = place.child? s.node := by
  cases verdict with
  | keep value => exact Slot.child?_replace_of_apart apart value
  | _ => rfl

/-- Verdicts on places that are apart can change places. -/
theorem take_comm (self : Twins doc s s) (apart : Slot.Apart s.node slot place)
    (one : Verdict.Twins verdict verdict) (two : Verdict.Twins other other) :
    Twins doc ((s.take slot verdict).take place other)
      ((s.take place other).take slot verdict) := by
  have taken := (self.take one slot).take two place
  refine ⟨⟨?_, taken.node.keyed⟩, fun gone => ?_, taken.kind⟩
  · cases verdict with
    | keep value =>
      cases other with
      | keep written => exact Slot.replace_comm apart.symm written value
      | _ => exact .refl _
    | _ => cases other <;> exact .refl _
  · cases verdict with
    | drop => cases other <;> simp [take, or_left_comm]
    | _ => cases other <;> exact Iff.rfl

end Sifted

variable {α : Type} {f g : Element → α → Judge} {w : Walk}

private theorem ask_twins {element : Element} {first second : Judge}
    (agree : Agreeing w element first second) (slot : Slot) (twins : s.node.Twins t.node) :
    Both Verdict.Twins (s.ask slot w element first) (t.ask slot w element second) := by
  have held := twins.child? slot
  unfold Sifted.ask
  generalize slot.child? s.node = value, slot.child? t.node = also at held
  cases held with
  | none => exact .done .unmatched
  | some same => exact agree slot.key _ _ same

theorem offer_twins {children : List (Element × α)}
    (agree : ∀ child ∈ children, Agreeing w child.1 (f child.1 child.2) (g child.1 child.2))
    (slot : Slot) (twins : s.node.Twins t.node) :
    Both Verdict.Twins (offer slot w s (children.map fun child => (child.1, f child.1 child.2)))
      (offer slot w t (children.map fun child => (child.1, g child.1 child.2))) := by
  induction children with
  | nil => exact .done .unmatched
  | cons child rest ih =>
    obtain ⟨first, later⟩ := List.forall_mem_cons.mp agree
    refine (ask_twins first slot twins).bind fun same => ?_
    cases same with
    | unmatched => exact ih later
    | keep same => exact .done (.keep same)
    | drop => exact .done .drop

/-- What is offered is only what is at the place. -/
theorem offer_congr (same : slot.child? s.node = slot.child? t.node)
    (children : List (Element × Judge)) : offer slot w s children = offer slot w t children := by
  induction children with
  | nil => rfl
  | cons child rest ih =>
    simp only [offer, Sifted.ask, same, ih]

def attend (w : Walk) (s : Sifted) (visit : Visit Judge) : Except RunError Sifted :=
  (offer visit.slot w s visit.candidates).map (s.take visit.slot)

theorem runVisits_eq_foldlM (visits : List (Visit Judge)) (s : Sifted) :
    runVisits w visits s = visits.foldlM (attend w) s := by
  induction visits generalizing s with
  | nil => rfl
  | cons visit rest ih =>
    rw [runVisits, List.foldlM_cons, attend, map_bind]
    exact bind_congr_of_ok fun verdict _ => ih _

private theorem attend_twins {visit : Visit α}
    (agree : ∀ child ∈ visit.candidates,
      Agreeing w child.1 (f child.1 child.2) (g child.1 child.2))
    (twins : Sifted.Twins doc s t) :
    Both (Sifted.Twins doc) (attend w s (visit.map f)) (attend w t (visit.map g)) :=
  (offer_twins agree visit.slot twins.node).map fun same => twins.take same visit.slot

/-- Visits at places that are apart can change places. -/
theorem attend_comm {first later : Visit α} (self : Sifted.Twins doc s s)
    (agree : ∀ child ∈ first.candidates,
      Agreeing w child.1 (f child.1 child.2) (f child.1 child.2))
    (also : ∀ child ∈ later.candidates,
      Agreeing w child.1 (f child.1 child.2) (f child.1 child.2))
    (apart : Slot.Apart doc first.slot later.slot) :
    Both (Sifted.Twins doc)
      (attend w s (first.map f) >>= fun s => attend w s (later.map f))
      (attend w s (later.map f) >>= fun s => attend w s (first.map f)) := by
  have apart : Slot.Apart s.node first.slot later.slot := apart.congr self.kind
  have one := offer_twins agree first.slot self.node
  have two := offer_twins also later.slot self.node
  have after (verdict : Verdict) := offer_congr (w := w)
    (Sifted.child?_take apart verdict) (later.map f).candidates
  have before (verdict : Verdict) := offer_congr (w := w)
    (Sifted.child?_take apart.symm verdict) (first.map f).candidates
  simp only [attend, map_bind, Visit.map] at after before ⊢
  simp only [after, before]
  generalize offer first.slot w s _ = verdict, offer later.slot w s _ = other at one two
  cases one with
  | failed e last =>
    cases two with
    | failed other _ => exact .failed e other
    | done _ => exact .failed e e
  | done one =>
    cases two with
    | failed e last => exact .failed e e
    | done two => exact .done (Sifted.take_comm self apart one two)

/-- Visits at places that are apart lead from twins to twins, in any order. -/
theorem runVisits_twins {visits others : List (Visit α)} (same : visits.Perm others)
    (apart : visits.Pairwise fun first later => Slot.Apart doc first.slot later.slot)
    (agree : ∀ visit ∈ visits, ∀ child ∈ visit.candidates,
      Agreeing w child.1 (f child.1 child.2) (g child.1 child.2))
    (twins : Sifted.Twins doc s t) :
    Both (Sifted.Twins doc) (runVisits w (visits.map (Visit.map f)) s)
      (runVisits w (others.map (Visit.map g)) t) := by
  simp only [runVisits_eq_foldlM, List.foldlM_map]
  have own (visit : Visit α) (present : visit ∈ visits) (child) (held : child ∈ visit.candidates) :=
    (agree visit present child held).self
  have symm {first later : Visit α} (apart : Slot.Apart doc first.slot later.slot) :
      Slot.Apart doc later.slot first.slot := apart.symm
  have moved : Both (Sifted.Twins doc) (visits.foldlM (fun s visit => attend w s (visit.map f)) s)
      (others.foldlM (fun s visit => attend w s (visit.map f)) s) := by
    refine Both.foldlM_perm ?_ symm same ?_ ?_ apart ?_
    · exact Sifted.Twins.trans
    · exact fun visit present _ _ twins => attend_twins (own visit present) twins
    · exact fun first present later also between _ self =>
        attend_comm self (own first present) (own later also) between
    · exact ⟨.refl twins.node.keyed, fun _ => Iff.rfl, twins.kind⟩
  have kept : Both (Sifted.Twins doc) (others.foldlM (fun s visit => attend w s (visit.map f)) s)
      (others.foldlM (fun s visit => attend w s (visit.map g)) t) := by
    refine Both.foldlM_forall₂ (List.forall₂_same.mpr fun visit present _ _ twins => ?_) twins
    exact attend_twins (agree visit (same.mem_iff.mpr present)) twins
  exact moved.trans (fun one two => one.trans two) kept

private theorem runVisits_append (visits others : List (Visit Judge)) (s : Sifted) :
    runVisits w (visits ++ others) s = runVisits w visits s >>= runVisits w others := by
  rw [runVisits_eq_foldlM, runVisits_eq_foldlM, List.foldlM_append]
  exact bind_congr_of_ok fun after _ => (runVisits_eq_foldlM others after).symm

/-- Twins under work stay twins in all visits of a node, whatever the order of the literals
is. -/
theorem runVisits_siblings {siblings : Siblings α} {literals : List (String × α)} {another : Json}
    (separate : Siblings.Separate (siblings.literals.map (·.1)))
    (same : literals.Perm siblings.literals)
    (agree : ∀ child ∈ siblings.all, Agreeing w child.1 (f child.1 child.2) (g child.1 child.2))
    (twins : doc.Twins another) (container : doc.isContainer = true) :
    Both (Sifted.Twins doc)
      (runVisits w ((({ siblings with literals } : Siblings α).map f).visits false doc) ⟨doc, []⟩)
      (runVisits w ((siblings.map g).visits false another) ⟨another, []⟩) := by
  have held : ∀ visit ∈ ({ siblings with literals } : Siblings α).visits false doc,
      ∀ child ∈ visit.candidates, Agreeing w child.1 (f child.1 child.2) (g child.1 child.2) :=
    Siblings.forall_visits (fun child present =>
      agree child ((Siblings.all_perm same).mem_iff.mp present)) false doc
  rw [Siblings.visits_eq] at held
  obtain ⟨first, later⟩ := List.forall_mem_append.mp held
  rw [Siblings.visits_map, Siblings.visits_map, Siblings.visits_eq, Siblings.visits_eq,
    List.map_append, List.map_append, runVisits_append, runVisits_append]
  have start : Sifted.Twins doc ⟨doc, []⟩ ⟨another, []⟩ := ⟨twins, fun _ => Iff.rfl, rfl⟩
  have led := runVisits_twins (Siblings.led_perm same twins.alike)
    (Siblings.led_apart (separate.perm (same.map (·.1)).symm) container) first start
  exact led.bind fun after =>
    runVisits_twins (Siblings.placed_perm same separate.distinct twins)
      (Siblings.placed_apart _ twins.keyed.hasDistinctKeys container) later after

/-- Twins are filtered alike, whatever the order of the literals is. -/
theorem sift_twins {siblings : Siblings α} {literals : List (String × α)} {another : Json}
    (separate : Siblings.Separate (siblings.literals.map (·.1)))
    (same : literals.Perm siblings.literals)
    (agree : ∀ child ∈ siblings.all, Agreeing w child.1 (f child.1 child.2) (g child.1 child.2))
    (twins : doc.Twins another) :
    Both Json.Twins (sift (({ siblings with literals } : Siblings α).map f) w doc)
      (sift (siblings.map g) w another) := by
  rw [sift, sift, ← twins.alike.isContainer_eq]
  refine .ite (fun container => ?_) fun _ => .done twins
  exact (runVisits_siblings separate same agree twins container).map fun same =>
    Slot.discard_twins same.node same.doomed

end Reshape.Transform.Filter
