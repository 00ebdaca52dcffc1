import Reshape.Proofs.Spec.Rearranging
import Reshape.Proofs.Transform.Takings

/-! The visits of a node in two rounds: literals at the places that their texts lead to, and
then the places of the container. The visits of one round are at places that are apart, and for
a container or literals in another order they are the same ones in another order. -/

namespace Reshape.Spec

open Key Decimal

namespace Siblings

variable {α : Type} {s : Siblings α} {literals : List (String × α)} {doc other : Json}

/-- No two of some texts are the same index. -/
def ApartIndices (texts : List String) : Prop :=
  ∀ first ∈ texts, ∀ second ∈ texts, ∀ index,
    readIndex first = some index → readIndex second = some index → first = second

/-- Texts are different, and no two of them are the same index. -/
structure Separate (texts : List String) : Prop where
  distinct : texts.Nodup
  indices : ApartIndices texts

theorem ApartIndices.perm {texts others : List String} (apart : ApartIndices texts)
    (same : texts.Perm others) : ApartIndices others :=
  fun first present second also =>
    apart first (same.mem_iff.mpr present) second (same.mem_iff.mpr also)

theorem Separate.perm {texts others : List String} (separate : Separate texts)
    (same : texts.Perm others) : Separate others :=
  ⟨same.nodup_iff.mp separate.distinct, separate.indices.perm same⟩

/-- The visits of literals where their texts lead to. -/
def led (s : Siblings α) (doc : Json) : List (Visit α) :=
  match s.strategy with
  | .literalsOnly | .disjoint => s.literals.filterMap fun entry =>
    (Slot.ofPresent? entry.1 doc).map fun slot => literalVisit slot entry.1 entry.2
  | .computedOnly | .literalFirst => []

def placed (s : Siblings α) (doc : Json) : List (Visit α) :=
  match s.strategy with
  | .literalsOnly => []
  | .computedOnly | .disjoint => s.computedVisits doc
  | .literalFirst => (Slot.ofInput doc).map s.literalFirstVisit

theorem visits_eq (s : Siblings α) (doc : Json) :
    s.visits false doc = s.led doc ++ s.placed doc := by
  have literals : s.literalVisits false doc = s.literals.filterMap fun entry =>
      (Slot.ofPresent? entry.1 doc).map fun slot => literalVisit slot entry.1 entry.2 := by
    refine List.filterMap_congr fun entry _ => ?_
    simp
  unfold visits led placed
  cases s.strategy with
  | literalsOnly => exact literals.trans (List.append_nil _).symm
  | computedOnly => rfl
  | disjoint => exact congrArg (· ++ _) literals
  | literalFirst => exact List.append_nil _

theorem led_perm (same : literals.Perm s.literals) (alike : doc.Alike other) :
    (({ s with literals } : Siblings α).led doc).Perm (s.led other) := by
  have looked : (literals.filterMap fun entry =>
      (Slot.ofPresent? entry.1 doc).map fun slot => literalVisit slot entry.1 entry.2).Perm
      (s.literals.filterMap fun entry =>
        (Slot.ofPresent? entry.1 other).map fun slot => literalVisit slot entry.1 entry.2) := by
    simp only [Slot.ofPresent?_eq alike]
    exact same.filterMap _
  unfold led
  cases s.strategy with
  | literalsOnly => exact looked
  | computedOnly => exact .refl _
  | disjoint => exact looked
  | literalFirst => exact .refl _

theorem placed_perm (same : literals.Perm s.literals) (distinct : (s.literals.map (·.1)).Nodup)
    (twins : Json.Twins doc other) :
    (({ s with literals } : Siblings α).placed doc).Perm (s.placed other) := by
  have places := Slot.ofInput_perm twins
  have first (slot : Slot) :
      ({ s with literals } : Siblings α).literalFirstVisit slot = s.literalFirstVisit slot := by
    rw [literalFirstVisit, literalFirstVisit, literal?_perm same.symm distinct]
  unfold placed
  cases s.strategy with
  | literalsOnly => exact .refl _
  | computedOnly => exact places.map _
  | disjoint => exact places.map _
  | literalFirst =>
    have visits := List.map_congr_left fun slot (_ : slot ∈ Slot.ofInput doc) => first slot
    exact (List.Perm.of_eq visits).trans (places.map _)

theorem led_apart (separate : Separate (s.literals.map (·.1)))
    (container : doc.isContainer = true) :
    (s.led doc).Pairwise fun first later => Slot.Apart doc first.slot later.slot := by
  have looked : (s.literals.filterMap fun entry =>
      (Slot.ofPresent? entry.1 doc).map fun slot => literalVisit slot entry.1 entry.2).Pairwise
      fun first later => Slot.Apart doc first.slot later.slot := by
    have texts : s.literals.Pairwise fun first later => first.1 ≠ later.1 :=
      List.pairwise_map.mp separate.distinct
    refine List.pairwise_filterMap.mpr ((List.Pairwise.and_mem.mp texts).imp ?_)
    rintro first later ⟨present, held, differ⟩ visit planned another replanned
    obtain ⟨slot, found, rfl⟩ := Option.map_eq_some_iff.mp planned
    obtain ⟨further, reached, rfl⟩ := Option.map_eq_some_iff.mp replanned
    obtain ⟨named, here⟩ := Slot.found_of_present container found
    obtain ⟨renamed, there⟩ := Slot.found_of_present container reached
    have keys : slot.key ≠ further.key := by rwa [named, renamed]
    refine here.apart there keys (fun _ index read reread => ?_) container
    rw [named] at read
    have also : readIndex further.key = some index := reread
    rw [renamed] at also
    exact differ (separate.indices first.1 (List.mem_map_of_mem present) later.1
      (List.mem_map_of_mem held) index read also)
  unfold led
  cases s.strategy with
  | literalsOnly => exact looked
  | computedOnly => exact .nil
  | disjoint => exact looked
  | literalFirst => exact .nil

theorem placed_apart (s : Siblings α) (distinct : HasDistinctKeys doc)
    (container : doc.isContainer = true) :
    (s.placed doc).Pairwise fun first later => Slot.Apart doc first.slot later.slot := by
  have places := Slot.ofInput_apart distinct container
  unfold placed
  cases s.strategy with
  | literalsOnly => exact .nil
  | computedOnly => exact List.pairwise_map.mpr places
  | disjoint => exact List.pairwise_map.mpr places
  | literalFirst =>
    refine List.pairwise_map.mpr (places.imp fun apart => ?_)
    rwa [slot_literalFirstVisit, slot_literalFirstVisit]

end Siblings

/-- No two literals of one node are the same index. -/
def Tree.ApartIndices {B L : Type} (t : Tree B L) : Prop :=
  t.Throughout fun _ => Siblings.ApartIndices

theorem Tree.ApartIndices.separate {B L : Type} {t : Tree B L} (apart : t.ApartIndices)
    (distinct : t.Every fun s => (s.literals.map (·.1)).Nodup) :
    t.Throughout fun _ => Siblings.Separate :=
  Throughout.combine (fun _ _ apart distinct => ⟨distinct, apart⟩) apart distinct

end Reshape.Spec
