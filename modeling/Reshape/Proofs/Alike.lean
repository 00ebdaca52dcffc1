import Reshape.Proofs.Entries
import Reshape.Proofs.Extension

namespace Reshape

open Spec

namespace Json

/-- Equality up to the order of members: the members of an object may change places, here and
in all values. -/
inductive Alike : Json → Json → Prop where
  | refl (doc : Json) : Alike doc doc
  | trans {first second third : Json} (one : Alike first second) (other : Alike second third) :
      Alike first third
  | shuffle {members others : Members} (same : members.Perm others) :
      Alike (.obj members) (.obj others)
  | members {pairs : List (String × Json × Json)}
      (each : ∀ pair ∈ pairs, Alike pair.2.1 pair.2.2) :
      Alike (.obj (pairs.map fun pair => (pair.1, pair.2.1)))
        (.obj (pairs.map fun pair => (pair.1, pair.2.2)))
  | items {pairs : List (Json × Json)} (each : ∀ pair ∈ pairs, Alike pair.1 pair.2) :
      Alike (.arr (pairs.map (·.1))) (.arr (pairs.map (·.2)))

/-- Members under the same keys with values that are alike. -/
def AlikeMembers : Members → Members → Prop :=
  List.Forall₂ fun member other => member.1 = other.1 ∧ Alike member.2 other.2

variable {doc other : Json} {members others : Members} {values : List Json}

namespace Alike

theorem of_members (each : AlikeMembers members others) : Alike (.obj members) (.obj others) := by
  have paired : ∃ pairs : List (String × Json × Json),
      members = pairs.map (fun pair => (pair.1, pair.2.1)) ∧
      others = pairs.map (fun pair => (pair.1, pair.2.2)) ∧
      ∀ pair ∈ pairs, Alike pair.2.1 pair.2.2 := by
    induction each with
    | nil => exact ⟨[], rfl, rfl, nofun⟩
    | @cons member other _ _ first _ ih =>
      obtain ⟨pairs, rfl, rfl, later⟩ := ih
      obtain ⟨same, alike⟩ := first
      refine ⟨(member.1, member.2, other.2) :: pairs, rfl, ?_,
        List.forall_mem_cons.mpr ⟨alike, later⟩⟩
      rw [List.map_cons, same]
  obtain ⟨pairs, rfl, rfl, alike⟩ := paired
  exact .members alike

theorem of_items {items others : List Json} (each : List.Forall₂ Alike items others) :
    Alike (.arr items) (.arr others) := by
  have paired : ∃ pairs : List (Json × Json), items = pairs.map (·.1) ∧
      others = pairs.map (·.2) ∧ ∀ pair ∈ pairs, Alike pair.1 pair.2 := by
    induction each with
    | nil => exact ⟨[], rfl, rfl, nofun⟩
    | @cons item other _ _ first _ ih =>
      obtain ⟨pairs, rfl, rfl, later⟩ := ih
      exact ⟨(item, other) :: pairs, rfl, rfl, List.forall_mem_cons.mpr ⟨first, later⟩⟩
  obtain ⟨pairs, rfl, rfl, alike⟩ := paired
  exact .items alike

theorem isObject_eq (alike : Alike doc other) : doc.isObject = other.isObject := by
  induction alike with
  | refl doc => rfl
  | trans _ _ one another => exact one.trans another
  | shuffle _ => rfl
  | members _ => rfl
  | items _ => rfl

theorem hasDistinctKeys (alike : Alike doc other) (distinct : HasDistinctKeys doc) :
    HasDistinctKeys other := by
  induction alike with
  | refl doc => exact distinct
  | trans _ _ one another => exact another (one distinct)
  | @shuffle members others same =>
    have keys : (members.map (·.1)).Perm (others.map (·.1)) := same.map _
    exact keys.nodup_iff.mp distinct
  | @members pairs each =>
    have keys : (pairs.map fun pair => (pair.1, pair.2.2)).map (·.1) =
        (pairs.map fun pair => (pair.1, pair.2.1)).map (·.1) := by simp [Function.comp_def]
    change (_ : List String).Nodup
    rw [keys]
    exact distinct
  | items each => trivial

end Alike

end Json

namespace Members

open Json

variable {key label : String} {value written : Json} {members others : Members}

theorem put_of_not_mem (absent : key ∉ members.map (·.1)) (value : Json) :
    put key value members = members ++ [(key, value)] := by
  have appended := put_append_of_not_mem absent value []
  rwa [List.append_nil] at appended

theorem put_perm (same : members.Perm others) (distinct : (members.map (·.1)).Nodup) :
    (put key value members).Perm (put key value others) := by
  have keys := same.map (·.1)
  by_cases held : key ∈ members.map (·.1)
  · rw [put_eq_map value held distinct,
      put_eq_map value (keys.mem_iff.mp held) (keys.nodup_iff.mp distinct)]
    exact same.map _
  · rw [put_of_not_mem held, put_of_not_mem fun present => held (keys.mem_iff.mpr present)]
    exact same.append_right _

theorem put_comm (apart : key ≠ label) (value written : Json) (members : Members) :
    (put key value (put label written members)).Perm
      (put label written (put key value members)) := by
  induction members with
  | nil =>
    simp only [put, if_neg apart, if_neg apart.symm]
    exact .swap _ _ _
  | cons member rest ih =>
    by_cases same : member.1 = key
    · simp [put, same, apart]
    · by_cases equal : member.1 = label
      · simp [put, equal, apart.symm]
      · simp only [put, if_neg same, if_neg equal]
        exact ih.cons member

theorem put_alike (each : AlikeMembers members others) (alike : Alike value written) :
    AlikeMembers (put key value members) (put key written others) := by
  induction each with
  | nil => exact .cons ⟨rfl, alike⟩ .nil
  | @cons member other rest more first later ih =>
    by_cases same : member.1 = key
    · rw [put, put, if_pos same, if_pos (first.1.symm.trans same)]
      exact .cons ⟨first.1, alike⟩ later
    · rw [put, put, if_neg same, if_neg fun equal => same (first.1.trans equal)]
      exact .cons first ih

end Members

end Reshape
