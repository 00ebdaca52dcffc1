import Reshape.Chain
import Reshape.Proofs.Text.Bytes
import Reshape.Proofs.Twins

/-! Sort makes one document of all that are equal up to the order of members: the one in which
all objects have their keys in a fixed order. What is sorted already stays as it is. -/

namespace Reshape.Transform.Sort

open Json Spec

variable {a b c : String} {doc other : Json} {members others : Members}

def Tilded (key : String) : Prop := ['~'] <+: key.toList

/-- One key stands before another one: it starts with a tilde and the other does not, or both
or none of them do and its bytes are less. -/
inductive Before (a b : String) : Prop where
  | tilde (first : Tilded a) (second : ¬Tilded b)
  | bytes (alike : Tilded a ↔ Tilded b) (less : Text.bytes a < Text.bytes b)

private theorem startsWith_iff : a.startsWith "~" = true ↔ Tilded a :=
  String.startsWith_string_iff

/-- A key is put no later than another one if it is the same or stands before it. -/
theorem precedes_iff : precedes a b = true ↔ a = b ∨ Before a b := by
  have alike : a.startsWith "~" = b.startsWith "~" ↔ (Tilded a ↔ Tilded b) := by
    rw [Bool.eq_iff_iff, startsWith_iff, startsWith_iff]
  rw [precedes]
  split
  · rename_i same
    rw [decide_eq_true_iff, le_iff_eq_or_lt]
    refine or_congr_right ⟨fun less => .bytes (alike.mp same) (Text.bytes_lt_iff.mpr less), ?_⟩
    rintro (⟨first, second⟩ | ⟨_, less⟩)
    · exact absurd ((alike.mp same).mp first) second
    · exact Text.bytes_lt_iff.mp less
  · rename_i apart
    rw [alike] at apart
    rw [startsWith_iff]
    constructor
    · intro first
      exact .inr (.tilde first fun second => apart ⟨fun _ => second, fun _ => first⟩)
    · rintro (rfl | ⟨first, -⟩ | ⟨same, -⟩)
      · exact absurd Iff.rfl apart
      · exact first
      · exact absurd same apart

theorem Before.trans (one : Before a b) (two : Before b c) : Before a c := by
  rcases one with ⟨first, second⟩ | ⟨alike, less⟩ <;>
    rcases two with ⟨third, fourth⟩ | ⟨same, lower⟩
  · exact absurd third second
  · exact .tilde first fun last => second (same.mpr last)
  · exact .tilde (alike.mpr third) fourth
  · exact .bytes (alike.trans same) (List.lt_trans less lower)

theorem Before.irrefl : ¬Before a a := by
  rintro (⟨first, second⟩ | ⟨-, less⟩)
  · exact second first
  · exact List.lt_irrefl _ less

private theorem before_total (a b : String) : a = b ∨ Before a b ∨ Before b a := by
  by_cases first : Tilded a <;> by_cases second : Tilded b
  on_goal 2 => exact .inr (.inl (.tilde first second))
  on_goal 2 => exact .inr (.inr (.tilde second first))
  all_goals
    have alike : Tilded a ↔ Tilded b := by simp only [first, second]
    rcases lt_trichotomy a b with less | same | more
    · exact .inr (.inl (.bytes alike (Text.bytes_lt_iff.mpr less)))
    · exact .inl same
    · exact .inr (.inr (.bytes alike.symm (Text.bytes_lt_iff.mpr more)))

theorem precedes_trans (one : precedes a b = true) (two : precedes b c = true) :
    precedes a c = true := by
  rw [precedes_iff] at *
  rcases one with rfl | one
  · exact two
  · rcases two with rfl | two
    · exact .inr one
    · exact .inr (one.trans two)

theorem precedes_total (a b : String) : (precedes a b || precedes b a) = true := by
  rw [Bool.or_eq_true, precedes_iff, precedes_iff]
  rcases before_total a b with same | less | more
  · exact .inl (.inl same)
  · exact .inl (.inr less)
  · exact .inr (.inr more)

theorem precedes_antisymm (one : precedes a b = true) (two : precedes b a = true) : a = b := by
  rw [precedes_iff] at *
  rcases one with same | one
  · exact same
  · rcases two with same | two
    · exact same.symm
    · exact absurd (one.trans two) Before.irrefl

theorem sortMembers_perm (members : Members) : (sortMembers members).Perm members :=
  List.mergeSort_perm _ _

theorem pairwise_sortMembers (members : Members) :
    (sortMembers members).Pairwise fun a b => precedes a.1 b.1 = true := by
  have trans (a b c : String × Json) (one : precedes a.1 b.1 = true)
      (two : precedes b.1 c.1 = true) : precedes a.1 c.1 = true := precedes_trans one two
  exact List.pairwise_mergeSort trans (fun a b => precedes_total a.1 b.1) members

/-- Distinct keys that are sorted ascend. -/
theorem keys_ascend (distinct : (members.map (·.1)).Nodup) :
    ((sortMembers members).map (·.1)).Pairwise Before := by
  have still : ((sortMembers members).map (·.1)).Nodup :=
    ((sortMembers_perm members).map _).nodup_iff.mpr distinct
  rw [List.Nodup, List.pairwise_map] at still
  rw [List.pairwise_map]
  refine (still.and (pairwise_sortMembers members)).imp fun {a b} both => ?_
  exact (precedes_iff.mp both.2).resolve_left both.1

theorem sortMembers_of_ascending (ascending : (members.map (·.1)).Pairwise Before) :
    sortMembers members = members := by
  rw [List.pairwise_map] at ascending
  exact List.mergeSort_of_pairwise (ascending.imp fun less => precedes_iff.mpr (.inr less))

/-- Members in another order are the same once they are sorted. -/
theorem sortMembers_congr (same : members.Perm others) (distinct : (members.map (·.1)).Nodup) :
    sortMembers members = sortMembers others := by
  have perm : (sortMembers members).Perm (sortMembers others) :=
    (sortMembers_perm members).trans (same.trans (sortMembers_perm others).symm)
  refine perm.eq_of_pairwise (fun a b held also one two => ?_) (pairwise_sortMembers members)
    (pairwise_sortMembers others)
  rw [(sortMembers_perm members).mem_iff] at held
  rw [(sortMembers_perm others).mem_iff, ← same.mem_iff] at also
  exact List.inj_on_of_nodup_map distinct held also (precedes_antisymm one two)

/-- In all objects of a document the keys ascend. -/
inductive Ordered : Json → Prop where
  | scalar {doc : Json} (plain : doc.isContainer = false) : Ordered doc
  | array {items : List Json} (each : ∀ item ∈ items, Ordered item) : Ordered (.arr items)
  | object {members : Members} (ascending : (members.map (·.1)).Pairwise Before)
      (each : ∀ member ∈ members, Ordered member.2) : Ordered (.obj members)

theorem applyItems_eq_map (items : List Json) : applyItems items = items.map apply := by
  induction items with
  | nil => rfl
  | cons item rest ih => rw [applyItems, ih, List.map_cons]

theorem applyMembers_eq_map (members : Members) :
    applyMembers members = members.map fun member => (member.1, apply member.2) := by
  induction members with
  | nil => rfl
  | cons member rest ih => rw [applyMembers, ih, List.map_cons]

theorem keys_applyMembers (members : Members) :
    (applyMembers members).map (·.1) = members.map (·.1) := by
  rw [applyMembers_eq_map, List.map_map]
  rfl

theorem apply_of_scalar (plain : doc.isContainer = false) : apply doc = doc := by
  cases doc with
  | arr items => cases plain
  | obj members => cases plain
  | _ => rfl

mutual

theorem alike_apply : ∀ doc, Alike doc (apply doc)
  | .obj members =>
    (Alike.of_members (alike_applyMembers members)).trans
      (.shuffle (sortMembers_perm (applyMembers members)).symm)
  | .arr items => Alike.of_items (alike_applyItems items)
  | .null | .bool _ | .num _ | .str _ => .refl _

theorem alike_applyItems : ∀ items, List.Forall₂ Alike items (applyItems items)
  | [] => .nil
  | item :: rest => .cons (alike_apply item) (alike_applyItems rest)

theorem alike_applyMembers : ∀ members, AlikeMembers members (applyMembers members)
  | [] => .nil
  | (_, value) :: rest => .cons ⟨rfl, alike_apply value⟩ (alike_applyMembers rest)

end

theorem ordered_apply (keyed : doc.Keyed) : Ordered (apply doc) := by
  induction keyed with
  | scalar plain => exact .scalar ((apply_of_scalar plain).symm ▸ plain)
  | @array items _ ih =>
    refine .array fun item present => ?_
    rw [applyItems_eq_map] at present
    obtain ⟨old, held, rfl⟩ := List.mem_map.mp present
    exact ih old held
  | @object members distinct _ ih =>
    refine .object (keys_ascend ((keys_applyMembers members).symm ▸ distinct)) ?_
    intro member present
    rw [(sortMembers_perm _).mem_iff, applyMembers_eq_map] at present
    obtain ⟨old, held, rfl⟩ := List.mem_map.mp present
    exact ih old held

private theorem apply_of_ordered (ordered : Ordered doc) : apply doc = doc := by
  induction ordered with
  | scalar plain => exact apply_of_scalar plain
  | array _ ih =>
    rw [apply, applyItems_eq_map, List.map_congr_left ih, List.map_id']
  | @object members ascending _ ih =>
    have same : applyMembers members = members := by
      rw [applyMembers_eq_map, List.map_congr_left fun member present => by rw [ih member present]]
      exact List.map_id _
    rw [apply, same, sortMembers_of_ascending ascending]

/-- The order of members is lost. -/
theorem apply_congr (alike : doc.Alike other) (keyed : doc.Keyed) : apply doc = apply other := by
  induction alike with
  | refl doc => rfl
  | trans one _ first second => exact (first keyed).trans (second (one.keyed keyed))
  | @shuffle members others same =>
    cases keyed with
    | scalar plain => cases plain
    | object distinct _ =>
      have perm : (applyMembers members).Perm (applyMembers others) := by
        rw [applyMembers_eq_map, applyMembers_eq_map]
        exact same.map _
      rw [apply, apply, sortMembers_congr perm ((keys_applyMembers members).symm ▸ distinct)]
  | @members pairs _ ih =>
    cases keyed with
    | scalar plain => cases plain
    | object _ each =>
      rw [apply, apply, applyMembers_eq_map, applyMembers_eq_map, List.map_map, List.map_map]
      congr 2
      refine List.map_congr_left fun pair present => ?_
      rw [Function.comp_apply, ih pair present (List.forall_mem_map.mp each pair present)]
      rfl
  | @items pairs _ ih =>
    cases keyed with
    | scalar plain => cases plain
    | array each =>
      rw [apply, apply, applyItems_eq_map, applyItems_eq_map, List.map_map, List.map_map]
      congr 1
      exact List.map_congr_left fun pair present =>
        ih pair present (List.forall_mem_map.mp each pair present)

/-- A document is equal to what it is sorted to up to the order of members, all keys of that
ascend, sorting it again changes nothing, and just the documents that are equal up to the order
of members are sorted to the same one. -/
theorem apply_canonical (keyed : doc.Keyed) :
    doc.Alike (apply doc) ∧ Ordered (apply doc) ∧ apply (apply doc) = apply doc ∧
      ∀ other, apply other = apply doc ↔ doc.Alike other := by
  have ordered := ordered_apply keyed
  refine ⟨alike_apply doc, ordered, apply_of_ordered ordered, fun other => ⟨fun same => ?_, ?_⟩⟩
  · exact (alike_apply doc).trans (same ▸ (alike_apply other).symm)
  · exact fun alike => (apply_congr alike keyed).symm

/-- A document and the same one with its members in another order. -/
def shuffled : Json × Json :=
  (.obj [("b", .arr [.obj [("\u00e9", .null), ("z", .bool true)], .null]), ("~", .null)],
    .obj [("~", .null), ("b", .arr [.obj [("z", .bool true), ("\u00e9", .null)], .null])])

/-- Members change places at two depths. -/
theorem apply_canonical_shuffled : shuffled.1.Keyed ∧ shuffled.1.Alike shuffled.2 ∧
    apply shuffled.2 = apply shuffled.1 := by
  have keyed : shuffled.1.Keyed := by
    have inner : (Json.obj [("\u00e9", .null), ("z", .bool true)]).Keyed :=
      .object (by decide) (List.forall_mem_cons.mpr
        ⟨.scalar rfl, List.forall_mem_singleton.mpr (.scalar rfl)⟩)
    have items : (Json.arr [.obj [("\u00e9", .null), ("z", .bool true)], .null]).Keyed :=
      .array (List.forall_mem_cons.mpr ⟨inner, List.forall_mem_singleton.mpr (.scalar rfl)⟩)
    exact .object (by decide) (List.forall_mem_cons.mpr
      ⟨items, List.forall_mem_singleton.mpr (.scalar rfl)⟩)
  have alike : shuffled.1.Alike shuffled.2 := by
    refine .trans (.shuffle (.swap _ _ _)) (.of_members (.cons ⟨rfl, .refl _⟩ ?_))
    refine .cons ⟨rfl, ?_⟩ .nil
    exact .of_items (.cons (.shuffle (.swap _ _ _)) (.cons (.refl _) .nil))
  exact ⟨keyed, alike, ((apply_canonical keyed).2.2.2 shuffled.2).mpr alike⟩

end Reshape.Transform.Sort
