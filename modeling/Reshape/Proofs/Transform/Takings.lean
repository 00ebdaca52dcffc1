import Reshape.Proofs.Spec.Dispatch
import Reshape.Proofs.Transform.Assignment

namespace Reshape.Spec

open Key Decimal

namespace Slot

variable {slot other : Slot} {doc : Json} {text : String}

/-- A place of a container that is found by its key alone. -/
structure Found (doc : Json) (slot : Slot) : Prop where
  told : slot.index? = readIndex slot.key
  indexed : doc.isArray = true → slot.index?.isSome = true

theorem Found.child? (found : Found doc slot) (node : Json) :
    slot.child? node = (member slot.key).child? node := by
  cases node with
  | arr items =>
    change (slot.index?.bind fun index => items[index]?) = _
    rw [found.told]
    rfl
  | _ => rfl

theorem found_of_mem (indexable : doc.Indexable) (container : doc.isContainer = true)
    (present : slot ∈ ofInput doc) : Found doc slot := by
  cases doc with
  | obj members =>
    obtain ⟨entry, -, rfl⟩ := List.mem_map.mp present
    exact ⟨rfl, nofun⟩
  | arr items =>
    cases indexable with
    | scalar plain => cases plain
    | array bounded each =>
      obtain ⟨index, within, rfl⟩ := List.mem_map.mp present
      have within := (List.mem_range.mp within).trans_le bounded
      have read : readIndex (natText index) = some index := by
        rw [readIndex, natText, String.toList_ofList, readIndexChars_natChars within]
      exact ⟨read.symm, fun _ => rfl⟩
  | _ => cases container

theorem found_of_present (container : doc.isContainer = true)
    (present : ofPresent? text doc = some slot) : slot.key = text ∧ Found doc slot := by
  cases doc with
  | obj members =>
    obtain ⟨-, built⟩ := Option.ite_none_right_eq_some.mp present
    cases built
    exact ⟨rfl, rfl, nofun⟩
  | arr items =>
    obtain ⟨index, read, rfl⟩ := Option.map_eq_some_iff.mp present
    exact ⟨rfl, (Option.filter_eq_some_iff.mp read).1.symm, fun _ => rfl⟩
  | _ => cases container

theorem found_of_absent (absent : ofAbsent? text doc = some slot) :
    slot.key = text ∧ Found doc slot := by
  cases doc with
  | obj members =>
    obtain ⟨-, built⟩ := Option.ite_none_left_eq_some.mp absent
    cases built
    exact ⟨rfl, rfl, nofun⟩
  | arr items =>
    obtain ⟨index, read, rfl⟩ := Option.map_eq_some_iff.mp absent
    exact ⟨rfl, (Option.filter_eq_some_iff.mp read).1.symm, fun _ => rfl⟩
  | _ => cases absent

/-- Places with keys that are different, and read as different indices, are apart. -/
theorem Found.apart (found : Found doc slot) (also : Found doc other)
    (keys : slot.key ≠ other.key)
    (indices : doc.isArray = true → ∀ index, readIndex slot.key = some index →
      readIndex other.key ≠ some index) (container : doc.isContainer = true) :
    Apart doc slot other := by
  cases doc with
  | obj members => exact keys
  | arr items =>
    obtain ⟨index, read⟩ := Option.isSome_iff_exists.mp (found.indexed rfl)
    intro same
    rw [found.told] at read
    have equal : readIndex other.key = some index := by rw [← also.told, ← same, found.told, read]
    exact indices rfl index read equal
  | _ => cases container

/-- What is there and what is not are apart. -/
theorem apart_of_absent (present : slot ∈ ofInput doc) (absent : ofAbsent? text doc = some other) :
    Apart doc slot other := by
  cases doc with
  | obj members =>
    obtain ⟨entry, held, rfl⟩ := List.mem_map.mp present
    obtain ⟨missing, built⟩ := Option.ite_none_left_eq_some.mp absent
    cases built
    rintro rfl
    exact missing (Members.has_iff.mpr (List.mem_map_of_mem held))
  | arr items =>
    obtain ⟨index, within, rfl⟩ := List.mem_map.mp present
    obtain ⟨further, read, rfl⟩ := Option.map_eq_some_iff.mp absent
    have past := of_decide_eq_true (Option.filter_eq_some_iff.mp read).2
    intro same
    cases (same : some index = some further)
    exact absurd (List.mem_range.mp within) (Nat.not_lt.mpr past)
  | _ => cases absent

/-- The places in a container are apart. -/
theorem ofInput_apart (distinct : HasDistinctKeys doc) (container : doc.isContainer = true) :
    (ofInput doc).Pairwise (Apart doc) := by
  cases doc with
  | obj members =>
    have keys : members.Pairwise fun member other => member.1 ≠ other.1 :=
      List.pairwise_map.mp distinct
    exact List.pairwise_map.mpr keys
  | arr items =>
    refine List.pairwise_map.mpr (List.nodup_range.imp ?_)
    intro index further differ same
    exact differ (Option.some.inj same)
  | _ => cases container

end Slot

namespace Siblings

variable {α β : Type} {s : Siblings α} {w : Walk} {doc : Json} {literals : List (String × α)}

/-- The children that are taken to places of a container, in order. -/
def takings (s : Siblings α) (w : Walk) (doc : Json) : List (Slot × Element × α) :=
  (s.visits true doc).filterMap (Visit.taken? w)

/-- What is granted for the children of a node whose keys match by their texts alone. -/
structure Lawful (s : Siblings α) : Prop where
  distinct : (s.literals.map (·.1)).Nodup
  static : ∀ child ∈ s.computed, child.1.isStatic = true
  disjoint : s.strategy = .disjoint →
    ∀ child ∈ s.computed, avoids (s.literals.map (·.1)) child.1 = true

/-- No place of an array with a length is named twice: not by different literals, and, where
literals and computed children are kept apart by their texts, not by both of them. -/
structure Distinct (s : Siblings α) (length : Nat) : Prop where
  literals : ∀ first ∈ s.literals, ∀ second ∈ s.literals, ∀ index,
    readIndex first.1 = some index → readIndex second.1 = some index → first.1 = second.1
  computed : s.strategy = .disjoint → ∀ entry ∈ s.literals, ∀ index < length,
    readIndex entry.1 = some index →
      ∀ child ∈ s.computed, child.1.matchesText (natText index) = false

theorem lawful_map {f : Element → α → β} : (s.map f).Lawful ↔ s.Lawful := by
  constructor
  · rintro ⟨distinct, static, disjoint⟩
    rw [texts_map] at distinct disjoint
    exact ⟨distinct, List.forall_mem_map.mp static, fun strategy =>
      List.forall_mem_map.mp (disjoint strategy)⟩
  · rintro ⟨distinct, static, disjoint⟩
    rw [← texts_map s f] at distinct disjoint
    exact ⟨distinct, List.forall_mem_map.mpr static, fun strategy =>
      List.forall_mem_map.mpr (disjoint strategy)⟩

theorem distinct_map {f : Element → α → β} {length : Nat} :
    (s.map f).Distinct length ↔ s.Distinct length := by
  constructor
  · rintro ⟨literals, computed⟩
    refine ⟨fun first present second also => ?_, fun strategy entry present index within read => ?_⟩
    · exact literals _ (List.mem_map_of_mem present) _ (List.mem_map_of_mem also)
    · exact List.forall_mem_map.mp
        (computed strategy _ (List.mem_map_of_mem present) index within read)
  · rintro ⟨literals, computed⟩
    refine ⟨List.forall_mem_map.mpr fun first present => List.forall_mem_map.mpr fun second also =>
      literals first present second also, fun strategy => List.forall_mem_map.mpr ?_⟩
    intro entry present index within read
    exact List.forall_mem_map.mpr (computed strategy entry present index within read)

theorem Lawful.perm (lawful : s.Lawful) (same : s.literals.Perm literals) :
    ({ s with literals } : Siblings α).Lawful where
  distinct := (same.map _).nodup_iff.mp lawful.distinct
  static := lawful.static
  disjoint strategy child present := by
    have apart := lawful.disjoint strategy child present
    simp only [avoids, Bool.and_eq_true, List.all_eq_true] at apart ⊢
    exact ⟨apart.1, fun text held => apart.2 text ((same.map _).mem_iff.mpr held)⟩

theorem Distinct.perm {length : Nat} (distinct : s.Distinct length)
    (same : s.literals.Perm literals) : ({ s with literals } : Siblings α).Distinct length where
  literals first present second also :=
    distinct.literals first (same.mem_iff.mpr present) second (same.mem_iff.mpr also)
  computed strategy entry present := distinct.computed strategy entry (same.mem_iff.mpr present)

theorem takings_map (s : Siblings α) (f : Element → α → β) (w : Walk) (doc : Json) :
    (s.map f).takings w doc =
      (s.takings w doc).map fun taking => (taking.1, taking.2.1, f taking.2.1 taking.2.2) := by
  rw [takings, takings, visits_map, List.filterMap_map, List.map_filterMap]
  refine List.filterMap_congr fun visit _ => ?_
  have found : (visit.map f).candidates.find? (fits w visit.slot.key) =
      (visit.candidates.find? (fits w visit.slot.key)).map
        fun child => (child.1, f child.1 child.2) := List.find?_map
  rw [Function.comp_apply, Visit.taken?, Visit.taken?]
  change ((visit.map f).candidates.find? (fits w visit.slot.key)).map _ = _
  rw [found]
  cases visit.candidates.find? (fits w visit.slot.key) <;> rfl

theorem literal?_perm (same : s.literals.Perm literals)
    (distinct : (s.literals.map (·.1)).Nodup) (text : String) :
    s.literal? text = ({ s with literals } : Siblings α).literal? text := by
  refine Option.ext fun child => ?_
  rw [literal?_iff distinct, literal?_iff ((same.map _).nodup_iff.mp distinct)]
  exact same.mem_iff

theorem takings_perm (same : s.literals.Perm literals)
    (distinct : (s.literals.map (·.1)).Nodup) (w : Walk) (doc : Json) :
    (s.takings w doc).Perm (({ s with literals } : Siblings α).takings w doc) := by
  refine List.Perm.filterMap _ ?_
  have looked : (s.literalVisits true doc).Perm
      (({ s with literals } : Siblings α).literalVisits true doc) := same.filterMap _
  have first (slot : Slot) :
      s.literalFirstVisit slot = ({ s with literals } : Siblings α).literalFirstVisit slot := by
    rw [literalFirstVisit, literalFirstVisit, literal?_perm same distinct]
  unfold visits
  cases s.strategy with
  | literalsOnly => exact looked
  | computedOnly => exact .refl _
  | disjoint => exact looked.append_right _
  | literalFirst =>
    have places := List.Perm.of_eq (List.map_congr_left fun slot (_ : slot ∈ Slot.ofInput doc) =>
      first slot)
    exact places.append (same.filterMap _)

theorem forall_takings {property : Element × α → Prop} (holds : ∀ child ∈ s.all, property child) :
    ∀ taking ∈ s.takings w doc, property taking.2 := by
  intro taking present
  obtain ⟨visit, planned, taken⟩ := List.mem_filterMap.mp present
  obtain ⟨child, found, rfl⟩ := Option.map_eq_some_iff.mp taken
  exact forall_visits holds true doc visit planned child (List.mem_of_find?_eq_some found)

/-- A child that is taken to a place: the literal of the key, or a computed child at a place
that is there. -/
inductive Taken (s : Siblings α) (w : Walk) (doc : Json) : Slot × Element × α → Prop where
  | literal {slot : Slot} {value : α} (found : Slot.Found doc slot)
      (present : (slot.key, value) ∈ s.literals) : Taken s w doc (slot, .literal slot.key, value)
  | computed {slot : Slot} {child : Element × α} (place : slot ∈ Slot.ofInput doc)
      (present : child ∈ s.computed) (fitting : fits w slot.key child = true) :
      Taken s w doc (slot, child)

variable {taking : Slot × Element × α} {slot : Slot} {visit : Visit α}

private theorem taken?_literalVisit {text : String} {value : α}
    (taken : (literalVisit slot text value).taken? w = some taking) :
    taking = (slot, .literal text, value) := by
  obtain ⟨child, found, rfl⟩ := Option.map_eq_some_iff.mp taken
  obtain rfl := List.mem_singleton.mp (List.mem_of_find?_eq_some found)
  rfl

private theorem taken_of_literal {entry : String × α} (present : entry ∈ s.literals)
    (named : slot.key = entry.1) (found : Slot.Found doc slot)
    (taken : (literalVisit slot entry.1 entry.2).taken? w = some taking) : s.Taken w doc taking := by
  obtain ⟨text, value⟩ := entry
  obtain rfl := taken?_literalVisit taken
  obtain rfl : slot.key = text := named
  exact .literal found present

/-- Every child that is taken is the literal of its key, or computed at a place that is there. -/
theorem taken_of_mem (indexable : doc.Indexable) (container : doc.isContainer = true)
    (present : taking ∈ s.takings w doc) : s.Taken w doc taking := by
  obtain ⟨visit, planned, taken⟩ := List.mem_filterMap.mp present
  cases planned_of_mem s planned with
  | led own found =>
    rcases found with there | ⟨-, missing⟩
    · obtain ⟨named, found⟩ := Slot.found_of_present container there
      exact taken_of_literal own named found taken
    · obtain ⟨named, found⟩ := Slot.found_of_absent missing
      exact taken_of_literal own named found taken
  | named own same place =>
    exact taken_of_literal own same.symm (Slot.found_of_mem indexable container place) taken
  | computed place =>
    obtain ⟨child, found, rfl⟩ := Option.map_eq_some_iff.mp taken
    exact .computed place (List.mem_of_find?_eq_some found) (List.find?_some found)

/-- Visits of literals at the places that their texts lead to. -/
def visitsAt (s : Siblings α) (place : String → Option Slot) : List (Visit α) :=
  s.literals.filterMap fun entry =>
    (place entry.1).map fun slot => literalVisit slot entry.1 entry.2

/-- Texts lead to places of a container that are found by these texts. -/
def Leads (doc : Json) (place : String → Option Slot) : Prop :=
  ∀ text slot, place text = some slot → slot.key = text ∧ Slot.Found doc slot

theorem leads_looked (container : doc.isContainer = true) :
    Leads doc fun text => (Slot.ofPresent? text doc).or (Slot.ofAbsent? text doc) := by
  intro text slot found
  rcases Option.or_eq_some_iff.mp found with present | ⟨-, missing⟩
  · exact Slot.found_of_present container present
  · exact Slot.found_of_absent missing

theorem leads_absent : Leads doc (Slot.ofAbsent? · doc) :=
  fun _ _ missing => Slot.found_of_absent missing

/-- What two visits take goes to places that are apart. -/
def ApartVisits (w : Walk) (doc : Json) (first later : Visit α) : Prop :=
  ∀ one, first.taken? w = some one → ∀ other, later.taken? w = some other →
    Slot.Apart doc one.1 other.1

theorem slot_of_taken (taken : visit.taken? w = some taking) : taking.1 = visit.slot := by
  obtain ⟨child, -, rfl⟩ := Option.map_eq_some_iff.mp taken
  rfl

private theorem visitsAt_apart {place : String → Option Slot} (lawful : s.Lawful)
    (distinct : ∀ items, doc = .arr items → s.Distinct items.length)
    (container : doc.isContainer = true) (leads : Leads doc place) :
    (s.visitsAt place).Pairwise (ApartVisits w doc) := by
  have texts : s.literals.Pairwise fun first later => first.1 ≠ later.1 :=
    List.pairwise_map.mp lawful.distinct
  refine List.pairwise_filterMap.mpr ((List.Pairwise.and_mem.mp texts).imp ?_)
  rintro ⟨text, value⟩ ⟨other, written⟩ ⟨present, also, differ⟩
  intro visit planned another replanned one taken two retaken
  obtain ⟨slot, led, rfl⟩ := Option.map_eq_some_iff.mp planned
  obtain ⟨further, reached, rfl⟩ := Option.map_eq_some_iff.mp replanned
  obtain ⟨rfl, found⟩ := leads text slot led
  obtain ⟨rfl, again⟩ := leads other further reached
  rw [slot_of_taken taken, slot_of_taken retaken]
  refine found.apart again differ (fun array index read reread => ?_) container
  cases doc with
  | arr items => exact differ ((distinct items rfl).literals _ present _ also index read reread)
  | _ => cases array

/-- A literal and a computed child that is kept apart from it go to places that are apart. -/
theorem literal_apart_computed (lawful : s.Lawful)
    (distinct : ∀ items, doc = .arr items → s.Distinct items.length)
    (container : doc.isContainer = true) (strategy : s.strategy = .disjoint) {other : Slot}
    {entry : String × α} (present : entry ∈ s.literals) (found : Slot.Found doc slot)
    (named : slot.key = entry.1) (place : other ∈ Slot.ofInput doc) {child : Element × α}
    (computed : child ∈ s.computed) (fitting : fits w other.key child = true) :
    Slot.Apart doc slot other := by
  have missed := fits_eq_false_of_avoids (w := w) (lawful.disjoint strategy child computed)
    (List.mem_map_of_mem present)
  cases doc with
  | obj members =>
    intro same
    rw [← named, same, fitting] at missed
    cases missed
  | arr items =>
    obtain ⟨index, within, rfl⟩ := List.mem_map.mp place
    intro same
    have read : readIndex entry.1 = some index := by rw [← named, ← found.told, same]; rfl
    have unmatched := (distinct items rfl).computed strategy entry present index
      (List.mem_range.mp within) read child computed
    rw [fits_of_isStatic (lawful.static child computed)] at fitting
    exact Bool.false_ne_true (unmatched.symm.trans fitting)
  | _ => cases container

/-- No two children are taken to the same place. -/
theorem takings_apart (lawful : s.Lawful)
    (distinct : ∀ items, doc = .arr items → s.Distinct items.length)
    (container : doc.isContainer = true) (keys : HasDistinctKeys doc) :
    (s.takings w doc).Pairwise fun first later => Slot.Apart doc first.1 later.1 := by
  refine List.pairwise_filterMap.mpr ?_
  have looked : (s.literalVisits true doc).Pairwise (ApartVisits w doc) :=
    visitsAt_apart lawful distinct container (leads_looked container)
  have placed {visit : Slot → Visit α} (keeps : ∀ slot, (visit slot).slot = slot) :
      ((Slot.ofInput doc).map visit).Pairwise (ApartVisits w doc) := by
    refine List.pairwise_map.mpr ((Slot.ofInput_apart keys container).imp ?_)
    intro slot other apart one taken two retaken
    rwa [slot_of_taken taken, slot_of_taken retaken, keeps, keeps]
  have computed : (s.computedVisits doc).Pairwise (ApartVisits w doc) := placed fun _ => rfl
  change (s.visits true doc).Pairwise (ApartVisits w doc)
  cases strategy : s.strategy with
  | literalsOnly => simpa only [visits, strategy] using looked
  | computedOnly => simpa only [visits, strategy] using computed
  | disjoint =>
    simp only [visits, strategy]
    refine List.pairwise_append.mpr ⟨looked, computed, ?_⟩
    intro first planned later replanned one taken two retaken
    obtain ⟨entry, present, kept⟩ := List.mem_filterMap.mp planned
    obtain ⟨slot, led, rfl⟩ := Option.map_eq_some_iff.mp kept
    obtain ⟨place, there, rfl⟩ := List.mem_map.mp replanned
    obtain ⟨named, found⟩ := leads_looked container _ _ led
    rw [slot_of_taken taken]
    obtain ⟨child, chosen, rfl⟩ := Option.map_eq_some_iff.mp retaken
    exact literal_apart_computed lawful distinct container strategy present found named there
      (List.mem_of_find?_eq_some chosen) (List.find?_some chosen)
  | literalFirst =>
    simp only [visits, strategy]
    refine List.pairwise_append.mpr ⟨placed s.slot_literalFirstVisit,
      visitsAt_apart lawful distinct container leads_absent, ?_⟩
    intro visit planned later replanned one taken two retaken
    obtain ⟨slot, there, rfl⟩ := List.mem_map.mp planned
    obtain ⟨entry, present, kept⟩ := List.mem_filterMap.mp replanned
    obtain ⟨place, missing, rfl⟩ := Option.map_eq_some_iff.mp kept
    rw [slot_of_taken taken, slot_of_taken retaken, slot_literalFirstVisit]
    exact Slot.apart_of_absent there missing

/-- In an empty array there is nothing for computed children. -/
theorem length_takings_empty (s : Siblings α) (w : Walk) :
    (s.takings w (.arr [])).length ≤ s.literals.length := by
  have visited : (s.visits true (.arr [])).length ≤ s.literals.length := by
    unfold visits
    cases s.strategy with
    | literalsOnly => exact List.length_filterMap_le _ _
    | computedOnly => exact Nat.zero_le _
    | disjoint =>
      rw [computedVisits, Slot.ofInput, Slot.ofContainer, Slot.items, List.length_nil,
        List.range_zero, List.map_nil, List.map_nil, List.append_nil]
      exact List.length_filterMap_le _ _
    | literalFirst => exact List.length_filterMap_le _ _
  exact (List.length_filterMap_le _ _).trans visited

end Siblings

end Reshape.Spec
