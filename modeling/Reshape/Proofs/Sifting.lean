import Reshape.Proofs.Entries
import Reshape.Proofs.Spec.Dispatch
import Reshape.Proofs.Transform.Offers
import Reshape.Proofs.Transform.Room

/-! Filter as a function of the original document. A run edits a container in place and drops
values at its end, but each entry meets one child at most, so what becomes of it is told by
its own value: the child that its key belongs to keeps it, drops it, or filters it in turn. -/

namespace Reshape

open Key Spec

namespace Walk

/-- The walk one match further in, whatever room there is. -/
def under (w : Walk) (matched : Match) : Walk :=
  { w with frames := ⟨matched, none, none⟩ :: w.frames }

theorem eq_under {w inner : Walk} {matched : Match} (entered : w.push none matched = .ok inner) :
    inner = w.under matched := by
  unfold push enter at entered
  split at entered
  · cases entered
  · cases entered
    rfl

end Walk

namespace Spec

namespace Slot

/-- A literal that spells what it finds leads to a place of the document. -/
theorem mem_of_present {text : String} {doc : Json} {slot : Slot} (spells : Spells text doc)
    (found : ofPresent? text doc = some slot) : slot ∈ ofInput doc := by
  cases doc with
  | obj members =>
    obtain ⟨held, built⟩ := Option.ite_none_right_eq_some.mp found
    cases built
    obtain ⟨entry, present, rfl⟩ := List.mem_map.mp (Members.has_iff.mp held)
    exact List.mem_map_of_mem present
  | arr values =>
    obtain ⟨index, read, rfl⟩ := Option.map_eq_some_iff.mp found
    obtain ⟨read, bounded⟩ := Option.filter_eq_some_iff.mp read
    have bounded := of_decide_eq_true bounded
    rw [(spells index bounded).mp read]
    exact List.mem_map_of_mem (List.mem_range.mpr bounded)
  | null => cases found
  | _ =>
    obtain ⟨same, built⟩ := Option.ite_none_right_eq_some.mp found
    cases built
    exact List.mem_singleton.mpr (congrArg member (Option.some.inj same).symm)

end Slot

namespace Siblings

variable {α β : Type} {s : Siblings α} {input : Json}

/-- No literal is another spelling of an index. -/
def Plain (s : Siblings α) : Prop :=
  ∀ entry ∈ s.literals, ∀ index, Decimal.readIndex entry.1 = some index →
    entry.1 = Decimal.natText index

theorem Plain.spells (plain : s.Plain) (indexable : input.Indexable) :
    ∀ entry ∈ s.literals, Slot.Spells entry.1 input := by
  intro entry present
  cases input with
  | arr values =>
    intro index bounded
    cases indexable with
    | scalar other => cases other
    | array within each =>
      refine ⟨plain entry present index, fun same => ?_⟩
      rw [same, Decimal.readIndex, Decimal.natText, String.toList_ofList,
        Decimal.readIndexChars_natChars (bounded.trans_le within)]
  | _ => trivial

/-- Nodes whose literals spell what they find visit the places of a document. -/
theorem mem_of_visit {visit : Visit α} (spelled : ∀ entry ∈ s.literals, Slot.Spells entry.1 input)
    (planned : visit ∈ s.visits false input) : visit.slot ∈ Slot.ofInput input := by
  cases planned_of_mem s planned with
  | led present found =>
    rcases found with there | ⟨set, -⟩
    · exact Slot.mem_of_present (spelled _ present) there
    · cases set
  | named _ _ place => exact place
  | computed place => exact place

/-- A key belongs to a child that matches it. -/
theorem matches_of_choice? {w : Walk} {key : String} {child : Element × α}
    (chosen : s.choice? w key = some child) :
    child ∈ s.all ∧ ∃ matched, child.1.match? w key = .ok (some matched) := by
  unfold choice? at chosen
  split at chosen
  case h_1 value found =>
    cases chosen
    obtain ⟨entry, held, rfl⟩ := Option.map_eq_some_iff.mp found
    have same : entry.1 = key := by simpa using List.find?_some held
    subst same
    refine ⟨?_, .ofKey entry.1, by rw [Element.match?, if_pos rfl]⟩
    exact List.mem_append_left _ (List.mem_append_left _
      (List.mem_map_of_mem (List.mem_of_find?_eq_some held)))
  case h_2 =>
    refine ⟨List.mem_append_left _ (List.mem_append_right _ (List.mem_of_find?_eq_some chosen)), ?_⟩
    have matching := List.find?_some chosen
    unfold fits at matching
    split at matching
    · exact ⟨_, by assumption⟩
    · cases matching

/-- The child that a key belongs to is told by the elements. -/
theorem choice?_map (f : Element → α → β) (w : Walk) (key : String) :
    (s.map f).choice? w key =
      (s.choice? w key).map fun child => (child.1, f child.1 child.2) := by
  unfold choice?
  rw [literal?_map]
  cases s.literal? key with
  | some child => rfl
  | none => exact List.find?_map

end Siblings

end Spec

namespace Transform.Filter

open Siblings

/-- Whether a value has a field that one of the predicates accepts. -/
def passes (w : Walk) (value : Json) (predicates : List Predicate) : Bool :=
  predicates.any fun p =>
    match p.field.read w value with
    | .ok (some found) => p.matcher.accepts found
    | _ => false

/-- What becomes of a value on the walk of its key; none if it goes. -/
abbrev Fate := Walk → Json → Option Json

/-- What becomes of the value under a key: the child that the key belongs to decides, and
the value stays as it is if there is none. -/
def fate (children : Siblings Fate) (w : Walk) (key : String) (value : Json) : Option Json :=
  match children.choice? w key with
  | none => some value
  | some (element, decide) =>
    match element.match? w key with
    | .ok (some matched) => decide (w.under matched) value
    | _ => some value

/-- Predicates keep the values that pass. -/
def leafFate (predicates : List Predicate) : Fate :=
  fun w value => if passes w value predicates then some value else none

/-- A branch keeps a value with what its children leave of it. -/
def branchFate (_ : Unit) (children : Siblings Fate) : Fate :=
  fun w value => some (value.select (fate children w))

/-- What compiled children leave of the document of their node. -/
def sifted (children : Siblings Node) (w : Walk) (doc : Json) : Json :=
  doc.select (fate (Tree.foldSiblings leafFate branchFate children) w)

def Verdict.left (value : Json) : Verdict → Option Json
  | .unmatched => some value
  | .keep kept => some kept
  | .drop => none

variable {w : Walk} {doc : Json}

theorem passes_of_satisfies {value : Json} {predicates : List Predicate} {answer : Bool}
    (satisfied : satisfies w value predicates = .ok answer) :
    passes w value predicates = answer := by
  induction predicates with
  | nil =>
    cases satisfied
    rfl
  | cons p rest ih =>
    obtain ⟨found, read, more⟩ := Outcome.bind_eq_ok.mp satisfied
    rw [passes, List.any_cons, read]
    cases found with
    | none => exact ih more
    | some value =>
      dsimp only
      cases accepted : p.matcher.accepts value with
      | false =>
        rw [Option.any_some, accepted] at more
        exact ih more
      | true =>
        rw [Option.any_some, accepted] at more
        cases more
        rfl

/-- A container under work is told by the verdicts on the entries of the original one. -/
structure Records (doc : Json) (s : Sifted) (told : String → Verdict) : Prop where
  node : s.node = doc.revise fun name value => ((told name).left value).getD value
  places : ∀ slot ∈ s.doomed, slot ∈ Slot.ofContainer doc
  doomed : ∀ slot ∈ Slot.ofContainer doc, slot ∈ s.doomed ↔ told slot.key = .drop

variable {s final : Sifted} {told : String → Verdict} {slot : Slot}

theorem Records.start (doc : Json) : Records doc ⟨doc, []⟩ fun _ => .unmatched where
  node := (Json.revise_eq_self fun _ _ => rfl).symm
  places _ absent := nomatch absent
  doomed _ _ := ⟨nofun, nofun⟩

theorem Records.child? {value : Json} (records : Records doc s told)
    (place : slot ∈ Slot.ofContainer doc) (distinct : HasDistinctKeys doc)
    (present : (slot.key, value) ∈ doc.entries) :
    slot.child? s.node = some (((told slot.key).left value).getD value) := by
  rw [records.node, Slot.child?_revise place distinct present]

theorem Records.take (records : Records doc s told) (place : slot ∈ Slot.ofContainer doc)
    (distinct : HasDistinctKeys doc) (fresh : told slot.key = .unmatched) (verdict : Verdict) :
    Records doc (s.take slot verdict)
      fun name => if name = slot.key then verdict else told name := by
  have apart {other : Slot} (also : other ∈ Slot.ofContainer doc) (ne : other ≠ slot) :
      other.key ≠ slot.key := fun same => ne (Slot.eq_of_key_eq also place same)
  have undoomed : slot ∉ s.doomed := fun doomed => by
    have dropped := (records.doomed slot place).mp doomed
    rw [fresh] at dropped
    cases dropped
  cases verdict with
  | unmatched =>
    have same : (fun name => if name = slot.key then .unmatched else told name) = told := by
      funext name
      split
      · rename_i equal
        rw [equal, fresh]
      · rfl
    rw [same]
    exact records
  | keep kept =>
    refine ⟨?_, records.places, fun other also => ?_⟩
    · change slot.replace kept s.node = _
      rw [records.node, Slot.replace_revise place distinct]
      refine Json.revise_congr fun name value _ => ?_
      split <;> rfl
    · change other ∈ s.doomed ↔ _
      by_cases equal : other = slot
      · simp [equal, undoomed]
      · rw [if_neg (apart also equal), records.doomed other also]
  | drop =>
    refine ⟨?_, List.forall_mem_cons.mpr ⟨place, records.places⟩, fun other also => ?_⟩
    · change s.node = _
      rw [records.node]
      refine Json.revise_congr fun name value _ => ?_
      split
      · rename_i equal
        rw [equal, fresh]
        rfl
      · rfl
    · change other ∈ slot :: s.doomed ↔ _
      by_cases equal : other = slot
      · simp [equal]
      · rw [if_neg (apart also equal), List.mem_cons, records.doomed other also]
        exact or_iff_right equal

/-- In the end a container has what the verdicts leave of its entries. -/
theorem Records.result (records : Records doc s told) :
    s.result = doc.select fun name value => (told name).left value := by
  rw [Sifted.result, records.node, Slot.discard_revise records.places]
  refine Json.select_congr fun name value present => ?_
  obtain ⟨slot, place, rfl⟩ := Slot.exists_place present
  have dropped : slot.key ∈ s.doomed.map (·.key) ↔ told slot.key = .drop := by
    rw [← records.doomed slot place]
    refine ⟨fun named => ?_, List.mem_map_of_mem⟩
    obtain ⟨other, doomed, same⟩ := List.mem_map.mp named
    rwa [← Slot.eq_of_key_eq (records.places other doomed) place same]
  cases heard : told slot.key with
  | drop => rw [if_pos (dropped.mpr heard)]; rfl
  | _ =>
    rw [if_neg fun named => ?_]
    · rfl
    · have dropped := dropped.mp named
      rw [heard] at dropped
      cases dropped

/-- A value is judged by the first candidate that matches its key. -/
theorem offer_held {candidates : List (Element × Node)} {value : Json}
    (resolves : ∀ child ∈ candidates, Resolves w child.1)
    (held : slot.child? s.node = some value) :
    offer slot w s (candidates.map fun child => (child.1, judge child.2)) =
      ((candidates.find? (fits w slot.key)).elim (.ok .unmatched) fun child =>
        judge child.2 child.1 slot.key value w) := by
  rw [offer_eq_firstMatch candidates held, firstMatch_eq resolves]
  rfl

/-- Visits that handle no place twice give a verdict on every entry that they handle, told by
the value that it had at the start. -/
theorem runVisits_records {visits : List (Visit Node)} (distinct : HasDistinctKeys doc)
    (places : ∀ visit ∈ visits, visit.slot ∈ Slot.ofContainer doc)
    (named : ∀ visit ∈ visits, visit.slot.name = visit.slot.key)
    (resolves : ∀ visit ∈ visits, ∀ child ∈ visit.candidates, Resolves w child.1)
    (once : ((visits.filterMap (Visit.handled? w)).map (·.1)).Nodup)
    (fresh : ∀ entry ∈ visits.filterMap (Visit.handled? w), told entry.1 = .unmatched)
    (records : Records doc s told)
    (ran : runVisits w (visits.map (Visit.map fun _ => judge)) s = .ok final) :
    ∃ verdicts, Records doc final verdicts ∧
      (∀ name, (∀ child, (name, child) ∉ visits.filterMap (Visit.handled? w)) →
        verdicts name = told name) ∧
      ∀ name child value, (name, child) ∈ visits.filterMap (Visit.handled? w) →
        (name, value) ∈ doc.entries → judge child.2 child.1 name value w = .ok (verdicts name) := by
  induction visits generalizing s told with
  | nil =>
    cases ran
    exact ⟨told, records, fun _ _ => rfl, fun _ _ _ absent => nomatch absent⟩
  | cons visit rest ih =>
    obtain ⟨place, places⟩ := List.forall_mem_cons.mp places
    obtain ⟨name, named⟩ := List.forall_mem_cons.mp named
    obtain ⟨resolve, resolves⟩ := List.forall_mem_cons.mp resolves
    obtain ⟨verdict, offered, ran⟩ := Outcome.bind_eq_ok.mp ran
    obtain ⟨value, entry⟩ := Slot.exists_entry place
    have held := records.child? place distinct entry
    have answer := (offer_held resolve held).symm.trans offered
    cases found : visit.candidates.find? (fits w visit.slot.key) with
    | none =>
      have passed : Visit.handled? w visit = none := by rw [Visit.handled?, found]; rfl
      rw [List.filterMap_cons_none passed] at once fresh ⊢
      rw [found] at answer
      cases answer
      exact ih places named resolves once fresh records ran
    | some child =>
      have handled : Visit.handled? w visit = some (visit.slot.key, child) := by
        rw [Visit.handled?, found, name]; rfl
      rw [List.filterMap_cons_some handled] at once fresh ⊢
      obtain ⟨first, fresh⟩ := List.forall_mem_cons.mp fresh
      obtain ⟨absent, once⟩ := List.nodup_cons.mp once
      rw [found, first] at answer
      have later : ∀ entry ∈ rest.filterMap (Visit.handled? w), entry.1 ≠ visit.slot.key :=
        fun entry present same => absent (List.mem_map.mpr ⟨entry, present, same⟩)
      have untouched : ∀ entry ∈ rest.filterMap (Visit.handled? w),
          (if entry.1 = visit.slot.key then verdict else told entry.1) = .unmatched :=
        fun entry present => (if_neg (later entry present)).trans (fresh entry present)
      obtain ⟨verdicts, after, others, each⟩ := ih places named resolves once untouched
        (records.take place distinct first verdict) ran
      have own : verdicts visit.slot.key = verdict := by
        rw [others visit.slot.key fun other present => later _ present rfl, if_pos rfl]
      refine ⟨verdicts, after, fun name missed => ?_, fun name other held present also => ?_⟩
      · have apart : name ≠ visit.slot.key := by
          rintro rfl
          exact missed child (List.mem_cons_self ..)
        rw [others name fun other present => missed other (List.mem_cons_of_mem _ present),
          if_neg apart]
      · rcases List.mem_cons.mp present with same | present
        · cases same
          rw [own, Slot.entry_unique place distinct entry also]
          exact answer
        · exact each name other held present also

/-- A node whose plan follows the rule: it was accepted, its keys match by their texts alone,
and none of its literals is another spelling of an index. -/
structure Sound (s : Siblings Node) : Prop where
  accepted : ∃ path children, ofChildren path children = .ok s
  static : ∀ child ∈ s.all, child.1.isStatic = true
  plain : s.Plain

private theorem foldSiblings_judges (s : Siblings Node) :
    judges s = s.map fun _ => judge :=
  Siblings.foldSiblings_eq_map _ _ s

/-- Where the children of a node leave what their fates say, the node does. -/
theorem sift_eq {s : Siblings Node} {output : Json} (sound : Sound s) (keyed : doc.Keyed)
    (indexable : doc.Indexable)
    (each : ∀ child ∈ s.all, ∀ key value matched verdict, value.Keyed → value.Indexable →
      child.1.match? w key = .ok (some matched) → judge child.2 child.1 key value w = .ok verdict →
      verdict.left value = child.2.fold leafFate branchFate (w.under matched) value)
    (ran : sift (judges s) w doc = .ok output) : output = sifted s w doc := by
  rw [sift] at ran
  split at ran
  case isFalse scalar =>
    cases ran
    cases doc with
    | arr items => exact absurd rfl scalar
    | obj members => exact absurd rfl scalar
    | _ => rfl
  case isTrue container =>
    obtain ⟨path, children, accepted⟩ := sound.accepted
    obtain ⟨final, made, rfl⟩ := Outcome.map_eq_ok.mp ran
    have spelled := sound.plain.spells indexable
    have inside : ∀ visit ∈ s.visits false doc, visit.slot ∈ Slot.ofInput doc :=
      fun visit planned => mem_of_visit spelled planned
    have same := Slot.ofInput_eq container
    have follows := followsRule (w := w) accepted keyed.hasDistinctKeys fun _ => spelled
    rw [foldSiblings_judges, visits_map] at made
    obtain ⟨verdicts, records, others, judged⟩ := runVisits_records keyed.hasDistinctKeys
      (fun visit planned => same ▸ inside visit planned)
      (fun visit planned => Slot.name_of_mem (inside visit planned))
      (forall_visits (fun child present => isStatic_resolves (sound.static child present) w)
        false doc)
      follows.1 (fun _ _ => rfl) (Records.start doc) made
    rw [records.result]
    refine Json.select_congr fun name value present => ?_
    rw [fate, Siblings.foldSiblings_eq_map, choice?_map]
    cases chosen : s.choice? w name with
    | none =>
      have missed (child : Element × Node) :
          (name, child) ∉ (s.visits false doc).filterMap (Visit.handled? w) := by
        intro handled
        have belongs := (choice?_eq_some accepted).mpr ((follows.2 name child).mp handled).2
        rw [chosen] at belongs
        cases belongs
      rw [others name missed]
      rfl
    | some child =>
      obtain ⟨member, matched, matching⟩ := matches_of_choice? chosen
      have listed : name ∈ Slot.names doc := by
        obtain ⟨slot, place, rfl⟩ := Slot.exists_place present
        rw [← same] at place
        exact List.mem_map.mpr ⟨slot, place, Slot.name_of_mem place⟩
      have handled := (follows.2 name child).mpr ⟨listed, (choice?_eq_some accepted).mp chosen⟩
      have answer := judged name child value handled present
      have left := each child member name value matched _ (keyed.entry present)
        (indexable.entry present) matching answer
      rw [left, Option.map_some]
      simp only [matching]

/-- What a compiled node says of a value leaves what its fate says. -/
theorem judge_left {t : Node} (sound : t.Every Sound) :
    ∀ {element : Element} {key : String} {value : Json} {w : Walk} {matched : Match}
      {verdict : Verdict}, value.Keyed → value.Indexable →
      element.match? w key = .ok (some matched) → judge t element key value w = .ok verdict →
      verdict.left value = t.fold leafFate branchFate (w.under matched) value := by
  induction sound with
  | leaf predicates =>
    intro element key value w matched verdict _ _ matching ran
    rw [judge, Tree.fold, judgeLeaf, judgeLeafWith, matching, Outcome.ok_bind] at ran
    obtain ⟨inner, entered, ran⟩ := Outcome.bind_eq_ok.mp ran
    obtain ⟨answer, satisfied, ran⟩ := Outcome.bind_eq_ok.mp ran
    cases Walk.eq_under entered
    rw [Tree.fold, leafFate, passes_of_satisfies satisfied]
    cases answer with
    | false =>
      cases ran
      rfl
    | true =>
      cases ran
      rfl
  | @branch info s sound below ih =>
    intro element key value w matched verdict keyed indexable matching ran
    rw [judge, Tree.fold_branch, judgeBranch, matching, Outcome.ok_bind] at ran
    obtain ⟨inner, entered, ran⟩ := Outcome.bind_eq_ok.mp ran
    obtain ⟨output, sifting, rfl⟩ := Outcome.map_eq_ok.mp ran
    cases Walk.eq_under entered
    have left := sift_eq sound keyed indexable
      (fun child member key value matched verdict => ih child member) sifting
    rw [Tree.fold_branch, Verdict.left, left]
    rfl

theorem uses : dialect.Uses fun element => element.isStatic = true := by
  intro outer inner path element value below used tree made
  simp only [dialect, child] at made
  split at made
  case isFalse => cases made
  case isTrue static =>
    split at made
    · obtain ⟨predicates, -, built⟩ := Outcome.map_eq_ok.mp made
      cases built
      exact static
    · obtain ⟨compiled, -, built⟩ := Outcome.map_eq_ok.mp made
      cases built
      exact static

/-- No literal of a filter is another spelling of an index. -/
def Plain (t : Filter) : Prop :=
  t.children.Plain ∧ ∀ child ∈ t.children.all, child.2.Every Siblings.Plain

/-- A filter that succeeds leaves what the fates of its children say: values that no child
handles, values in which a predicate finds what it accepts, and values that go on, with what
is left of them in turn. -/
theorem apply_sifts {maxDepth : Nat} {spec input output : Json} {t : Filter}
    (compiled : compile maxDepth spec = .ok t) (plain : t.Plain) (keyed : input.Keyed)
    (indexable : input.Indexable) (ran : t.apply input = .ok output) :
    output =
      sifted t.children ((Walk.start (walkLimit maxDepth)).under (.ofKey rootKey)) input := by
  rw [compile] at compiled
  split at compiled
  · cases compiled
  · obtain ⟨⟨info, s⟩, read, built⟩ := Outcome.map_eq_ok.mp compiled
    cases built
    have admitted {path : Pointer} {children : List (Element × Node)} {s : Siblings Node}
        (accepted : ofChildren path children = .ok s)
        (static : ∀ child ∈ s.all, child.1.isStatic = true) :
        (∃ path children, ofChildren path children = .ok s) ∧
          ∀ child ∈ s.all, child.1.isStatic = true := ⟨⟨path, children, accepted⟩, static⟩
    obtain ⟨⟨accepted, static⟩, below⟩ := Dialect.compileRoot_every nests uses admitted read
    obtain ⟨own, others⟩ := plain
    have each : ∀ child ∈ s.all, child.2.Every Sound := fun child present =>
      (below child present).combine (fun s granted plain => ⟨granted.1, granted.2, plain⟩)
        (others child present)
    obtain ⟨w, entered, ran⟩ := Outcome.bind_eq_ok.mp ran
    cases Walk.eq_under entered
    exact sift_eq ⟨accepted, static, own⟩ keyed indexable
      (fun child present key value matched verdict => judge_left (each child present)) ran

/-- A filter of the items of a list by their flags. -/
def flagged : Filter :=
  ⟨64, ⟨[("list", .branch ()
    ⟨[("1", .leaf [⟨[.plain (.key "on")], .equal (.bool false)⟩])],
      [(.star .any, .leaf [⟨[.plain (.key "on")], .equal (.bool true)⟩])], [], .literalFirst⟩)],
    [], [], .literalsOnly⟩⟩

def flags : Json :=
  .obj [("list", .arr [.obj [("on", .bool true)], .obj [("on", .bool false)], .null]),
    ("rest", .null)]

theorem plain_flagged : flagged.Plain := by
  refine ⟨fun entry present index read => ?_, fun child present => ?_⟩
  · cases List.mem_singleton.mp present
    have unread : Decimal.readIndex "list" = none := by decide
    rw [unread] at read
    cases read
  · cases List.mem_singleton.mp present
    refine .branch (fun entry present index read => ?_) fun child present => ?_
    · cases List.mem_singleton.mp present
      have one : Decimal.readIndex "1" = some 1 := by decide
      rw [one] at read
      cases read
      rfl
    · rcases List.mem_pair.mp present with rfl | rfl
      · exact .leaf _
      · exact .leaf _

private theorem keyed_flags : flags.Keyed := by
  have item (flag : Bool) : (Json.obj [("on", .bool flag)]).Keyed :=
    .object (by simp) (by simpa using .scalar rfl)
  refine .object (by decide) (List.forall_mem_cons.mpr
    ⟨.array ?_, List.forall_mem_singleton.mpr (.scalar rfl)⟩)
  exact List.forall_mem_cons.mpr ⟨item true,
    List.forall_mem_cons.mpr ⟨item false, List.forall_mem_singleton.mpr (.scalar rfl)⟩⟩

private theorem indexable_flags : flags.Indexable := by
  have item (flag : Bool) : (Json.obj [("on", .bool flag)]).Indexable :=
    .object (by simpa using .scalar rfl)
  refine .object (List.forall_mem_cons.mpr
    ⟨.array (by decide) ?_, List.forall_mem_singleton.mpr (.scalar rfl)⟩)
  exact List.forall_mem_cons.mpr ⟨item true,
    List.forall_mem_cons.mpr ⟨item false, List.forall_mem_singleton.mpr (.scalar rfl)⟩⟩

/-- The second item is for the literal alone, although the wildcard matches its index too. -/
theorem apply_sifts_flagged :
    compile 64 (.obj [("list", .obj [("*", .obj [("on", .bool true)]),
      ("1", .obj [("on", .bool false)])])]) = .ok flagged ∧
    .obj [("list", .arr [.obj [("on", .bool true)], .obj [("on", .bool false)]]),
        ("rest", .null)] =
      sifted flagged.children ((Walk.start (walkLimit 64)).under (.ofKey rootKey)) flags := by
  have compiled : compile 64 (.obj [("list", .obj [("*", .obj [("on", .bool true)]),
      ("1", .obj [("on", .bool false)])])]) = .ok flagged := rfl
  have ran : flagged.apply flags = .ok (.obj [("list", .arr [.obj [("on", .bool true)],
      .obj [("on", .bool false)]]), ("rest", .null)]) := rfl
  exact ⟨compiled, apply_sifts compiled plain_flagged keyed_flags indexable_flags ran⟩

end Transform.Filter

end Reshape
