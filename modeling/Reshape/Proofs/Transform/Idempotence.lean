import Reshape.Proofs.Spec.Compiling
import Reshape.Proofs.Spec.Revisiting
import Reshape.Proofs.Unordered.Cardinality

/-! Specs of cardinality that make lists only. A node that has been visited is at rest: asked
again, its children leave every value as it is. Visits of a container spare each other, and so a
document that was made is at rest at all places. -/

namespace Reshape.Transform.Cardinality

open Key Spec Outcome

variable {element : Element} {key : String} {value made node next out doc spec : Json} {w : Walk}
variable {visit first later : Visit Action} {visits : List (Visit Action)} {texts : List String}

/-- Whether an action handles a key does not depend on the value, and what it makes it leaves as
it is when it is asked again. -/
structure Settles (act : Action) : Prop where
  unmatched : ∀ {element key w}, element.match? w key = .ok none →
    ∀ value, act element key value w = .ok none
  passes : ∀ {element key value w}, act element key value w = .ok none →
    ∀ other, act element key other w = .ok none
  stays : ∀ {element key value made w}, act element key value w = .ok (some made) →
    act element key made w = .ok (some made)

/-- An action that changes the values whose keys it matches settles, if the change does nothing
the second time. -/
theorem settles_of_eq {act : Action} {change : Match → String → Walk → Json → Except RunError Json}
    (told : ∀ element key value w, act element key value w =
      element.match? w key >>= fun found =>
        match found with
        | none => .ok none
        | some matched => (change matched key w value).map some)
    (again : ∀ {matched key w value made}, change matched key w value = .ok made →
      change matched key w made = .ok made) : Settles act where
  unmatched missed value := by rw [told, missed]; rfl
  passes := by
    intro element key value w ran other
    rw [told] at ran ⊢
    obtain ⟨found, matching, ran⟩ := bind_eq_ok.mp ran
    rw [matching]
    cases found with
    | none => rfl
    | some matched =>
      obtain ⟨_, -, built⟩ := map_eq_ok.mp ran
      cases built
  stays := by
    intro element key value made w ran
    rw [told] at ran ⊢
    obtain ⟨found, matching, ran⟩ := bind_eq_ok.mp ran
    rw [matching]
    cases found with
    | none => cases ran
    | some matched =>
      obtain ⟨_, changed, built⟩ := map_eq_ok.mp ran
      cases built
      exact map_eq_ok.mpr ⟨made, again changed, rfl⟩

/-- A list is left as it is. -/
theorem many_apply (value : Json) :
    Relation.many.apply (Relation.many.apply value) = Relation.many.apply value := by
  cases value <;> rfl

theorem many_apply_of_isArray (listed : value.isArray = true) :
    Relation.many.apply value = value := by
  cases value with
  | arr items => rfl
  | _ => cases listed

theorem runLeaf_settles : Settles (runLeaf .many) := by
  have told (element : Element) (key : String) (value : Json) (w : Walk) :
      runLeaf .many element key value w = element.match? w key >>= fun found =>
        match found with
        | none => .ok none
        | some _ => (Except.ok (Relation.many.apply value)).map some := rfl
  refine settles_of_eq told fun changed => ?_
  cases changed
  exact congrArg Except.ok (many_apply _)

section Offer

variable {children : List (Element × Action)}

theorem offer_unmatched (settles : ∀ child ∈ children, Settles child.2)
    (missed : ∀ child ∈ children, child.1.match? w key = .ok none) (value : Json) :
    offer key value w children = .ok none := by
  induction children with
  | nil => rfl
  | cons child rest ih =>
    obtain ⟨first, settles⟩ := List.forall_mem_cons.mp settles
    obtain ⟨miss, missed⟩ := List.forall_mem_cons.mp missed
    rw [offer, first.unmatched miss value]
    exact ih settles missed

/-- What children make of a value they leave as it is when they are asked again. -/
theorem offer_stays (settles : ∀ child ∈ children, Settles child.2)
    (ran : offer key value w children = .ok (some made)) :
    offer key made w children = .ok (some made) := by
  induction children with
  | nil => cases ran
  | cons child rest ih =>
    obtain ⟨first, settles⟩ := List.forall_mem_cons.mp settles
    obtain ⟨handled, acted, ran⟩ := bind_eq_ok.mp ran
    cases handled with
    | some changed =>
      cases ran
      rw [offer, first.stays acted]
      rfl
    | none =>
      rw [offer, first.passes acted made]
      exact ih settles ran

end Offer

def runVisit (w : Walk) (visit : Visit Action) (node : Json) : Except RunError Json :=
  match visit.slot.child? node with
  | none => .ok node
  | some value => (offer visit.slot.key value w visit.candidates).map fun handled =>
    (handled.map (visit.slot.replace · node)).getD node

theorem runVisits_cons (visit : Visit Action) (rest : List (Visit Action)) (node : Json) :
    runVisits w (visit :: rest) node = runVisit w visit node >>= runVisits w rest := by
  rw [runVisits, runVisit]
  cases visit.slot.child? node with
  | none => rfl
  | some value =>
    rw [map_bind]
    dsimp only
    congr 1
    funext handled
    cases handled <;> rfl

/-- What a visit does to a container: its children pass the value there, or make another one. -/
inductive Visited (w : Walk) (visit : Visit Action) (node : Json) : Json → Prop where
  | passed (silent : ∀ value, visit.slot.child? node = some value →
      offer visit.slot.key value w visit.candidates = .ok none) : Visited w visit node node
  | made {value made : Json} (present : visit.slot.child? node = some value)
      (handled : offer visit.slot.key value w visit.candidates = .ok (some made)) :
      Visited w visit node (visit.slot.replace made node)

theorem visited (ran : runVisit w visit node = .ok next) : Visited w visit node next := by
  rw [runVisit] at ran
  cases present : visit.slot.child? node with
  | none =>
    simp only [present] at ran
    cases ran
    refine .passed fun value held => ?_
    rw [present] at held
    cases held
  | some value =>
    simp only [present] at ran
    obtain ⟨handled, asked, built⟩ := map_eq_ok.mp ran
    cases handled with
    | none =>
      cases built
      refine .passed fun other held => ?_
      rw [present] at held
      cases held
      exact asked
    | some made =>
      cases built
      exact .made present asked

/-- A visit finds a value that its children pass or leave as it is. -/
def Rests (w : Walk) (visit : Visit Action) (node : Json) : Prop :=
  ∀ value, visit.slot.child? node = some value →
    offer visit.slot.key value w visit.candidates = .ok none ∨
      offer visit.slot.key value w visit.candidates = .ok (some value)

theorem Rests.runVisit (rests : Rests w visit node) : runVisit w visit node = .ok node := by
  rw [Cardinality.runVisit]
  cases present : visit.slot.child? node with
  | none => rfl
  | some value =>
    rcases rests value present with passed | stayed
    · simp only [passed]
      rfl
    · simp only [stayed]
      exact congrArg Except.ok (Slot.replace_child present)

namespace Visited

theorem samePlaces (visited : Visited w visit node next) : SamePlaces node next := by
  cases visited with
  | passed => exact .refl node
  | made present => exact .replace present _

/-- A visit that was made is at rest. -/
theorem rests (settles : ∀ child ∈ visit.candidates, Settles child.2)
    (visited : Visited w visit node next) : Rests w visit next := by
  cases visited with
  | passed silent => exact fun value held => .inl (silent value held)
  | made present handled =>
    intro value held
    rw [Slot.child?_replace present] at held
    cases held
    exact .inr (offer_stays settles handled)

/-- A visit that is at rest stays so when another one is made that spares it. -/
theorem keeps (settles : ∀ child ∈ later.candidates, Settles child.2)
    (kind : node.isObject = doc.isObject) (spares : Spares texts doc first later)
    (visited : Visited w later node next) (rests : Rests w first node) : Rests w first next := by
  cases spares with
  | same equal =>
    subst equal
    exact visited.rests settles
  | apart places =>
    cases visited with
    | passed => exact rests
    | made =>
      intro value held
      rw [Slot.child?_replace_of_apart (places.congr kind).symm] at held
      exact rests value held
  | avoided named avoid =>
    cases visited with
    | passed => exact rests
    | made present handled =>
      -- The children that are asked match no key of a literal, so they can not have made it.
      have missed : ∀ child ∈ later.candidates, child.1.match? w later.slot.key = .ok none :=
        fun child present => Siblings.match?_of_avoids (avoid child present) named
      rw [offer_unmatched settles missed] at handled
      cases handled

end Visited

theorem runVisits_samePlaces (ran : runVisits w visits node = .ok out) : SamePlaces node out := by
  induction visits generalizing node with
  | nil =>
    cases ran
    exact .refl _
  | cons visit rest ih =>
    rw [runVisits_cons] at ran
    obtain ⟨next, stepped, ran⟩ := bind_eq_ok.mp ran
    exact (visited stepped).samePlaces.trans (ih ran)

private theorem runVisits_keeps
    (settles : ∀ later ∈ visits, ∀ child ∈ later.candidates, Settles child.2)
    (spare : ∀ later ∈ visits, Spares texts doc first later) (kind : node.isObject = doc.isObject)
    (rests : Rests w first node) (ran : runVisits w visits node = .ok out) :
    Rests w first out := by
  induction visits generalizing node with
  | nil =>
    cases ran
    exact rests
  | cons later more ih =>
    obtain ⟨one, settles⟩ := List.forall_mem_cons.mp settles
    obtain ⟨spares, spare⟩ := List.forall_mem_cons.mp spare
    rw [runVisits_cons] at ran
    obtain ⟨next, stepped, ran⟩ := bind_eq_ok.mp ran
    have step := visited stepped
    exact ih settles spare (step.samePlaces.isObject_eq.trans kind)
      (step.keeps one kind spares rests) ran

/-- After a run all of its visits are at rest: each one after it was made, and then for all that
are made later. -/
theorem runVisits_rests (settles : ∀ visit ∈ visits, ∀ child ∈ visit.candidates, Settles child.2)
    (spare : visits.Pairwise (Spares texts doc)) (kind : node.isObject = doc.isObject)
    (ran : runVisits w visits node = .ok out) : ∀ visit ∈ visits, Rests w visit out := by
  induction visits generalizing node with
  | nil => exact nofun
  | cons visit rest ih =>
    obtain ⟨one, settles⟩ := List.forall_mem_cons.mp settles
    obtain ⟨spares, spare⟩ := List.pairwise_cons.mp spare
    rw [runVisits_cons] at ran
    obtain ⟨next, stepped, ran⟩ := bind_eq_ok.mp ran
    have step := visited stepped
    have kind := step.samePlaces.isObject_eq.trans kind
    exact List.forall_mem_cons.mpr
      ⟨runVisits_keeps settles spares kind (step.rests one) ran, ih settles spare kind ran⟩

theorem runVisits_of_rests (rests : ∀ visit ∈ visits, Rests w visit node) :
    runVisits w visits node = .ok node := by
  induction visits with
  | nil => rfl
  | cons visit rest ih =>
    obtain ⟨first, rests⟩ := List.forall_mem_cons.mp rests
    rw [runVisits_cons, first.runVisit]
    exact ih rests

section Branch

variable {s : Siblings Action} {special : List (Element × Action)}

/-- Directives for the node itself make one list of it. -/
theorem runSpecial_many (many : ∀ child ∈ special, child = (.here, runLeaf .many)) (node : Json) :
    runSpecial key w special node =
      .ok (if special.isEmpty || (Element.currentMatch? w).isNone then node
        else Relation.many.apply node) := by
  induction special generalizing node with
  | nil => rfl
  | cons child rest ih =>
    obtain ⟨rfl, rest⟩ := List.forall_mem_cons.mp many
    cases current : Element.currentMatch? w with
    | none => simp [runSpecial, runLeaf, Element.match?, current, ih rest]
    | some matched =>
      simp [runSpecial, runLeaf, Element.match?, current, ih rest, many_apply]

/-- Makes the visits of a node, if it has places. -/
def runPlaces (s : Siblings Action) (w : Walk) (node : Json) : Except RunError Json :=
  if node.isContainer then runVisits w (s.visits false node) node else .ok node

/-- What a branch makes of a value whose key it matches. -/
def runNode (s : Siblings Action) (key : String) (inner : Walk) (value : Json) :
    Except RunError Json :=
  runSpecial key inner s.special value >>= runPlaces s inner

theorem runBranch_eq (s : Siblings Action) (element : Element) (key : String) (value : Json)
    (w : Walk) : runBranch s element key value w =
      element.match? w key >>= fun found =>
        match found with
        | none => .ok none
        | some matched =>
          (w.push none matched >>= fun inner => runNode s key inner value).map some := by
  rw [runBranch]
  congr 1
  funext found
  cases found with
  | none => rfl
  | some matched =>
    dsimp only
    cases w.push none matched with
    | error e => rfl
    | ok inner =>
      simp only [ok_bind, runNode]
      cases runSpecial key inner s.special value with
      | error e => rfl
      | ok node =>
        simp only [ok_bind, runPlaces]
        split <;> rfl

theorem runPlaces_samePlaces (ran : runPlaces s w node = .ok made) : SamePlaces node made := by
  rw [runPlaces] at ran
  split at ran
  · exact runVisits_samePlaces ran
  · cases ran
    exact .refl _

/-- The places are the same once they have been visited, so the visits that are made again are
those that are at rest. -/
theorem runPlaces_again (tidy : s.Tidy) (settles : ∀ child ∈ s.all, Settles child.2)
    (ran : runPlaces s w node = .ok made) : runPlaces s w made = .ok made := by
  have same := runPlaces_samePlaces ran
  rw [runPlaces] at ran ⊢
  rw [same.isContainer_eq]
  split at ran
  case isTrue container =>
    rw [if_pos container, same.visits_eq]
    exact runVisits_of_rests (runVisits_rests (Siblings.forall_visits settles false node)
      (tidy.visits_spare container) rfl ran)
  case isFalse scalar => rw [if_neg scalar]

private theorem runNode_again (tidy : s.Tidy) (settles : ∀ child ∈ s.all, Settles child.2)
    (many : ∀ child ∈ s.special, child = (.here, runLeaf .many))
    (ran : runNode s key w value = .ok made) : runNode s key w made = .ok made := by
  simp only [runNode, runSpecial_many many, ok_bind] at ran ⊢
  split at ran
  case isTrue idle =>
    rw [if_pos idle]
    exact runPlaces_again tidy settles ran
  case isFalse lists =>
    -- The node has become a list, and its visits have left it one.
    have listed : made.isArray = true := by
      rw [(runPlaces_samePlaces ran).isArray_eq]
      cases value <;> rfl
    rw [if_neg lists, many_apply_of_isArray listed]
    exact runPlaces_again tidy settles ran

theorem runBranch_settles (tidy : s.Tidy) (settles : ∀ child ∈ s.all, Settles child.2)
    (many : ∀ child ∈ s.special, child = (.here, runLeaf .many)) : Settles (runBranch s) := by
  refine settles_of_eq (fun element key value w => runBranch_eq s element key value w) ?_
  intro matched key w value made ran
  obtain ⟨inner, entered, ran⟩ := bind_eq_ok.mp ran
  exact bind_eq_ok.mpr ⟨inner, entered, runNode_again tidy settles many ran⟩

end Branch

/-- The literals that a key names are no other spellings of an index. -/
def PlainKey (key : String) : Prop :=
  ∀ alternative ∈ alternatives key, ∀ text,
    Element.parse alternative = .ok (.literal text) → IsPlain text

theorem plainKey_of_parse (whole : alternatives key = [key])
    (parsed : Element.parse key = .ok element)
    (plain : ∀ text, element = .literal text → IsPlain text) : PlainKey key := by
  intro alternative among text read
  rw [whole] at among
  obtain rfl := List.mem_singleton.mp among
  rw [parsed] at read
  cases read
  exact plain text rfl

/-- A spec whose directives are all `MANY` and whose keys are plain. -/
inductive ManyOnly : Json → Prop where
  | directive {text : String} (read : Relation.read? text = some .many) : ManyOnly (.str text)
  | node {members : Members} (keys : ∀ member ∈ members, PlainKey member.1)
      (below : ∀ member ∈ members, ManyOnly member.2) : ManyOnly (.obj members)

/-- A child that settles. For the node itself it makes a list, and as a literal it is plain. -/
structure Steady (child : Element × Node) : Prop where
  settles : Settles (run child.2)
  special : child.1.role = .special → child = (.here, .leaf .many)
  plain : ∀ text, child.1 = .literal text → IsPlain text

variable {path pointer : Pointer} {s : Siblings Node} {used : Element} {tree : Node}

private theorem run_branch (info : Unit) (s : Siblings Node) :
    run (.branch info s) = runBranch (s.map fun _ child => run child) := by
  rw [run, Tree.fold_branch, Siblings.foldSiblings_eq_map]

theorem branch_settles {children : List (Element × Node)} {info : Unit}
    (accepted : Siblings.ofChildren path children = .ok s)
    (steady : ∀ child ∈ children, Steady child) : Settles (run (.branch info s)) := by
  rw [run_branch]
  refine runBranch_settles (Siblings.Tidy.map ?tidy _) ?settles ?many
  case tidy => exact Siblings.tidy_of_accepted accepted fun child present =>
    (steady child present).plain
  case settles =>
    rw [Siblings.all_map]
    exact List.forall_mem_map.mpr fun child present =>
      (steady child (Siblings.mem_of_mem_all accepted present)).settles
  case many =>
    refine List.forall_mem_map.mpr fun child present => ?_
    obtain ⟨member, role⟩ := (Siblings.mem_special accepted).mp present
    rw [(steady child member).special role]
    rfl

private theorem isPlain_of_readKey {elements : List Element} {text : String} (plain : PlainKey key)
    (read : readKey path key = .ok elements) (named : .literal text ∈ elements) :
    IsPlain text := by
  obtain ⟨alternative, written, parsed⟩ := exists_of_mapM read named
  refine plain alternative written text ?_
  split at parsed
  · rename_i element same
    cases parsed
    exact same
  · cases parsed

private theorem child_steady {below : Except BuildError (Unit × Siblings Node)}
    (many : ManyOnly value) (plain : ∀ text, element = .literal text → IsPlain text)
    (settles : ∀ {info s}, below = .ok (info, s) → Settles (run (.branch info s)))
    (made : child pointer element value below = .ok (used, tree)) : Steady (used, tree) := by
  have written : dialect.child () () pointer element value below = .ok (used, tree) := made
  have lone : used.role = .special → used = .here := orderless.lone written
  rw [child.eq_def] at made
  split at made
  case isFalse => cases made
  case isTrue key =>
    cases many with
    | @directive text read =>
      simp only [read] at made
      cases made
      exact ⟨runLeaf_settles, fun special => by rw [lone special], plain⟩
    | node keys below =>
      dsimp only at made
      split at made
      case isTrue => cases made
      case isFalse other =>
        obtain ⟨⟨info, s⟩, compiled, built⟩ := map_eq_ok.mp made
        cases built
        exact ⟨settles compiled, fun special => absurd (lone special) other, plain⟩

/-- The nodes of a spec that makes lists only settle. -/
theorem compile_settles {limit depth : Nat} {info : Unit} (many : ManyOnly spec)
    (compiled : dialect.compile limit () depth path spec = .ok (info, s)) :
    Settles (run (.branch info s)) := by
  induction many generalizing depth path info s with
  | directive read =>
    obtain ⟨members, same⟩ := Dialect.exists_members compiled
    cases same
  | @node members keys below ih =>
    obtain ⟨-, -, entries, found, -, accepted⟩ := Dialect.compile_eq_ok.mp compiled
    refine branch_settles accepted (List.forall_mem_map.mpr fun entry present => ?_)
    obtain ⟨key, value, listed, ⟨elements, read, named⟩, made⟩ :=
      Dialect.exists_child found present
    refine child_steady (below _ listed) (fun text same => ?_) (ih _ listed) made
    exact isPlain_of_readKey (keys _ listed) read (same ▸ named)

/-- Applied to its own output, a cardinality that makes lists only succeeds and returns that
output unchanged. -/
theorem apply_again {maxDepth : Nat} {t : Cardinality} {input : Json} (many : ManyOnly spec)
    (compiled : compile maxDepth spec = .ok t) (ran : t.apply input = .ok out) :
    t.apply out = .ok out := by
  rw [compile, map_eq_ok] at compiled
  obtain ⟨⟨info, s⟩, compiled, rfl⟩ := compiled
  have settles := compile_settles many compiled
  obtain ⟨w, entered, ran⟩ := bind_eq_ok.mp ran
  obtain ⟨output, acted, built⟩ := bind_eq_ok.mp ran
  cases built
  refine bind_eq_ok.mpr ⟨w, entered, bind_eq_ok.mpr ?_⟩
  cases output with
  | none => exact ⟨none, settles.passes acted _, rfl⟩
  | some made => exact ⟨some made, settles.stays acted, rfl⟩

/-- A spec that makes a list of a value and of its first item. -/
def nesting : Json := .obj [("a", .obj [("@", .str "MANY"), ("0", .str "many")])]

def nester : Cardinality :=
  ⟨64, ⟨[("a", .branch () ⟨[("0", .leaf .many)], [], [(.here, .leaf .many)], .literalsOnly⟩)], [],
    [], .literalsOnly⟩⟩

private theorem manyOnly_nesting : ManyOnly nesting := by
  have outer : PlainKey "a" := by
    have parsed : Element.parse "a" = .ok (.literal "a") := rfl
    exact plainKey_of_parse rfl parsed (by rintro _ ⟨⟩; decide)
  have here : PlainKey "@" := by
    have parsed : Element.parse "@" = .ok .here := rfl
    exact plainKey_of_parse rfl parsed nofun
  have first : PlainKey "0" := by
    have parsed : Element.parse "0" = .ok (.literal "0") := rfl
    exact plainKey_of_parse rfl parsed (by rintro _ ⟨⟩; decide)
  have below : ManyOnly (.obj [("@", .str "MANY"), ("0", .str "many")]) :=
    .node (List.forall_mem_cons.mpr ⟨here, List.forall_mem_singleton.mpr first⟩)
      (List.forall_mem_cons.mpr ⟨.directive rfl, List.forall_mem_singleton.mpr (.directive rfl)⟩)
  exact .node (List.forall_mem_singleton.mpr outer) (List.forall_mem_singleton.mpr below)

/-- A text becomes a list of a list, and that stays as it is. -/
theorem apply_again_nesting :
    ManyOnly nesting ∧ compile 64 nesting = .ok nester ∧
      nester.apply (.obj [("a", .str "x")]) = .ok (.obj [("a", .arr [.arr [.str "x"]])]) ∧
      nester.apply (.obj [("a", .arr [.arr [.str "x"]])]) =
        .ok (.obj [("a", .arr [.arr [.str "x"]])]) := by
  have compiled : compile 64 nesting = .ok nester := rfl
  have ran : nester.apply (.obj [("a", .str "x")]) =
      .ok (.obj [("a", .arr [.arr [.str "x"]])]) := rfl
  exact ⟨manyOnly_nesting, compiled, ran, apply_again manyOnly_nesting compiled ran⟩

end Reshape.Transform.Cardinality
