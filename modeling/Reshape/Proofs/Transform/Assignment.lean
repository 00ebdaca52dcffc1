import Reshape.Proofs.Spec.Placing
import Reshape.Proofs.Transform.Offers

namespace Reshape

open Key Spec

/-- The place of a visit and the candidate that it goes to. -/
def Spec.Visit.taken? {α : Type} (w : Walk) (visit : Visit α) : Option (Slot × Element × α) :=
  (visit.candidates.find? (fits w visit.slot.key)).map (visit.slot, ·)

namespace Transform

namespace WriteMode

variable {mode : WriteMode} {slot : Slot} {size : Option Nat} {doc : Json}

/-- Whether a mode lets a value be written at a place of a container. -/
def permits (mode : WriteMode) (slot : Slot) (size : Option Nat) : Json → Bool
  | .obj members => mode.allowsMember members slot.key
  | .arr items =>
    match slot.index? with
    | none => false
    | some index =>
      mode.allowsItem items index (size.getD items.length) && decide (index ≤ maxIndex)
  | _ => false

theorem write_eq (mode : WriteMode) (slot : Slot) (value : Json) (size : Option Nat) (doc : Json) :
    mode.write slot value size doc =
      if mode.permits slot size doc then slot.assign value doc else doc := by
  cases doc with
  | obj members => rfl
  | arr items =>
    cases found : slot.index? with
    | none => simp [write, permits, found]
    | some index =>
      by_cases within : index ≤ maxIndex
      · simp [write, permits, Slot.assign, found, growTo?, Slot.grow, within, Nat.not_lt.mpr within]
      · simp [write, permits, found, growTo?, within, Nat.lt_of_not_le within]
  | _ => rfl

/-- What may be written at a place is there afterwards. -/
theorem child?_assign (permitted : mode.permits slot size doc = true) (value : Json) :
    slot.child? (slot.assign value doc) = some value := by
  cases doc with
  | obj members => exact Members.get?_put_self slot.key value members
  | arr items =>
    cases found : slot.index? with
    | none => simp [permits, found] at permitted
    | some index => simp [Slot.child?, Slot.assign, found, Slot.getElem?_grow]
  | _ => cases permitted

end WriteMode

namespace Modify

variable {mode : WriteMode} {context : Json} {slot : Slot} {snapshot : Option Json} {w : Walk}
variable {parent : Json}

/-- The container that a branch works on at a place: the one that is there, or an empty one if
there is none and the mode lets it be created. -/
def ground? (mode : WriteMode) (shape : Shape) (slot : Slot) (size : Option Nat) (parent : Json) :
    Option Json :=
  match slot.child? parent with
  | none | some .null => if mode.permits slot size parent then some shape.empty else none
  | some node => if shape.accepts node then some node else none

/-- What children make of the container that a branch works on at a place. -/
def enter (children : Siblings Action) (slot : Slot) (snapshot : Option Json) (w : Walk)
    (matched : Match) (node : Json) : Except RunError Json := do
  let inner ← w.push (snapshot.bind slot.child?) matched
  runVisits (snapshot.bind slot.child?) inner (children.visits true node) node

/-- What a node puts at a place, if it matches the key and puts something there. -/
def effect (mode : WriteMode) (context : Json) (t : Node) (element : Element) (slot : Slot)
    (snapshot : Option Json) (w : Walk) (parent : Json) : Except RunError (Option Json) := do
  match ← element.match? w slot.key with
  | none => .ok none
  | some matched =>
    match t with
    | .leaf formula => do
      let inner ← w.push (snapshot.bind slot.child?) matched
      let value ← formula.evaluate inner context (slot.child? parent)
      .ok (if mode.permits slot (sizeBefore w) parent then value else none)
    | .branch shape children =>
      match ground? mode shape slot (sizeBefore w) parent with
      | none => .ok none
      | some node =>
        (enter (children.map fun _ => run mode context) slot snapshot w matched node).map some

def settle (slot : Slot) (parent : Json) (put : Option Json) : Json :=
  put.elim parent fun value => slot.assign value parent

private theorem accepts_empty (shape : Shape) : shape.accepts shape.empty = true := by
  cases shape with
  | container => rfl
  | array => rfl

/-- What a branch makes of its container once the place is prepared. -/
def work (shape : Shape) (children : Siblings Action) (slot : Slot) (snapshot : Option Json)
    (w : Walk) (matched : Match) (place : Json) : Except RunError Json :=
  match slot.child? place with
  | none => .ok place
  | some node =>
    if shape.accepts node then
      (enter children slot snapshot w matched node).map (slot.replace · place)
    else .ok place

private theorem runBranch_work (shape : Shape) (children : Siblings Action) {element : Element}
    {matched : Match} (matching : element.match? w slot.key = .ok (some matched)) :
    runBranch mode shape children element slot snapshot w parent =
      (work shape children slot snapshot w matched
        (prepare mode shape slot (sizeBefore w) parent)).map some := by
  rw [runBranch, matching, Outcome.ok_bind, work]
  dsimp only
  cases slot.child? (prepare mode shape slot (sizeBefore w) parent) with
  | none => rfl
  | some node =>
    dsimp only
    cases shape.accepts node with
    | false => rfl
    | true =>
      simp only [if_true, enter]
      cases w.push (snapshot.bind slot.child?) matched with
      | error e => rfl
      | ok inner =>
        simp only [Outcome.ok_bind]
        cases runVisits (snapshot.bind slot.child?) inner (children.visits true node) node with
        | error e => rfl
        | ok done => rfl

private theorem work_ground (shape : Shape) (children : Siblings Action) (matched : Match) :
    work shape children slot snapshot w matched (prepare mode shape slot (sizeBefore w) parent) =
      match ground? mode shape slot (sizeBefore w) parent with
      | none => .ok parent
      | some node => (enter children slot snapshot w matched node).map (slot.assign · parent) := by
  -- a place that has nothing or null is created if the mode permits it
  have created (vacant : slot.child? parent = none ∨ slot.child? parent = some .null) :
      work shape children slot snapshot w matched
          (mode.write slot shape.empty (sizeBefore w) parent) =
        match (if mode.permits slot (sizeBefore w) parent then some shape.empty else none) with
        | none => .ok parent
        | some node => (enter children slot snapshot w matched node).map (slot.assign · parent) := by
    rw [WriteMode.write_eq]
    cases permitted : mode.permits slot (sizeBefore w) parent with
    | true =>
      simp only [if_true, work, WriteMode.child?_assign permitted, accepts_empty,
        Slot.replace_assign]
    | false =>
      rcases vacant with absent | null
      · simp [work, absent]
      · have refused : shape.accepts .null = false := by cases shape <;> rfl
        simp [work, null, refused]
  unfold prepare ground?
  cases held : slot.child? parent with
  | none => exact created (.inl held)
  | some node =>
    cases node with
    | null => exact created (.inr held)
    | _ =>
      simp only [work, held, Slot.replace_eq_assign held]
      split <;> rfl

theorem run_eq (t : Node) (element : Element) :
    (run mode context t element slot snapshot w parent).map (·.getD parent) =
      (effect mode context t element slot snapshot w parent).map (settle slot parent) := by
  cases t with
  | leaf formula =>
    rw [run, Tree.fold, effect, runLeaf, runLeafWith]
    cases element.match? w slot.key with
    | error e => rfl
    | ok found =>
      cases found with
      | none => rfl
      | some matched =>
        simp only [Outcome.ok_bind]
        cases w.push (snapshot.bind slot.child?) matched with
        | error e => rfl
        | ok inner =>
          simp only [Outcome.ok_bind]
          cases formula.evaluate inner context (slot.child? parent) with
          | error e => rfl
          | ok computed =>
            simp only [Outcome.ok_bind, WriteMode.write_eq]
            cases computed with
            | none => cases mode.permits slot (sizeBefore w) parent <;> rfl
            | some value => cases mode.permits slot (sizeBefore w) parent <;> rfl
  | branch shape children =>
    rw [run, Tree.fold_branch, Siblings.foldSiblings_eq_map, effect]
    cases matching : element.match? w slot.key with
    | error e => rw [runBranch, matching]; rfl
    | ok found =>
      cases found with
      | none => rw [runBranch, matching]; rfl
      | some matched =>
        rw [runBranch_work _ _ matching, work_ground]
        simp only [Outcome.ok_bind]
        cases ground? mode shape slot (sizeBefore w) parent with
        | none => rfl
        | some node =>
          dsimp only
          change ((enter (children.map fun _ => run mode context) slot snapshot w matched node).map
            _ |>.map some).map _ = _
          cases enter (children.map fun _ => run mode context) slot snapshot w matched node with
          | error e => rfl
          | ok done => rfl

/-- Effects one after the other, each at what those before it have left. -/
def perform (mode : WriteMode) (context : Json) (snapshot : Option Json) (w : Walk) :
    List (Slot × Element × Node) → Json → Except RunError Json
  | [], node => .ok node
  | (slot, element, t) :: rest, node => do
    let put ← effect mode context t element slot snapshot w node
    perform mode context snapshot w rest (settle slot node put)

/-- Visits have the effects of the children that match. -/
theorem runVisits_eq {visits : List (Visit Node)} {node : Json}
    (resolves : ∀ visit ∈ visits, ∀ child ∈ visit.candidates, Resolves w child.1) :
    runVisits snapshot w (visits.map (Visit.map fun _ => run mode context)) node =
      perform mode context snapshot w (visits.filterMap (Visit.taken? w)) node := by
  induction visits generalizing node with
  | nil => rfl
  | cons visit rest ih =>
    obtain ⟨first, later⟩ := List.forall_mem_cons.mp resolves
    rw [List.map_cons, runVisits]
    change (offer visit.slot snapshot w node
      (visit.candidates.map fun child => (child.1, run mode context child.2)) >>= _) = _
    rw [offer_eq_firstMatch, firstMatch_eq first, Outcome.ok_bind, List.filterMap_cons,
      Visit.taken?]
    cases visit.candidates.find? (fits w visit.slot.key) with
    | none => exact ih later
    | some child =>
      have ran := Outcome.map_bind (run mode context child.2 child.1 visit.slot snapshot w node)
        (·.getD node) fun node =>
          runVisits snapshot w (rest.map (Visit.map fun _ => run mode context)) node
      rw [run_eq, Outcome.map_bind] at ran
      exact ran.symm.trans (Outcome.bind_congr_of_ok fun put _ => ih later)

/-- The place is past the end of an array that grows for another place. -/
def Padded (around : List Slot) (slot : Slot) (node : Json) : Prop :=
  ∃ items index, node = .arr items ∧ slot.index? = some index ∧ items.length ≤ index ∧
    ∃ other ∈ around, ∃ further, other.index? = some further ∧ index < further

/-- As seen from a place a container is as it was, but for a null that it has grown with. -/
structure Intact (around : List Slot) (slot : Slot) (node parent : Json) : Prop where
  object : parent.isObject = node.isObject
  array : parent.isArray = node.isArray
  child : slot.child? parent = slot.child? node ∨
    Padded around slot node ∧ slot.child? parent = some .null

variable {around : List Slot} {other : Slot} {node value : Json} {size : Option Nat}

theorem Intact.start (around : List Slot) (slot : Slot) (node : Json) :
    Intact around slot node node :=
  ⟨rfl, rfl, .inl rfl⟩

theorem Padded.child? (padded : Padded around slot node) : slot.child? node = none := by
  obtain ⟨items, index, rfl, found, past, -⟩ := padded
  simp [Slot.child?, found, past]

/-- Putting something at another place leaves a container as it is seen from a place. -/
theorem Intact.assign (intact : Intact around slot node parent) (apart : Slot.Apart node slot other)
    (among : other ∈ around) (value : Json) :
    Intact around slot node (other.assign value parent) := by
  obtain ⟨object, array, child⟩ := intact
  cases parent with
  | obj members =>
    refine ⟨object, array, ?_⟩
    cases node with
    | obj before =>
      have kept : slot.child? (other.assign value (.obj members)) = slot.child? (.obj members) :=
        Members.get?_put_of_ne apart value members
      rwa [kept]
    | _ => cases object
  | arr items =>
    cases node with
    | arr before =>
      cases found : other.index? with
      | none =>
        have kept : other.assign value (.arr items) = .arr items := by simp [Slot.assign, found]
        rw [kept]
        exact ⟨object, array, child⟩
      | some further =>
        have grown : other.assign value (.arr items) = .arr (Slot.grow further value items) := by
          simp [Slot.assign, found]
        rw [grown]
        refine ⟨rfl, rfl, ?_⟩
        cases own : slot.index? with
        | none => simp [Slot.child?, own]
        | some index =>
          have ne : index ≠ further := fun same => apart (by rw [own, found, same])
          simp only [Slot.child?, own, Option.bind_some, Slot.getElem?_grow, if_neg ne] at child ⊢
          by_cases held : index < items.length
          · rwa [if_pos held]
          · rw [List.getElem?_eq_none (Nat.le_of_not_lt held)] at child
            have absent : before[index]? = none := by
              rcases child with same | ⟨-, null⟩
              · exact same.symm
              · cases null
            rw [if_neg held]
            by_cases within : index < further
            · rw [if_pos within]
              have past := List.getElem?_eq_none_iff.mp absent
              exact .inr ⟨⟨before, index, rfl, own, past, other, among, further, found, within⟩, rfl⟩
            · rw [if_neg within]
              exact .inl absent.symm
    | _ => cases array
  | _ => exact ⟨object, array, child⟩

/-- The length that a define goes by is known, so that it does not change with the array. -/
def Sized (mode : WriteMode) (size : Option Nat) (node : Json) : Prop :=
  mode = .define → node.isArray = true → size.isSome = true

theorem Intact.permits (intact : Intact around slot node parent) (sized : Sized mode size node) :
    mode.permits slot size parent = mode.permits slot size node := by
  obtain ⟨object, array, child⟩ := intact
  cases parent with
  | obj members =>
    cases node with
    | obj before =>
      have same : Members.get? slot.key members = Members.get? slot.key before := by
        rcases child with same | ⟨⟨_, _, other, -⟩, -⟩
        · exact same
        · cases other
      cases mode <;> simp [WriteMode.permits, WriteMode.allowsMember, Members.has, same]
    | _ => cases object
  | arr items =>
    cases node with
    | arr before =>
      cases own : slot.index? with
      | none => simp [WriteMode.permits, own]
      | some index =>
        simp only [Slot.child?, own, Option.bind_some] at child
        cases mode with
        | overwrite => simp [WriteMode.permits, own, WriteMode.allowsItem]
        | fill =>
          rcases child with same | ⟨padded, null⟩
          · simp [WriteMode.permits, own, WriteMode.allowsItem, same]
          · have absent := padded.child?
            simp only [Slot.child?, own, Option.bind_some] at absent
            simp [WriteMode.permits, own, WriteMode.allowsItem, null, absent]
        | define =>
          obtain ⟨length, known⟩ := Option.isSome_iff_exists.mp (sized rfl rfl)
          simp [WriteMode.permits, own, WriteMode.allowsItem, known]
    | _ => cases array
  | _ =>
    cases node with
    | obj before => cases object
    | arr before => cases array
    | _ => rfl

private theorem Intact.ground? (intact : Intact around slot node parent)
    (sized : Sized mode size node)
    (shape : Shape) : ground? mode shape slot size parent = ground? mode shape slot size node := by
  have permitted := intact.permits sized
  unfold Modify.ground?
  rcases intact.child with same | ⟨padded, null⟩
  · rw [same, permitted]
  · rw [null, padded.child?, permitted]

/-- Nothing and null are the same for a formula as a current value; branches do not look. -/
def Steady : Node → Prop
  | .leaf formula => ∀ w context,
    formula.evaluate w context none = formula.evaluate w context (some .null)
  | .branch _ _ => True

/-- An effect is the same wherever the container is as it was, seen from the place. -/
theorem effect_intact {t : Node} {element : Element} (intact : Intact around slot node parent)
    (sized : Sized mode (sizeBefore w) node) (steady : Padded around slot node → Steady t) :
    effect mode context t element slot snapshot w parent =
      effect mode context t element slot snapshot w node := by
  unfold effect
  cases t with
  | leaf formula =>
    have current (inner : Walk) : formula.evaluate inner context (slot.child? parent) =
        formula.evaluate inner context (slot.child? node) := by
      rcases intact.child with same | ⟨padded, null⟩
      · rw [same]
      · rw [null, padded.child?, steady padded]
    simp only [current, intact.permits sized]
  | branch shape children => simp only [intact.ground? sized]

def settleAll (parent : Json) (puts : List (Slot × Option Json)) : Json :=
  puts.foldl (fun parent put => settle put.1 parent put.2) parent

/-- The effect of a child, together with its place. -/
def putAt (mode : WriteMode) (context : Json) (snapshot : Option Json) (w : Walk) (node : Json)
    (taking : Slot × Element × Node) : Except RunError (Slot × Option Json) :=
  (effect mode context taking.2.2 taking.2.1 taking.1 snapshot w node).map (taking.1, ·)

/-- Effects at places that are apart are all told by the container as it was. -/
theorem perform_eq {takings : List (Slot × Element × Node)}
    (apart : takings.Pairwise fun first later => Slot.Apart node first.1 later.1)
    (sized : Sized mode (sizeBefore w) node) (among : ∀ taking ∈ takings, taking.1 ∈ around)
    (steady : ∀ taking ∈ takings, Padded around taking.1 node → Steady taking.2.2)
    (intact : ∀ taking ∈ takings, Intact around taking.1 node parent) :
    perform mode context snapshot w takings parent =
      (takings.mapM (putAt mode context snapshot w node)).map (settleAll parent) := by
  induction takings generalizing parent with
  | nil => rfl
  | cons taking rest ih =>
    obtain ⟨slot, element, t⟩ := taking
    obtain ⟨first, apart⟩ := List.pairwise_cons.mp apart
    obtain ⟨here, among⟩ := List.forall_mem_cons.mp among
    obtain ⟨calm, steady⟩ := List.forall_mem_cons.mp steady
    obtain ⟨own, intact⟩ := List.forall_mem_cons.mp intact
    rw [perform, effect_intact own sized calm, List.mapM_cons, putAt, Outcome.map_bind]
    cases effect mode context t element slot snapshot w node with
    | error e => rfl
    | ok put =>
      have kept : ∀ taking ∈ rest, Intact around taking.1 node (settle slot parent put) := by
        intro taking present
        cases put with
        | none => exact intact taking present
        | some value =>
          exact (intact taking present).assign (first taking present).symm here value
      simp only [Outcome.ok_bind, ih apart among steady kept]
      cases rest.mapM (putAt mode context snapshot w node) with
      | error e => rfl
      | ok puts => rfl

/-- A single effect needs nothing of the others. -/
theorem perform_single {takings : List (Slot × Element × Node)} (single : takings.length ≤ 1)
    (node : Json) : perform mode context snapshot w takings node =
      (takings.mapM (putAt mode context snapshot w node)).map (settleAll node) := by
  cases takings with
  | nil => rfl
  | cons taking rest =>
    obtain rfl : rest = [] := List.length_eq_zero_iff.mp (by simpa using single)
    obtain ⟨slot, element, t⟩ := taking
    rw [perform, List.mapM_cons, putAt, Outcome.map_bind]
    cases effect mode context t element slot snapshot w node with
    | error e => rfl
    | ok put => rfl

variable {doc another : Json} {puts others : List (Slot × Option Json)}

/-- Something at the same place that is alike. -/
def AlikePut (put another : Slot × Option Json) : Prop :=
  put.1 = another.1 ∧ Option.Rel Json.Alike put.2 another.2

theorem rel_refl (put : Option Json) : Option.Rel Json.Alike put put := by
  cases put with
  | none => exact .none
  | some value => exact .some (.refl value)

theorem rel_trans {first second third : Option Json} (one : Option.Rel Json.Alike first second)
    (two : Option.Rel Json.Alike second third) : Option.Rel Json.Alike first third := by
  cases one with
  | none => exact two
  | some alike =>
    cases two with
    | some also => exact .some (alike.trans also)

private theorem settle_alike {put written : Option Json} (alike : doc.Alike another)
    (values : Option.Rel Json.Alike put written) (distinct : HasDistinctKeys doc) :
    (settle slot doc put).Alike (settle slot another written) := by
  cases values with
  | none => exact alike
  | some values => exact Slot.assign_alike alike values distinct

theorem hasDistinctKeys_settle (distinct : HasDistinctKeys doc) (put : Option Json) :
    HasDistinctKeys (settle slot doc put) := by
  cases put with
  | none => exact distinct
  | some value => exact Slot.hasDistinctKeys_assign distinct value

theorem settleAll_alike (alike : doc.Alike another) (distinct : HasDistinctKeys doc)
    (each : List.Forall₂ AlikePut puts others) :
    (settleAll doc puts).Alike (settleAll another others) := by
  induction each generalizing doc another with
  | nil => exact alike
  | @cons put written _ _ first _ ih =>
    obtain ⟨place, values⟩ := first
    have settled : (settle put.1 doc put.2).Alike (settle written.1 another written.2) :=
      place ▸ settle_alike alike values distinct
    exact ih settled (hasDistinctKeys_settle distinct put.2)

private theorem apart_settle {first second : Slot} (apart : Slot.Apart doc first second)
    (slot : Slot) (put : Option Json) : Slot.Apart (settle slot doc put) first second := by
  cases put with
  | none => exact apart
  | some value =>
    cases doc with
    | arr items =>
      cases own : slot.index? with
      | none => rwa [settle, Option.elim_some, Slot.assign_arr_of_none own]
      | some index =>
        rw [settle, Option.elim_some, Slot.assign_arr own]
        exact apart
    | _ => exact apart

/-- Effects at places that are apart can change places. -/
theorem settle_comm {first second : Slot} (apart : Slot.Apart doc first second)
    (one two : Option Json) : (settle first (settle second doc two) one).Alike
      (settle second (settle first doc one) two) := by
  cases one with
  | none => exact .refl _
  | some value =>
    cases two with
    | none => exact .refl _
    | some written => exact Slot.assign_comm apart value written

theorem settleAll_perm (same : puts.Perm others) (distinct : HasDistinctKeys doc)
    (apart : puts.Pairwise fun first later => Slot.Apart doc first.1 later.1) :
    (settleAll doc puts).Alike (settleAll doc others) := by
  induction same generalizing doc with
  | nil => exact .refl doc
  | @cons put rest more _ ih =>
    refine ih (hasDistinctKeys_settle distinct _) ?_
    exact (List.pairwise_cons.mp apart).2.imp fun between => apart_settle between put.1 put.2
  | @swap first second rest =>
    obtain ⟨later, -⟩ := List.pairwise_cons.mp apart
    have between := later first (List.mem_cons_self ..)
    have reflexive : List.Forall₂ AlikePut rest rest :=
      List.forall₂_same.mpr fun put _ => ⟨rfl, rel_refl put.2⟩
    have settled : HasDistinctKeys (settle first.1 (settle second.1 doc second.2) first.2) :=
      hasDistinctKeys_settle (hasDistinctKeys_settle distinct second.2) first.2
    have swapped := settle_comm between.symm first.2 second.2
    simpa only [settleAll, List.foldl_cons] using settleAll_alike swapped settled reflexive
  | @trans first second third one _ ihOne ihTwo =>
    have symmetric {put another : Slot × Option Json} (between : Slot.Apart doc put.1 another.1) :
        Slot.Apart doc another.1 put.1 := between.symm
    exact (ihOne distinct apart).trans (ihTwo distinct (one.pairwise apart symmetric))

end Modify

end Transform

end Reshape
