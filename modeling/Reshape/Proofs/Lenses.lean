import Reshape.Proofs.Routes

/-! The laws of reading, writing and removing along a route without new items. A place that
was written is read as the data joined with the old value by the policy, every other place is
read as before, but for nulls that pad an array, and what is removed is what was read and
nothing else. -/

namespace Reshape

open Decimal

def WritePolicy.left (policy : WritePolicy) (old : Option Json) (data : Json) : Json :=
  match policy, old with
  | .overwrite, _ => data
  | .collect, none => data
  | .collect, some .null => data
  | .collect, some (.arr items) => .arr (items ++ [data])
  | .collect, some old => .arr [old, data]

/-- The members around one that is found. -/
theorem Members.around {key : String} {value : Json} {members : Members}
    (found : get? key members = some value) (distinct : (members.map (·.1)).Nodup) :
    ∃ before after, members = before ++ (key, value) :: after ∧
      key ∉ before.map (·.1) ∧ key ∉ after.map (·.1) := by
  obtain ⟨before, after, rfl⟩ := List.append_of_mem (mem_of_get? found)
  rw [List.map_append, List.map_cons, List.nodup_middle, List.nodup_cons, List.mem_append,
    not_or] at distinct
  exact ⟨before, after, rfl, distinct.1⟩

theorem Members.erase_of_not_mem {key : String} {members : Members}
    (absent : key ∉ members.map (·.1)) : erase key members = members := by
  induction members with
  | nil => rfl
  | cons member rest ih =>
    obtain ⟨further, later⟩ := not_or.mp (mt List.mem_cons.mpr absent)
    rw [erase, if_neg (Ne.symm further), ih later]

theorem Members.erase_append (key : String) (members more : Members) :
    erase key (members ++ more) = erase key members ++ erase key more := by
  induction members with
  | nil => rfl
  | cons member rest ih =>
    rw [List.cons_append, erase, erase, ih]
    split <;> rfl

/-- The items around one that is found. -/
theorem Json.items_around {items : List Json} {index : Nat} {value : Json}
    (found : items[index]? = some value) :
    ∃ before after, items = before ++ value :: after ∧ before.length = index := by
  obtain ⟨within, rfl⟩ := List.getElem?_eq_some_iff.mp found
  refine ⟨items.take index, items.drop (index + 1), ?_, List.length_take_of_le within.le⟩
  rw [List.getElem_cons_drop, List.take_append_drop]

namespace Route

variable {policy : WritePolicy} {kind : StepKind} {key other : String} {data doc out : Json}
  {route : Route}

/-- No step of a route makes a new item. -/
def Closed (route : Route) : Prop :=
  ∀ step ∈ route, step.1 ≠ .append

/-- Two routes take the same kinds of steps, and at some step they take different entries. -/
inductive Parted : Route → Route → Prop where
  | here {kind : StepKind} {key other : String} {rest further : Route}
      (apart : ¬ kind.SameEntry key other) (kinds : rest.map (·.1) = further.map (·.1)) :
      Parted ((kind, key) :: rest) ((kind, other) :: further)
  | later {kind : StepKind} {key other : String} {rest further : Route}
      (same : kind.SameEntry key other) (parted : Parted rest further) :
      Parted ((kind, key) :: rest) ((kind, other) :: further)

/-- A document without the value at the end of a route. Nothing else is changed. -/
inductive Deletes : Route → Json → Json → Json → Prop where
  | member {key : String} {value : Json} {before after : Members} :
      Deletes [(.member, key)] (.obj (before ++ (key, value) :: after)) value
        (.obj (before ++ after))
  | item {key : String} {value : Json} {before after : List Json}
      (read : readIndex key = some before.length) :
      Deletes [(.item, key)] (.arr (before ++ value :: after)) value (.arr (before ++ after))
  | inMember {key : String} {rest : Route} {child value left : Json} {before after : Members}
      (below : Deletes rest child value left) :
      Deletes ((.member, key) :: rest) (.obj (before ++ (key, child) :: after)) value
        (.obj (before ++ (key, left) :: after))
  | inItem {key : String} {rest : Route} {child value left : Json} {before after : List Json}
      (read : readIndex key = some before.length) (below : Deletes rest child value left) :
      Deletes ((.item, key) :: rest) (.arr (before ++ child :: after)) value
        (.arr (before ++ left :: after))

theorem get?_cons (kind : StepKind) (key : String) (rest : Route) (doc : Json) :
    get? ((kind, key) :: rest) doc = (kind.child? key doc).bind (get? rest) := rfl

theorem get?_null (kind : StepKind) (key : String) (rest : Route) :
    get? ((kind, key) :: rest) .null = none := by
  cases kind <;> rfl

/-- Nothing is read where a write has to create a container. -/
theorem get?_vacant (next : StepKind × String) (rest : Route)
    (vacant : kind.child? key doc = none ∨ kind.child? key doc = some .null) :
    get? ((kind, key) :: next :: rest) doc = none := by
  rcases vacant with missing | null
  · rw [get?_cons, missing, Option.bind_none]
  · rw [get?_cons, null, Option.bind_some, get?_null]

theorem get?_emptyContainer (container : StepKind) (next : StepKind × String) (rest : Route) :
    get? (next :: rest) container.emptyContainer = none := by
  rw [get?_cons, StepKind.child?_emptyContainer, Option.bind_none]

private theorem put_eq_true (written : put kind key data doc = (true, out)) :
    kind.putChild? key data doc = some out := by
  unfold put at written
  split at written
  · rename_i found
    cases written
    exact found
  · cases written

private theorem child?_setLast (closed : kind ≠ .append)
    (written : setLast policy kind key data doc = (true, out)) :
    kind.child? key out = some (policy.left (kind.child? key doc) data) := by
  have stored (put : put kind key data doc = (true, out)) : kind.child? key out = some data :=
    StepKind.child?_putChild? closed (put_eq_true put)
  unfold setLast at written
  split at written
  case h_1 => exact stored written
  case h_2 missing => rw [missing]; exact stored written
  case h_3 null => rw [null]; exact stored written
  case h_4 old unlike present =>
    cases written
    rw [StepKind.child?_replaceChild present, present]
    cases old with
    | null => exact absurd rfl unlike
    | _ => rfl

/-- What is read at a place that was written. -/
theorem get?_set (closed : Closed route) (doc : Json)
    (written : set policy data route doc = (true, out)) :
    get? route out = some (policy.left (get? route doc) data) := by
  induction route generalizing doc out with
  | nil => cases written
  | cons step rest ih =>
    obtain ⟨kind, key⟩ := step
    obtain ⟨first, later⟩ := List.forall_mem_cons.mp closed
    cases rest with
    | nil =>
      have last : setLast policy kind key data doc = (true, out) := written
      have found := child?_setLast first last
      simp only [found, Option.bind_some, get?]
      cases kind.child? key doc <;> rfl
    | cons next rest =>
      rcases vacant_or_present kind key doc with vacant | ⟨child, present, held⟩
      · rw [get?_vacant next rest vacant]
        rw [set_vacant_step policy data next rest vacant] at written
        cases stored : kind.putChild? key
            (set policy data (next :: rest) next.1.emptyContainer).2 doc with
        | none => rw [stored] at written; cases written
        | some put =>
          rw [stored] at written
          obtain ⟨done, rfl⟩ := Prod.mk.inj written
          have below := ih later next.1.emptyContainer (Prod.ext done rfl)
          rw [get?_cons, StepKind.child?_putChild? first stored, Option.bind_some, below,
            get?_emptyContainer]
      · rw [set_present_step policy data next rest present held] at written
        obtain ⟨done, rfl⟩ := Prod.mk.inj written
        have below := ih later child (Prod.ext done rfl)
        have read : get? ((kind, key) :: next :: rest) doc = get? (next :: rest) child := by
          rw [get?_cons, present, Option.bind_some]
        rw [get?_cons, StepKind.child?_replaceChild present, Option.bind_some, below, read]

/-- What is read at another place is what was read before, or a null that pads an array where
nothing was. -/
def Undisturbed (route : Route) (doc out : Json) : Prop :=
  get? route out = get? route doc ∨
    route.getLast?.map (·.1) = some .item ∧ get? route doc = none ∧ get? route out = some .null

theorem undisturbed_of_child? {further : Route}
    (same : kind.child? other out = kind.child? other doc) :
    Undisturbed ((kind, other) :: further) doc out :=
  .inl (by rw [get?_cons, get?_cons, same])

/-- All that a write does to a document is an edit of the entry under its first key. -/
inductive Edits (kind : StepKind) (key : String) (doc : Json) : Json → Prop where
  | skipped : Edits kind key doc doc
  | put {value out : Json} (written : kind.putChild? key value doc = some out) :
      Edits kind key doc out
  | replaced {held : Json} (present : kind.child? key doc = some held) (value : Json) :
      Edits kind key doc (kind.replaceChild key value doc)

private theorem put_edits (kind : StepKind) (key : String) (data doc : Json) :
    Edits kind key doc (put kind key data doc).2 := by
  unfold put
  split
  · rename_i written
    exact .put written
  · exact .skipped

private theorem setLast_edits (policy : WritePolicy) (kind : StepKind) (key : String)
    (data doc : Json) : Edits kind key doc (setLast policy kind key data doc).2 := by
  unfold setLast
  split
  · exact put_edits kind key data doc
  · exact put_edits kind key data doc
  · exact put_edits kind key data doc
  · rename_i present
    exact .replaced present _

theorem set_edits (policy : WritePolicy) (data : Json) (kind : StepKind) (key : String)
    (rest : Route) (doc : Json) :
    Edits kind key doc (set policy data ((kind, key) :: rest) doc).2 := by
  cases rest with
  | nil => exact setLast_edits policy kind key data doc
  | cons next rest =>
    rcases vacant_or_present kind key doc with vacant | ⟨child, present, held⟩
    · rw [set_vacant_step policy data next rest vacant]
      split
      · rename_i written
        exact .put written
      · exact .skipped
    · rw [set_present_step policy data next rest present held]
      exact .replaced present _

private theorem Edits.undisturbed (edits : Edits kind key doc out)
    (apart : ¬ kind.SameEntry key other)
    (further : Route) : Undisturbed ((kind, other) :: further) doc out := by
  cases edits with
  | skipped => exact .inl rfl
  | replaced present value =>
    exact undisturbed_of_child? (StepKind.child?_replaceChild_of_apart apart present value)
  | put written =>
    rcases StepKind.child?_putChild?_of_apart apart written with same | ⟨rfl, missing, padded⟩
    · exact undisturbed_of_child? same
    · have before : get? ((.item, other) :: further) doc = none := by
        rw [get?_cons, missing, Option.bind_none]
      cases further with
      | nil => exact .inr ⟨rfl, before, by rw [get?_cons, padded]; rfl⟩
      | cons next further =>
        refine .inl ?_
        rw [before, get?_cons, padded, Option.bind_some, get?_null]

/-- A place that is read through the same value as before, or through one that was created
where nothing could be read, is undisturbed if it is so below that value. -/
theorem undisturbed_cons {next : StepKind × String} {further : Route} {part below : Json}
    (read : get? ((kind, key) :: next :: further) doc = get? (next :: further) part)
    (found : kind.child? key out = some below) (kept : Undisturbed (next :: further) part below) :
    Undisturbed ((kind, key) :: next :: further) doc out := by
  have after : get? ((kind, key) :: next :: further) out = get? (next :: further) below := by
    rw [get?_cons, found, Option.bind_some]
  rw [Undisturbed, read, after, List.getLast?_cons_cons]
  exact kept

/-- A write leaves all places but its own. -/
theorem set_undisturbed {other : Route} (parted : Parted route other) (closed : Closed route)
    (policy : WritePolicy) (data doc : Json) :
    Undisturbed other doc (set policy data route doc).2 := by
  induction parted generalizing doc with
  | @here kind key other rest further apart kinds =>
    exact (set_edits policy data kind key rest doc).undisturbed apart further
  | @later kind key other rest further same parted ih =>
    obtain ⟨first, later⟩ := List.forall_mem_cons.mp closed
    obtain ⟨next, rest, nextOther, further, rfl, rfl⟩ : ∃ next tail nextOther tailOther,
        rest = next :: tail ∧ further = nextOther :: tailOther := by
      cases parted <;> exact ⟨_, _, _, _, rfl, rfl⟩
    have shared (doc : Json) := same.child? doc
    rcases vacant_or_present kind key doc with vacant | ⟨child, present, held⟩
    · rw [set_vacant_step policy data next rest vacant]
      split
      · rename_i out stored
        have found := StepKind.child?_putChild? first stored
        rw [shared] at vacant found
        refine undisturbed_cons ?_ found (ih later next.1.emptyContainer)
        rw [get?_vacant nextOther further vacant, get?_emptyContainer]
      · exact .inl rfl
    · rw [set_present_step policy data next rest present held]
      have found := StepKind.child?_replaceChild present
        (set policy data (next :: rest) child).2
      rw [shared] at found
      refine undisturbed_cons ?_ found (ih later child)
      rw [get?_cons, ← shared, present, Option.bind_some]

theorem remove?_cons (next : StepKind × String) (rest : Route) :
    remove? ((kind, key) :: next :: rest) doc =
      (kind.child? key doc).bind fun child =>
        (remove? (next :: rest) child).map fun (value, below) =>
          (value, kind.replaceChild key below doc) := rfl

private theorem map_takeChild? (kind : StepKind) (key : String) (doc : Json) :
    (kind.takeChild? key doc).map (·.1) = kind.child? key doc := by
  cases kind with
  | append => rfl
  | member =>
    cases doc with
    | obj members => simp [StepKind.takeChild?, StepKind.child?, Function.comp_def]
    | _ => rfl
  | item =>
    cases doc with
    | arr items => simp [StepKind.takeChild?, StepKind.child?, Option.map_bind, Function.comp_def]
    | _ => rfl

/-- What is removed is what was read. -/
theorem map_remove? (present : route ≠ []) (doc : Json) :
    (remove? route doc).map (·.1) = get? route doc := by
  induction route generalizing doc with
  | nil => exact absurd rfl present
  | cons step rest ih =>
    obtain ⟨kind, key⟩ := step
    cases rest with
    | nil =>
      rw [get?_cons, show get? [] = some from rfl, Option.bind_fun_some]
      exact map_takeChild? kind key doc
    | cons next rest =>
      rw [remove?_cons, get?_cons, Option.map_bind]
      refine Option.bind_congr fun child _ => ?_
      rw [← ih (List.cons_ne_nil next rest) child, Function.comp_apply, Option.map_map]
      rfl

theorem deletes_takeChild? {value : Json} (distinct : Spec.HasDistinctKeys doc)
    (taken : kind.takeChild? key doc = some (value, out)) :
    Deletes [(kind, key)] doc value out := by
  cases kind with
  | append => cases taken
  | member =>
    cases doc with
    | obj members =>
      obtain ⟨held, found, same⟩ := Option.map_eq_some_iff.mp taken
      obtain ⟨rfl, rfl⟩ := Prod.mk.inj same
      obtain ⟨before, after, rfl, absent, later⟩ := Members.around found distinct
      rw [Members.erase_append, Members.erase_of_not_mem absent, Members.erase, if_pos rfl,
        Members.erase_of_not_mem later]
      exact .member
    | _ => cases taken
  | item =>
    cases doc with
    | arr items =>
      obtain ⟨index, read, taken⟩ := Option.bind_eq_some_iff.mp taken
      obtain ⟨held, found, same⟩ := Option.map_eq_some_iff.mp taken
      obtain ⟨rfl, rfl⟩ := Prod.mk.inj same
      obtain ⟨before, after, rfl, rfl⟩ := Json.items_around found
      rw [List.eraseIdx_append_of_length_le (Nat.le_refl _), Nat.sub_self, List.eraseIdx_cons_zero]
      exact .item read
    | _ => cases taken

/-- Below a value that takes the place of another the rest of a document stays. -/
theorem Deletes.cons {rest : Route} {child below value : Json}
    (deletes : Deletes rest child value below) (found : kind.child? key doc = some child)
    (distinct : Spec.HasDistinctKeys doc) :
    Deletes ((kind, key) :: rest) doc value (kind.replaceChild key below doc) := by
  cases kind with
  | append => cases found
  | member =>
    cases doc with
    | obj members =>
      obtain ⟨before, after, rfl, absent, -⟩ := Members.around found distinct
      rw [StepKind.replaceChild, Members.put_append_of_not_mem absent, Members.put, if_pos rfl]
      exact .inMember deletes
    | _ => cases found
  | item =>
    cases doc with
    | arr items =>
      obtain ⟨index, read, present, replaced⟩ := StepKind.replaceChild_item found below
      obtain ⟨before, after, rfl, rfl⟩ := Json.items_around present
      rw [replaced, List.set_append_right _ _ (Nat.le_refl _), Nat.sub_self, List.set_cons_zero]
      exact .inItem read deletes
    | _ => cases found

private theorem keyed_child? {child : Json} (keyed : doc.Keyed)
    (found : kind.child? key doc = some child) : child.Keyed := by
  cases kind with
  | append => cases found
  | member =>
    cases doc with
    | obj members =>
      obtain ⟨plain⟩ | - | ⟨-, each⟩ := keyed
      · cases plain
      · exact each (key, child) (Members.mem_of_get? found)
    | _ => cases found
  | item =>
    cases doc with
    | arr items =>
      obtain ⟨index, -, present⟩ := Option.bind_eq_some_iff.mp found
      obtain ⟨plain⟩ | ⟨each⟩ | - := keyed
      · cases plain
      · exact each child (List.mem_of_getElem? present)
    | _ => cases found

/-- Removing deletes one entry and nothing else. -/
theorem deletes_remove? {value : Json} (keyed : doc.Keyed)
    (removed : remove? route doc = some (value, out)) : Deletes route doc value out := by
  induction route generalizing doc out with
  | nil => cases removed
  | cons step rest ih =>
    obtain ⟨kind, key⟩ := step
    cases rest with
    | nil => exact deletes_takeChild? keyed.hasDistinctKeys removed
    | cons next rest =>
      rw [remove?_cons] at removed
      obtain ⟨child, found, removed⟩ := Option.bind_eq_some_iff.mp removed
      obtain ⟨⟨held, below⟩, below_removed, same⟩ := Option.map_eq_some_iff.mp removed
      obtain ⟨rfl, rfl⟩ := Prod.mk.inj same
      exact (ih (keyed_child? keyed found) below_removed).cons found keyed.hasDistinctKeys

end Route

namespace Traversal

variable {t : Traversal} {keys others : List String} {doc : Json}

/-- The keys take different entries at some step, where keys of arrays are compared as
indices. -/
def Distinguishes (t : Traversal) (keys others : List String) : Prop :=
  ∃ step ∈ t.zip (keys.zip others), ¬ step.1.SameEntry step.2.1 step.2.2

/-- The laws of reading, writing and removing under some keys, where a value or nothing was
before. -/
structure LensLaws (t : Traversal) (keys : List String) (doc : Json) (old : Option Json) :
    Prop where
  reads : t.get? keys doc = .ok old
  writes (policy : WritePolicy) (data : Json) : ∃ done out,
    t.set policy keys data doc = .ok (done, out) ∧
      (done = true → t.get? keys out = .ok (some (policy.left old data))) ∧
      ∀ others : List String, others.length = t.length → t.Distinguishes keys others →
        ∃ before after, t.get? others doc = .ok before ∧ t.get? others out = .ok after ∧
          (after = before ∨ t.getLast? = some .item ∧ before = none ∧ after = some .null)
  removes : t ≠ [] → ∃ removed, t.remove? keys doc = .ok removed ∧ removed.map (·.1) = old ∧
    ∀ value out, removed = some (value, out) → Route.Deletes (t.zip keys) doc value out
  stays : t = [] → t.remove? keys doc = .ok none

theorem route_eq (count : keys.length = t.length) : t.route keys = .ok (t.zip keys) :=
  if_pos count

theorem closed_zip (closed : .append ∉ t) (keys : List String) : Route.Closed (t.zip keys) := by
  intro step present appended
  obtain ⟨kind, key⟩ := step
  exact closed (appended ▸ (List.of_mem_zip present).1)

theorem map_fst_zip (count : keys.length = t.length) : (t.zip keys).map (·.1) = t :=
  List.map_fst_zip count.ge

private theorem parted_zip (count : keys.length = t.length) (equal : others.length = t.length)
    (distinguishes : t.Distinguishes keys others) :
    Route.Parted (t.zip keys) (t.zip others) := by
  induction t generalizing keys others with
  | nil =>
    obtain ⟨step, present, -⟩ := distinguishes
    cases present
  | cons kind t ih =>
    obtain ⟨key, keys, rfl⟩ := List.exists_cons_of_length_eq_add_one count
    obtain ⟨other, others, rfl⟩ := List.exists_cons_of_length_eq_add_one equal
    have count : keys.length = t.length := Nat.succ.inj count
    have equal : others.length = t.length := Nat.succ.inj equal
    by_cases same : kind.SameEntry key other
    · obtain ⟨step, present, apart⟩ := distinguishes
      rcases List.mem_cons.mp present with rfl | further
      · exact absurd same apart
      · exact .later same (ih count equal ⟨step, further, apart⟩)
    · exact .here same ((map_fst_zip count).trans (map_fst_zip equal).symm)

/-- Reading, writing and removing obey the laws of a lens. With no steps the whole document
is read, and it can not be removed. -/
theorem lens_laws (closed : .append ∉ t) (count : keys.length = t.length) (keyed : doc.Keyed) :
    ∃ old, t.LensLaws keys doc old := by
  have closed := closed_zip closed keys
  refine ⟨Route.get? (t.zip keys) doc, ?_, ?_, ?_, ?_⟩
  · rw [get?, route_eq count, Except.map]
  · intro policy data
    obtain ⟨⟨done, out⟩, written⟩ : ∃ result, Route.set policy data (t.zip keys) doc = result :=
      ⟨_, rfl⟩
    refine ⟨done, out, by rw [set, route_eq count, Except.map, written], ?_, ?_⟩
    · rintro rfl
      rw [get?, route_eq count, Except.map, Route.get?_set closed doc written]
    · intro others equal distinguishes
      have kept := Route.set_undisturbed (parted_zip count equal distinguishes) closed policy data
        doc
      rw [written, Route.Undisturbed, ← List.getLast?_map, map_fst_zip equal] at kept
      refine ⟨_, _, by rw [get?, route_eq equal, Except.map], ?_, kept⟩
      rw [get?, route_eq equal, Except.map]
  · intro steps
    have present : t.zip keys ≠ [] := fun empty => steps (by rw [← map_fst_zip count, empty]; rfl)
    refine ⟨Route.remove? (t.zip keys) doc, ?_, Route.map_remove? present doc, ?_⟩
    · rw [remove?, route_eq count, Except.map]
    · exact fun value out removed => Route.deletes_remove? keyed removed
  · rintro rfl
    rw [remove?, route_eq count, Except.map, List.zip_nil_left, Route.remove?]

/-- An item past the end of an array is a place that obeys the laws. -/
theorem lens_laws_item :
    .append ∉ ([.member, .item] : Traversal) ∧
      ∃ old, LensLaws [.member, .item] ["a", "2"] (.obj [("a", .arr [.bool true])]) old := by
  have keyed : (Json.obj [("a", .arr [.bool true])]).Keyed := by
    refine .object (List.nodup_singleton _) fun member present => ?_
    cases List.mem_singleton.mp present
    refine .array fun item present => ?_
    cases List.mem_singleton.mp present
    exact .scalar rfl
  exact ⟨by decide, lens_laws (by decide) rfl keyed⟩

/-- With no steps a document is read that is not removed. -/
theorem remove?_no_steps :
    get? [] [] .null = .ok (some .null) ∧ remove? [] [] .null = .ok none :=
  ⟨rfl, rfl⟩

end Traversal

end Reshape
