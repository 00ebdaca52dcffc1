import Reshape.Proofs.Spec.Orders

namespace Reshape.Spec

open Key Outcome

variable {C B L : Type}

def childrenOf (entries : List (Entry B L)) : List (Element × Tree B L) :=
  entries.map fun entry => (entry.element, entry.tree)

namespace Dialect

variable {d : Dialect C B L} {limit depth : Nat} {outer inner : C} {path : Pointer}
variable {members more : Members} {found : List (Entry B L)}

theorem compileMembers_append (members more : Members) :
    d.compileMembers limit outer depth path (members ++ more) =
      d.compileMembers limit outer depth path members >>= fun first =>
        (d.compileMembers limit outer depth path more).map (first ++ ·) := by
  rw [compileMembers_eq, compileMembers_eq, compileMembers_eq, List.mapM_append]
  cases members.mapM (d.compileMember limit outer depth path) with
  | error e => rfl
  | ok first =>
    cases more.mapM (d.compileMember limit outer depth path) with
    | error e => rfl
    | ok later => exact congrArg Except.ok List.flatten_append

theorem compileMembers_cons (member : String × Json) (rest : Members) :
    d.compileMembers limit outer depth path (member :: rest) =
      d.compileMember limit outer depth path member >>= fun first =>
        (d.compileMembers limit outer depth path rest).map (first ++ ·) := by
  rw [compileMembers_eq, compileMembers_eq, List.mapM_cons]
  cases d.compileMember limit outer depth path member with
  | error e => rfl
  | ok first =>
    cases rest.mapM (d.compileMember limit outer depth path) with
    | error e => rfl
    | ok later => rfl

theorem compileMembers_cons_eq_ok {member : String × Json} :
    d.compileMembers limit outer depth path (member :: more) = .ok found ↔
      ∃ first later, d.compileMember limit outer depth path member = .ok first ∧
        d.compileMembers limit outer depth path more = .ok later ∧ first ++ later = found := by
  rw [compileMembers_cons, bind_eq_ok]
  simp only [map_eq_ok, exists_and_left]

theorem compileMembers_singleton (member : String × Json) :
    d.compileMembers limit outer depth path [member] =
      d.compileMember limit outer depth path member := by
  rw [compileMembers_cons, compileMembers]
  cases d.compileMember limit outer depth path member with
  | error e => rfl
  | ok found => exact congrArg Except.ok (List.append_nil found)

def compileElement (d : Dialect C B L) (outer inner : C) (path : Pointer) (value : Json)
    (below : Except BuildError (B × Siblings (Tree B L))) (element : Element) :
    Except BuildError (Entry B L) :=
  (d.child outer inner path element value below).map fun (used, tree) =>
    ⟨path, element, used, tree⟩

theorem entries_eq_mapM {value : Json} {below : Except BuildError (B × Siblings (Tree B L))}
    (elements : List Element) :
    d.entries outer inner path value below elements =
      elements.mapM (d.compileElement outer inner path value below) := by
  induction elements with
  | nil => rfl
  | cons element rest ih =>
    rw [entries, List.mapM_cons, ih, compileElement]
    cases d.child outer inner path element value below with
    | error e => rfl
    | ok made => rfl

/-- A member compiles if its value is accepted, its key is read, and each of its elements
compiles. -/
theorem compileMember_eq_ok {key : String} {value : Json} :
    d.compileMember limit outer depth path (key, value) = .ok found ↔
      d.accept value = .ok () ∧ ∃ elements,
        readKey (Pointer.child path key) (d.splitKey key).1 = .ok elements ∧
        elements.mapM (d.compileElement outer (d.splitKey key).2 (Pointer.child path key) value
          (d.compile limit (d.splitKey key).2 (depth + 1) (Pointer.child path key) value)) =
            .ok found := by
  rw [compileMember]
  cases d.accept value with
  | error fault => simp
  | ok accepted => simp only [bind_eq_ok, entries_eq_mapM, true_and]

/-- An entry of a node is the child that one element of the key of one member makes. -/
theorem exists_child {entry : Entry B L}
    (compiled : d.compileMembers limit outer depth path members = .ok found)
    (present : entry ∈ found) :
    ∃ key value, (key, value) ∈ members ∧
      (∃ elements, readKey (Pointer.child path key) (d.splitKey key).1 = .ok elements ∧
        entry.written ∈ elements) ∧
      d.child outer (d.splitKey key).2 (Pointer.child path key) entry.written value
        (d.compile limit (d.splitKey key).2 (depth + 1) (Pointer.child path key) value) =
          .ok (entry.element, entry.tree) := by
  rw [compileMembers_eq] at compiled
  obtain ⟨groups, each, rfl⟩ := map_eq_ok.mp compiled
  obtain ⟨group, among, present⟩ := List.mem_flatten.mp present
  obtain ⟨⟨key, value⟩, listed, made⟩ := exists_of_mapM each among
  obtain ⟨-, elements, read, made⟩ := compileMember_eq_ok.mp made
  obtain ⟨element, named, made⟩ := exists_of_mapM made present
  obtain ⟨⟨used, tree⟩, child, rfl⟩ := map_eq_ok.mp made
  exact ⟨key, value, listed, ⟨elements, read, named⟩, child⟩

theorem assemble_eq_ok {entries : List (Entry B L)} {info : B} {s : Siblings (Tree B L)} :
    d.assemble outer path entries = .ok (info, s) ↔
      d.close outer entries = .ok info ∧ Siblings.ofChildren path (childrenOf entries) = .ok s := by
  rw [assemble, bind_eq_ok]
  simp only [bind_eq_ok, Except.ok.injEq, Prod.mk.injEq]
  constructor
  · rintro ⟨closed, one, siblings, accepted, rfl, rfl⟩
    exact ⟨one, accepted⟩
  · rintro ⟨one, accepted⟩
    exact ⟨info, one, s, accepted, rfl, rfl⟩

/-- A node compiles if it is not too deep, has members, and they make children that are
accepted. -/
theorem compile_eq_ok {info : B} {s : Siblings (Tree B L)} :
    d.compile limit outer depth path (.obj members) = .ok (info, s) ↔
      depth ≤ limit ∧ members ≠ [] ∧
        ∃ entries, d.compileMembers limit outer depth path members = .ok entries ∧
          d.close outer entries = .ok info ∧
          Siblings.ofChildren path (childrenOf entries) = .ok s := by
  rw [compile_obj, ← compileMembers_eq]
  split
  · rename_i deep
    simp [Nat.not_le.mpr deep]
  split
  · rename_i none
    simp [List.isEmpty_iff.mp none]
  · rename_i shallow filled
    rw [List.isEmpty_iff] at filled
    simp only [bind_eq_ok, assemble_eq_ok, Nat.not_lt.mp shallow, filled, ne_eq, not_false_eq_true,
      true_and]

end Dialect

end Reshape.Spec
