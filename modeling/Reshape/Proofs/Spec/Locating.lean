import Reshape.Proofs.Pointers
import Reshape.Proofs.Spec.Compiling
import Reshape.Proofs.Twins

namespace Reshape.Spec

open Key Outcome

/-- A key has an alternative that is read as an element. -/
def HasAlternative (key : String) (element : Element) : Prop :=
  ∃ alternative ∈ alternatives key, Element.parse alternative = .ok element

namespace Siblings

variable {α : Type} {path : Pointer} {children : List (Element × α)} {e : BuildError}

theorem check_eq_error {seen : List String} (failed : check path seen children = .error e) :
    (∃ canonical, e = ⟨path, .duplicateKey canonical⟩) ∨
      ∃ child ∈ children, child.1.role = .index ∧
        e = ⟨Pointer.child path child.1.canonical, .indexKey⟩ := by
  induction children generalizing seen with
  | nil => cases failed
  | cons child rest ih =>
    rw [check] at failed
    split at failed
    · cases failed
      exact .inl ⟨_, rfl⟩
    split at failed
    · rename_i index
      cases failed
      exact .inr ⟨child, List.mem_cons_self, index, rfl⟩
    · rcases ih failed with twice | ⟨other, present, found⟩
      · exact .inl twice
      · exact .inr ⟨other, List.mem_cons_of_mem child present, found⟩

end Siblings

/-- An error points to a node of a spec that stands at a path. -/
def AtNode (spec : Json) (path : Pointer) (e : BuildError) : Prop :=
  e.fault ≠ .indexKey ∧ ∃ place, e.path = path ++ place ∧ (spec.at? place).isSome

theorem AtNode.here (spec : Json) {e : BuildError} (other : e.fault ≠ .indexKey) :
    AtNode spec e.path e :=
  ⟨other, [], (List.append_nil _).symm, rfl⟩

theorem at?_member {members : Members} {key : String} {value : Json}
    (held : Members.get? key members = some value) (place : Pointer) :
    (Json.obj members).at? (key :: place) = value.at? place := by
  rw [Json.at?, Json.step?, held, Option.bind_some]

namespace Dialect

variable {C B L : Type} {d : Dialect C B L} {kind : Element → Prop}

/-- An error about an array position among the keys of a node of a spec that stands at a path
points below the node, at the canonical form of the position. -/
def AtPosition (d : Dialect C B L) (kind : Element → Prop) (spec : Json) (path : Pointer)
    (e : BuildError) : Prop :=
  e.fault = .indexKey ∧ ∃ parent members key element,
    e.path = path ++ (parent ++ [element.canonical]) ∧ spec.at? parent = some (.obj members) ∧
      Members.has key members = true ∧ HasAlternative (d.splitKey key).1 element ∧ kind element ∧
      element.role = .index

/-- Where an error of a spec that stands at a path points. -/
def Points (d : Dialect C B L) (kind : Element → Prop) (spec : Json) (path : Pointer)
    (e : BuildError) : Prop :=
  AtNode spec path e ∨ d.AtPosition kind spec path e

/-- The errors of a dialect point to nodes of the values that they are about, and it uses array
positions as they are written. -/
structure Locates (d : Dialect C B L) : Prop where
  accept {value : Json} {fault : SpecFault} (refused : d.accept value = .error fault) :
    fault ≠ .indexKey
  child {outer inner : C} {path : Pointer} {element : Element} {value : Json}
      {below : Except BuildError (B × Siblings (Tree B L))} {e : BuildError}
      (failed : d.child outer inner path element value below = .error e) :
    below = .error e ∨ AtNode value path e
  close {outer : C} {entries : List (Entry B L)} {e : BuildError}
      (failed : d.close outer entries = .error e) :
    e.fault ≠ .indexKey ∧ ∃ entry ∈ entries, e.path = entry.path
  used {outer inner : C} {path : Pointer} {element used : Element} {value : Json}
      {below : Except BuildError (B × Siblings (Tree B L))} {tree : Tree B L}
      (made : d.child outer inner path element value below = .ok (used, tree))
      (index : used.role = .index) : used = element

variable {limit depth : Nat} {outer : C} {path : Pointer} {members : Members} {e : BuildError}
variable {key : String} {value spec : Json}

/-- What points to a place of a member points to a place of the object. -/
theorem Points.member (held : Members.get? key members = some value)
    (points : d.Points kind value (Pointer.child path key) e) :
    d.Points kind (.obj members) path e := by
  have below (place : Pointer) : Pointer.child path key ++ place = path ++ key :: place := by
    rw [Pointer.child, List.append_assoc, List.singleton_append]
  rcases points with ⟨other, place, same, present⟩ | ⟨index, parent, keys, written, element, found⟩
  · exact .inl ⟨other, key :: place, same.trans (below place), by rwa [at?_member held]⟩
  · obtain ⟨same, node, found⟩ := found
    refine .inr ⟨index, key :: parent, keys, written, element, same.trans (below _), ?_, found⟩
    rwa [at?_member held]

private theorem readKey_eq_error (failed : readKey path key = .error e) : AtNode value path e := by
  obtain ⟨alternative, -, failed⟩ := exists_of_mapM_eq_error failed
  split at failed
  · cases failed
  · cases failed
    exact .here value nofun

theorem compileMember_points (locates : d.Locates)
    (below : ∀ inner e, d.compile limit inner (depth + 1) (Pointer.child path key) value = .error e →
      d.Points kind value (Pointer.child path key) e)
    (failed : d.compileMember limit outer depth path (key, value) = .error e) :
    d.Points kind value (Pointer.child path key) e := by
  rw [compileMember] at failed
  split at failed
  · rename_i refused
    cases failed
    exact .inl (.here value (locates.accept refused))
  rcases bind_eq_error.mp failed with unread | ⟨elements, -, failed⟩
  · exact .inl (readKey_eq_error unread)
  rw [entries_eq_mapM] at failed
  obtain ⟨element, -, failed⟩ := exists_of_mapM_eq_error failed
  rcases locates.child (map_eq_error.mp failed) with failed | located
  · exact below _ e failed
  · exact .inl located

/-- An entry stands at the key of one of the members and is written as the key says. -/
theorem mem_compileMembers (locates : d.Locates) (uses : d.Uses kind) {found : List (Entry B L)}
    {entry : Entry B L} (compiled : d.compileMembers limit outer depth path members = .ok found)
    (present : entry ∈ found) :
    ∃ key, Members.has key members = true ∧ entry.path = Pointer.child path key ∧
      kind entry.element ∧
      (entry.element.role = .index → HasAlternative (d.splitKey key).1 entry.element) := by
  rw [compileMembers_eq] at compiled
  obtain ⟨groups, made, rfl⟩ := map_eq_ok.mp compiled
  obtain ⟨group, chosen, present⟩ := List.mem_flatten.mp present
  obtain ⟨⟨key, value⟩, member, compiled⟩ := exists_of_mapM made chosen
  obtain ⟨-, elements, read, compiled⟩ := compileMember_eq_ok.mp compiled
  obtain ⟨element, listed, compiled⟩ := exists_of_mapM compiled present
  obtain ⟨⟨used, tree⟩, made, rfl⟩ := map_eq_ok.mp compiled
  refine ⟨key, Members.has_iff.mpr (List.mem_map_of_mem member), rfl, uses made, fun index => ?_⟩
  obtain ⟨alternative, written, read⟩ := exists_of_mapM read listed
  refine ⟨alternative, written, ?_⟩
  rw [show (Entry.mk (Pointer.child path key) element used tree).element = used from rfl,
    locates.used made index]
  split at read
  · rename_i parsed
    cases read
    exact parsed
  · cases read

private theorem assemble_points (locates : d.Locates) (uses : d.Uses kind)
    {found : List (Entry B L)}
    (compiled : d.compileMembers limit outer depth path members = .ok found)
    (failed : d.assemble outer path found = .error e) : d.Points kind (.obj members) path e := by
  rcases bind_eq_error.mp failed with unclosed | ⟨info, -, failed⟩
  · obtain ⟨other, entry, present, same⟩ := locates.close unclosed
    obtain ⟨key, held, stands, -⟩ := mem_compileMembers locates uses compiled present
    refine .inl ⟨other, [key], same.trans stands, ?_⟩
    rw [Json.at?_singleton]
    exact held
  rcases bind_eq_error.mp failed with refused | ⟨siblings, -, built⟩
  · rcases Siblings.check_eq_error (Siblings.ofChildren_eq_error.mp refused) with
      ⟨canonical, rfl⟩ | ⟨child, present, index, rfl⟩
    · exact .inl (.here _ nofun)
    · obtain ⟨entry, listed, rfl⟩ := List.mem_map.mp present
      obtain ⟨key, held, -, used, spells⟩ := mem_compileMembers locates uses compiled listed
      exact .inr ⟨rfl, [], members, key, entry.element, rfl, rfl, held, spells index, used, index⟩
  · cases built

private theorem compile_scalar_points (plain : spec.isObject = false)
    (failed : d.compile limit outer depth path spec = .error e) : d.Points kind spec path e := by
  cases spec with
  | obj members => cases plain
  | _ =>
    unfold compile at failed
    split at failed <;> cases failed <;> exact .inl (.here _ nofun)

/-- Every error of compiling a spec points to a place of it. -/
theorem compile_points (locates : d.Locates) (uses : d.Uses kind) (keyed : spec.Keyed)
    (failed : d.compile limit outer depth path spec = .error e) : d.Points kind spec path e := by
  induction keyed generalizing outer depth path e with
  | scalar plain => exact compile_scalar_points (Bool.or_eq_false_iff.mp plain).2 failed
  | array each _ => exact compile_scalar_points rfl failed
  | @object members distinct each ih =>
    rw [compile_obj] at failed
    split at failed
    · cases failed
      exact .inl (.here _ nofun)
    split at failed
    · cases failed
      exact .inl (.here _ nofun)
    rw [← compileMembers_eq] at failed
    rcases bind_eq_error.mp failed with refused | ⟨found, compiled, failed⟩
    · rw [compileMembers_eq] at refused
      obtain ⟨⟨key, value⟩, present, refused⟩ := exists_of_mapM_eq_error (map_eq_error.mp refused)
      -- the keys are distinct, so the key of the member that failed leads to that member
      refine .member ((Members.get?_eq_some_iff distinct).mpr present) ?_
      exact compileMember_points locates (fun _ _ failed => ih (key, value) present failed) refused
    · exact assemble_points locates uses compiled failed

/-- Where no array positions are used, every error points to a node. -/
theorem Points.atNode (points : d.Points (fun element => element.role ≠ .index) spec path e) :
    AtNode spec path e := by
  rcases points with located | ⟨-, _, _, _, _, -, -, -, -, other, index⟩
  · exact located
  · exact absurd index other

theorem compileRoot_atNode (locates : d.Locates)
    (uses : d.Uses fun element => element.isStatic = true) (keyed : spec.Keyed) {context : C}
    (failed : d.compileRoot limit context spec = .error e) : AtNode spec [] e := by
  refine (compile_points locates (fun made => ?_) keyed failed).atNode
  exact role_ne_index_of_isStatic (uses made)

end Dialect

end Reshape.Spec
