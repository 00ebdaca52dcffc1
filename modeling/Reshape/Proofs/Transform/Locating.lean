import Reshape.Chain
import Reshape.Proofs.Removal
import Reshape.Proofs.Reordering
import Reshape.Proofs.Sifting
import Reshape.Proofs.Spec.Locating
import Reshape.Proofs.Unordered.Cardinality
import Reshape.Proofs.Unordered.Default
import Reshape.Proofs.Unordered.Predicates

namespace Reshape

open Key Spec Outcome

variable {pointer : Pointer} {element : Element} {value spec : Json} {e : BuildError}

namespace Transform

namespace Shift

variable {below : Except BuildError (Unit × Siblings Node)}

theorem readPath_eq_error {text : String} (failed : readPath pointer text = .error e) :
    AtNode value pointer e := by
  unfold readPath at failed
  split at failed
  · cases failed
  · cases failed
    exact .here value nofun

private theorem readEntry_eq_error {entry : Json} (failed : readEntry pointer entry = .error e) :
    AtNode value pointer e := by
  unfold readEntry at failed
  split at failed
  · exact readPath_eq_error failed
  · cases failed
    exact .here value nofun

private theorem child_eq_error (failed : child pointer element value below = .error e) :
    below = .error e ∨ AtNode value pointer e := by
  unfold child at failed
  split at failed
  · split at failed
    · cases failed
      exact .inr (.here _ nofun)
    · exact .inl (map_eq_error.mp failed)
  · exact .inr (readPath_eq_error (map_eq_error.mp failed))
  · obtain ⟨entry, -, failed⟩ := exists_of_mapM_eq_error (map_eq_error.mp failed)
    exact .inr (readEntry_eq_error failed)
  · cases failed
  · cases failed
    exact .inr (.here _ nofun)

private theorem child_element {used : Element} {tree : Node}
    (made : child pointer element value below = .ok (used, tree)) : used = element := by
  unfold child at made
  split at made
  · split at made
    · cases made
    · obtain ⟨_, -, built⟩ := map_eq_ok.mp made
      cases built
      rfl
  · obtain ⟨_, -, built⟩ := map_eq_ok.mp made
    cases built
    rfl
  · obtain ⟨_, -, built⟩ := map_eq_ok.mp made
    cases built
    rfl
  · cases made
    rfl
  · cases made

theorem locates : dialect.Locates where
  accept refused := nomatch refused
  child failed := child_eq_error failed
  close failed := nomatch failed
  used made _ := child_element made

end Shift

namespace Default

private theorem child_eq_error {outer inner : Container}
    {below : Except BuildError (Container × Siblings Node)}
    (failed : child outer inner pointer element value below = .error e) :
    below = .error e ∨ AtNode value pointer e := by
  unfold child at failed
  split at failed
  · rename_i fault refused
    cases failed
    refine .inr (.here value ?_)
    unfold checkElement at refused
    split at refused
    · split at refused
      · cases refused
        simp
      · cases refused
    · cases refused
    · cases refused
      simp
  · split at failed
    · exact .inl (map_eq_error.mp failed)
    · split at failed
      · cases failed
        exact .inr (.here _ (by simp))
      · cases failed

theorem locates : dialect.Locates where
  accept refused := nomatch refused
  child failed := child_eq_error failed
  close failed := nomatch failed
  used made index := absurd index (role_ne_index_of_isStatic (uses made))

end Default

namespace Remove

private theorem child_eq_error {below : Except BuildError (Unit × Siblings Node)}
    (failed : child pointer element value below = .error e) :
    below = .error e ∨ AtNode value pointer e := by
  unfold child at failed
  split at failed
  · split at failed
    · exact .inl (map_eq_error.mp failed)
    · split at failed
      · cases failed
      · cases failed
        exact .inr (.here _ nofun)
    · cases failed
      exact .inr (.here _ nofun)
  · cases failed
    exact .inr (.here _ nofun)

theorem locates : dialect.Locates where
  accept refused := nomatch refused
  child failed := child_eq_error failed
  close failed := nomatch failed
  used made index := absurd index (role_ne_index_of_isStatic (uses made))

end Remove

namespace Cardinality

theorem role_ne_index_of_isKey (key : isKey element = true) : element.role ≠ .index := by
  unfold isKey at key
  split at key
  · exact nofun
  · exact nofun
  · exact nofun
  · exact nofun
  · cases key

private theorem child_eq_error {below : Except BuildError (Unit × Siblings Node)}
    (failed : child pointer element value below = .error e) :
    below = .error e ∨ AtNode value pointer e := by
  unfold child at failed
  split at failed
  · split at failed
    · split at failed
      · cases failed
        exact .inr (.here _ nofun)
      · exact .inl (map_eq_error.mp failed)
    · split at failed
      · cases failed
      · cases failed
        exact .inr (.here _ nofun)
    · cases failed
      exact .inr (.here _ nofun)
  · cases failed
    exact .inr (.here _ nofun)

theorem locates : dialect.Locates where
  accept refused := nomatch refused
  child failed := child_eq_error failed
  close failed := nomatch failed
  used made index := absurd index (role_ne_index_of_isKey (uses made))

end Cardinality

namespace Filter

theorem Matcher.ofPattern_eq_error {source : String}
    (failed : ofPattern pointer source = .error e) : e.path = pointer ∧ e.fault ≠ .indexKey := by
  unfold ofPattern at failed
  split at failed
  · cases failed
  · cases failed
    exact ⟨rfl, nofun⟩

mutual

theorem Matcher.compile_eq_error : ∀ value, compile pointer value = .error e →
    e.path = pointer ∧ e.fault ≠ .indexKey
  | .str _ => fun failed => by
    rw [compile] at failed
    exact ofPattern_eq_error failed
  | .arr members => fun failed => by
    rw [compile] at failed
    exact compileAll_eq_error members (map_eq_error.mp failed)
  | .null | .bool _ | .num _ | .obj _ => fun failed => by cases failed

theorem Matcher.compileAll_eq_error : ∀ members, compileAll pointer members = .error e →
    e.path = pointer ∧ e.fault ≠ .indexKey
  | [] => fun failed => by cases failed
  | member :: rest => fun failed => by
    rw [compileAll] at failed
    rcases bind_eq_error.mp failed with first | ⟨_, -, failed⟩
    · exact compile_eq_error member first
    rcases bind_eq_error.mp failed with later | ⟨_, -, built⟩
    · exact compileAll_eq_error rest later
    · cases built

end

private theorem compilePredicates_eq_error {members : Members}
    (failed : compilePredicates pointer members = .error e) : AtNode (.obj members) pointer e := by
  rw [compilePredicates_eq_mapM] at failed
  obtain ⟨⟨field, value⟩, present, failed⟩ := exists_of_mapM_eq_error failed
  have located : e.path = Pointer.child pointer field ∧ e.fault ≠ .indexKey := by
    unfold compilePredicate at failed
    split at failed
    · cases failed
      exact ⟨rfl, nofun⟩
    · exact Matcher.compile_eq_error value (map_eq_error.mp failed)
  refine ⟨located.2, [field], located.1, ?_⟩
  rw [Json.at?_singleton]
  exact Members.has_iff.mpr (List.mem_map_of_mem present)

private theorem child_eq_error {below : Except BuildError (Unit × Siblings Node)}
    (failed : child pointer element value below = .error e) :
    below = .error e ∨ AtNode value pointer e := by
  unfold child at failed
  split at failed
  · split at failed
    · exact .inr (compilePredicates_eq_error (map_eq_error.mp failed))
    · exact .inl (map_eq_error.mp failed)
  · cases failed
    exact .inr (.here _ nofun)

theorem locates : dialect.Locates where
  accept {value fault} refused := by
    change accept value = .error fault at refused
    unfold accept at refused
    split at refused
    · split at refused
      · cases refused
        simp
      · cases refused
    · cases refused
      simp
  child failed := child_eq_error failed
  close failed := nomatch failed
  used made index := absurd index (role_ne_index_of_isStatic (uses made))

end Filter

namespace Formula

variable {functions : Registry} {call : CallReader} {fault : SpecFault}

theorem resolve_eq_error {name : List Char} (failed : resolve functions name = .error fault) :
    fault ≠ .indexKey := by
  unfold resolve at failed
  dsimp only at failed
  split at failed
  · cases failed
    exact nofun
  split at failed
  · cases failed
  · cases failed
    exact nofun

theorem readLookup_eq_error {cs : List Char} (failed : readLookup cs = .error fault) :
    fault ≠ .indexKey := by
  unfold readLookup at failed
  split at failed
  · cases failed
  · cases failed
    exact nofun

theorem readContext_eq_error {cs : List Char} (failed : readContext cs = .error fault) :
    fault ≠ .indexKey := by
  unfold readContext at failed
  split at failed
  · cases failed
  · cases failed
    exact nofun

private theorem readArg_eq_error (calls : ∀ {cs fault}, call cs = .error fault → fault ≠ .indexKey)
    {cs : List Char} (failed : readArg call cs = .error fault) : fault ≠ .indexKey := by
  unfold readArg at failed
  split at failed
  · cases failed
  split at failed
  · cases failed
    simp
  · exact calls failed
  · exact readLookup_eq_error failed
  · exact readContext_eq_error failed
  · cases failed

private theorem readArgs_eq_error (calls : ∀ {cs fault}, call cs = .error fault → fault ≠ .indexKey)
    {parts : List (List Char)} (failed : readArgs call parts = .error fault) :
    fault ≠ .indexKey := by
  induction parts with
  | nil => cases failed
  | cons part rest ih =>
    rw [readArgs] at failed
    rcases bind_eq_error.mp failed with first | ⟨_, -, failed⟩
    · exact readArg_eq_error calls first
    rcases bind_eq_error.mp failed with later | ⟨_, -, built⟩
    · exact ih later
    · cases built

private theorem readCallWith_eq_error
    (calls : ∀ {cs fault}, call cs = .error fault → fault ≠ .indexKey)
    {cs : List Char} (failed : readCallWith functions call cs = .error fault) :
    fault ≠ .indexKey := by
  unfold readCallWith at failed
  dsimp only at failed
  split at failed
  · exact resolve_eq_error (map_eq_error.mp failed)
  split at failed
  · cases failed
    exact nofun
  split at failed
  · rename_i unclosed _
    cases failed
    cases unclosed <;> exact nofun
  rcases bind_eq_error.mp failed with unread | ⟨_, -, failed⟩
  · exact readArgs_eq_error calls unread
  rcases bind_eq_error.mp failed with unknown | ⟨_, -, built⟩
  · exact resolve_eq_error unknown
  · cases built

private theorem readCall_eq_error {depth : Nat} {cs : List Char}
    (failed : readCall functions depth cs = .error fault) : fault ≠ .indexKey := by
  induction depth generalizing cs fault with
  | zero =>
    refine readCallWith_eq_error (fun failed => ?_) failed
    cases failed
    exact nofun
  | succ depth ih => exact readCallWith_eq_error ih failed

/-- No fault of a formula is about an array position. -/
theorem read_eq_error {value : Json} (failed : read functions value = .error fault) :
    fault ≠ .indexKey := by
  unfold read at failed
  split at failed
  · unfold readText at failed
    split at failed
    · exact readCall_eq_error failed
    · exact readLookup_eq_error failed
    · exact readContext_eq_error failed
    · cases failed
    · cases failed
  · cases failed

end Formula

namespace Modify

variable {functions : Registry}

private theorem child_eq_error {below : Except BuildError (Shape × Siblings Node)}
    (failed : child functions pointer element value below = .error e) :
    below = .error e ∨ AtNode value pointer e := by
  unfold child at failed
  split at failed
  · cases failed
    exact .inr (.here _ nofun)
  split at failed
  · exact .inl (map_eq_error.mp failed)
  split at failed
  · cases failed
  · rename_i refused
    cases failed
    exact .inr (.here _ (Formula.read_eq_error refused))

private theorem close_eq_error {entries : List (Entry Shape Formula)}
    (failed : close entries = .error e) :
    e.fault ≠ .indexKey ∧ ∃ entry ∈ entries, e.path = entry.path := by
  unfold close at failed
  split at failed
  · split at failed
    · rename_i entry found
      cases failed
      exact ⟨nofun, entry, List.mem_of_find?_eq_some found, rfl⟩
    · cases failed
  · cases failed

private theorem locates : (dialect functions).Locates where
  accept refused := nomatch refused
  child failed := child_eq_error failed
  close failed := close_eq_error failed
  used made index := absurd index (role_ne_index_of_isStatic (uses functions made))

end Modify

end Transform

open Transform

namespace Stage

/-- Every error of compiling a stage points to a node of its spec, but for those of a shift about
array positions among the keys of a node. -/
theorem compile_points {options : Options} {functions : Registry} {operation : Operation}
    (keyed : spec.Keyed) (failed : compile options functions operation spec = .error e) :
    AtNode spec [] e ∨
      operation = .shift ∧ Shift.dialect.AtPosition (fun _ => True) spec [] e := by
  have modify {mode : WriteMode} (failed :
      (Modify.compile options.maxDepth functions mode spec).map Stage.modify = .error e) :
      AtNode spec [] e :=
    Dialect.compileRoot_atNode Modify.locates (Modify.uses functions) keyed
      (map_eq_error.mp (map_eq_error.mp failed))
  cases operation with
  | shift =>
    have refused := map_eq_error.mp (map_eq_error.mp failed)
    exact (Dialect.compile_points Shift.locates (fun _ => trivial) keyed refused).imp_right
      (.intro rfl)
  | default =>
    rcases bind_eq_error.mp (map_eq_error.mp failed) with refused | ⟨_, -, built⟩
    · exact .inl (Dialect.compileRoot_atNode Default.locates Default.uses keyed refused)
    · cases built
  | remove =>
    have refused := map_eq_error.mp (map_eq_error.mp failed)
    exact .inl (Dialect.compileRoot_atNode Remove.locates Remove.uses keyed refused)
  | cardinality =>
    have refused := map_eq_error.mp (map_eq_error.mp failed)
    refine .inl (Dialect.compile_points Cardinality.locates (fun made => ?_) keyed refused).atNode
    exact Cardinality.role_ne_index_of_isKey (Cardinality.uses made)
  | filter =>
    have refused := map_eq_error.mp failed
    unfold Filter.compile at refused
    split at refused
    · cases refused
      exact .inl (.here spec nofun)
    · exact .inl (Dialect.compileRoot_atNode Filter.locates Filter.uses keyed
        (map_eq_error.mp refused))
  | sort => cases failed
  | modifyOverwrite => exact .inl (modify failed)
  | modifyDefault => exact .inl (modify failed)
  | modifyDefine => exact .inl (modify failed)

end Stage

end Reshape
