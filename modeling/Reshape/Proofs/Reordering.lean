import Reshape.Proofs.Spec.Orders
import Reshape.Proofs.Transform.Reordering
import Reshape.Proofs.Transform.Room

/-! The keys of a modify spec in another order. Specs that are equal up to the order of their
members compile to nodes that are equal up to the order of literals, so that a modify is a
simultaneous assignment wherever its children act at once. -/

namespace Reshape.Transform.Modify

open Key Spec

variable {functions : Registry} {limit : Nat} {path : Pointer}
variable {entries others : List (Entry Shape Formula)}

/-- Compiled branches that are equal up to the order of literals. -/
def SameBranch (first second : Shape × Siblings Node) : Prop :=
  Reordered (.branch first.1 first.2) (.branch second.1 second.2)

/-- Entries for the same key whose trees are equal up to the order of literals. -/
structure SameEntry (first second : Entry Shape Formula) : Prop where
  written : first.written = second.written
  element : first.element = second.element
  tree : Reordered first.tree second.tree

private theorem any_written {property : Entry Shape Formula → Bool}
    (told : ∀ first second, first.written = second.written → property first = property second)
    (same : ∀ key, key ∈ entries.map (·.written) ↔ key ∈ others.map (·.written)) :
    entries.any property = others.any property := by
  have carried {entries others : List (Entry Shape Formula)}
      (same : ∀ key, key ∈ entries.map (·.written) → key ∈ others.map (·.written))
      (holds : entries.any property = true) : others.any property = true := by
    obtain ⟨entry, present, held⟩ := List.any_eq_true.mp holds
    obtain ⟨other, also, written⟩ := List.mem_map.mp (same _ (List.mem_map_of_mem present))
    exact List.any_eq_true.mpr ⟨other, also, (told other entry written).trans held⟩
  exact Bool.eq_iff_iff.mpr
    ⟨carried fun key => (same key).mp, carried fun key => (same key).mpr⟩

/-- The shape of a node is told by its keys, in whatever order. -/
theorem close_written
    (same : ∀ key, key ∈ entries.map (·.written) ↔ key ∈ others.map (·.written)) :
    Outcome.Both Eq (close entries) (close others) := by
  have indices : entries.any isIndex = others.any isIndex :=
    any_written (fun first second written => by rw [isIndex, isIndex, written]) same
  have literals : (entries.find? isLiteral).isSome = (others.find? isLiteral).isSome := by
    rw [List.isSome_find?, List.isSome_find?]
    exact any_written (fun first second written => by rw [isLiteral, isLiteral, written]) same
  rw [close, close, indices]
  cases others.any isIndex with
  | false => exact .done rfl
  | true =>
    simp only [if_true]
    cases found : entries.find? isLiteral with
    | none =>
      cases also : others.find? isLiteral with
      | none => exact .done rfl
      | some other => rw [found, also] at literals; cases literals
    | some entry =>
      cases also : others.find? isLiteral with
      | none => rw [found, also] at literals; cases literals
      | some other => exact .failed _ _

theorem assemble_shuffle (same : entries.Perm others)
    (plain : ∀ entry ∈ entries, entry.element.isStatic = true) :
    Outcome.Both SameBranch ((dialect functions).assemble () path entries)
      ((dialect functions).assemble () path others) := by
  have keys : (entries.map (·.written)).Perm (others.map (·.written)) := same.map _
  refine (close_written fun key => keys.mem_iff).bind fun {shape _} equal => ?_
  subst equal
  have children : (entries.map fun entry => (entry.element, entry.tree)).Perm
      (others.map fun entry => (entry.element, entry.tree)) := same.map _
  refine (Siblings.ofChildren_perm children (List.forall_mem_map.mpr fun entry present =>
    role_of_isStatic (plain entry present))).bind fun shuffled => ?_
  obtain ⟨literals, same, rfl⟩ := shuffled
  exact .done (.shuffle same)

theorem assemble_children (same : List.Forall₂ SameEntry entries others) :
    Outcome.Both SameBranch ((dialect functions).assemble () path entries)
      ((dialect functions).assemble () path others) := by
  have paired : ∃ pairs : List (Element × Node × Node),
      entries.map (fun entry => (entry.element, entry.tree)) =
        pairs.map (fun child => (child.1, child.2.1)) ∧
      others.map (fun entry => (entry.element, entry.tree)) =
        pairs.map (fun child => (child.1, child.2.2)) ∧
      entries.map (·.written) = others.map (·.written) ∧
      ∀ child ∈ pairs, Reordered child.2.1 child.2.2 := by
    induction same with
    | nil => exact ⟨[], rfl, rfl, rfl, nofun⟩
    | @cons entry other _ _ first _ ih =>
      obtain ⟨pairs, one, two, keys, each⟩ := ih
      refine ⟨(entry.element, entry.tree, other.tree) :: pairs, ?_, ?_, ?_,
        List.forall_mem_cons.mpr ⟨first.tree, each⟩⟩
      · rw [List.map_cons, one, List.map_cons]
      · rw [List.map_cons, two, List.map_cons, first.element]
      · rw [List.map_cons, List.map_cons, keys, first.written]
  obtain ⟨pairs, one, two, keys, each⟩ := paired
  refine (close_written fun key => by rw [keys]).bind fun {shape _} equal => ?_
  subst equal
  rw [one, two, Siblings.ofChildren_map fun _ (pair : Node × Node) => pair.1,
    Siblings.ofChildren_map fun _ (pair : Node × Node) => pair.2]
  cases accepted : Siblings.ofChildren path pairs with
  | error e => exact .failed e e
  | ok siblings =>
    exact .done (.children fun child present =>
      each child (Siblings.mem_of_mem_all accepted present))

/-- Keys of modify specs match by their texts alone. -/
theorem uses (functions : Registry) :
    (dialect functions).Uses fun element => element.isStatic = true := by
  intro outer inner path element value below used tree made
  simp only [dialect, child] at made
  have static (found : usedElement? element = some used) : used.isStatic = true := by
    unfold usedElement? at found
    split at found <;> cases found <;> rfl
  split at made
  case h_1 => cases made
  case h_2 found =>
    split at made
    · obtain ⟨compiled, -, built⟩ := Outcome.map_eq_ok.mp made
      cases built
      exact static found
    · split at made
      · cases made
        exact static found
      · cases made

private theorem read_alike {value other : Json} (alike : value.Alike other) :
    Outcome.Both (fun first second => Reordered (.leaf first) (.leaf second))
      (Formula.read functions value) (Formula.read functions other) := by
  induction alike with
  | refl value => exact .of_eq (fun formula => .refl (.leaf formula)) rfl
  | trans _ _ one two =>
    refine Outcome.Both.trans ?_ one two
    exact Reordered.trans
  | shuffle same => exact .done (.literal (.shuffle same))
  | members each => exact .done (.literal (.members each))
  | items each => exact .done (.literal (.items each))

variable {value other : Json} {below beneath : Except BuildError (Shape × Siblings Node)}

private theorem child_alike (alike : value.Alike other)
    (same : Outcome.Both SameBranch below beneath) (pointer : Pointer) (element : Element) :
    Outcome.Both (fun first second => first.1 = second.1 ∧ Reordered first.2 second.2)
      (child functions pointer element value below)
      (child functions pointer element other beneath) := by
  unfold child
  cases usedElement? element with
  | none => exact .failed _ _
  | some used =>
    dsimp only
    rw [alike.isObject_eq]
    split
    · exact same.map fun reordered => ⟨rfl, reordered⟩
    · have formulas : Outcome.Both _ (Formula.read functions value) (Formula.read functions other) :=
        read_alike alike
      generalize Formula.read functions value = first, Formula.read functions other = second
        at formulas
      cases formulas with
      | failed fault another => exact .failed _ _
      | done reordered => exact .done ⟨rfl, reordered⟩

private theorem entries_alike (alike : value.Alike other)
    (same : Outcome.Both SameBranch below beneath) (path : Pointer) (elements : List Element) :
    Outcome.Both (List.Forall₂ SameEntry)
      ((dialect functions).entries () () path value below elements)
      ((dialect functions).entries () () path other beneath elements) := by
  induction elements with
  | nil => exact .done .nil
  | cons element rest ih =>
    rw [Dialect.entries, Dialect.entries]
    refine (child_alike alike same path element).bind fun {first second} agree => ?_
    obtain ⟨used, reordered⟩ := agree
    exact ih.bind fun more => .done (.cons ⟨rfl, used, reordered⟩ more)

private theorem compileMember_alike (alike : value.Alike other) {depth : Nat} (key : String)
    (same : Outcome.Both SameBranch
      ((dialect functions).compile limit () (depth + 1) (Pointer.child path key) value)
      ((dialect functions).compile limit () (depth + 1) (Pointer.child path key) other)) :
    Outcome.Both (List.Forall₂ SameEntry)
      ((dialect functions).compileMember limit () depth path (key, value))
      ((dialect functions).compileMember limit () depth path (key, other)) := by
  exact Outcome.Both.bind_same fun elements _ => entries_alike alike same _ elements

/-- Specs that are equal up to the order of members compile to branches that are equal up to
the order of literals. -/
theorem compile_alike {spec other : Json} (alike : spec.Alike other) (depth : Nat)
    (path : Pointer) : Outcome.Both SameBranch
      ((dialect functions).compile limit () depth path spec)
      ((dialect functions).compile limit () depth path other) := by
  induction alike generalizing depth path with
  | refl doc => exact .of_eq (fun branch => .refl (.branch branch.1 branch.2)) rfl
  | trans _ _ one two =>
    refine Outcome.Both.trans ?_ (one depth path) (two depth path)
    exact Reordered.trans
  | @shuffle members others same =>
    rw [Dialect.compile_obj, Dialect.compile_obj, same.isEmpty_eq]
    split
    · exact .failed _ _
    split
    · exact .failed _ _
    have entries := (Outcome.Both.mapM_perm same
      ((dialect functions).compileMember limit () depth path)).map List.Perm.flatten
    refine entries.bind_of_ok fun {found _} compiled shuffled => assemble_shuffle shuffled ?_
    rw [← Dialect.compileMembers_eq] at compiled
    have nothing : Dialect.Inherits (fun element => element.isStatic = true)
        fun _ (_ : Node) => True := ⟨fun _ _ => trivial, fun _ _ => trivial⟩
    have held := Dialect.compileMembers_hold (nests functions) (uses functions) nothing members
      compiled
    exact fun entry present => (held entry present).1
  | @members pairs each ih =>
    rw [Dialect.compile_obj, Dialect.compile_obj, List.isEmpty_map, List.isEmpty_map]
    split
    · exact .failed _ _
    split
    · exact .failed _ _
    rw [List.mapM_map, List.mapM_map]
    have member (pair : String × Json × Json) (present : pair ∈ pairs) :=
      compileMember_alike (each pair present) pair.1
        (ih pair present (depth + 1) (Pointer.child path pair.1))
    have found := (Outcome.Both.mapM member).map fun same => List.rel_flatten same
    exact found.bind fun same => assemble_children same
  | items _ =>
    unfold Dialect.compile
    split
    · exact .failed _ _
    · exact .failed _ _

private theorem lawful_of_accepted {path : Pointer} {children : List (Element × Node)}
    {s : Siblings Node} (accepted : Siblings.ofChildren path children = .ok s)
    (static : ∀ child ∈ s.all, child.1.isStatic = true) : s.Lawful where
  distinct := Siblings.literals_nodup accepted
  static := Siblings.forall_computed static
  disjoint strategy := by
    rcases Siblings.strategy_cases accepted with
      ⟨other, -⟩ | ⟨other, -⟩ | ⟨-, apart⟩ | other
    · rw [strategy] at other; cases other
    · rw [strategy] at other; cases other
    · exact apart
    · rw [strategy] at other; cases other

/-- A modify has the effect of its root on the document. -/
theorem apply_effect (t : Modify) (context input : Json) :
    t.apply context input = rootWalk t.maxDepth (some (wrap input)) >>= fun w =>
      (effect t.mode context (.branch t.shape t.children) (.literal rootKey) (.member rootKey)
        (some (wrap input)) w (wrap input)).map (·.getD input) := by
  refine Outcome.bind_congr_of_ok fun w _ => ?_
  have ran : (run t.mode context (.branch t.shape t.children) (.literal rootKey) (.member rootKey)
      (some (wrap input)) w (wrap input)).map (·.getD (wrap input)) =
    (effect t.mode context (.branch t.shape t.children) (.literal rootKey) (.member rootKey)
      (some (wrap input)) w (wrap input)).map (settle (.member rootKey) (wrap input)) := run_eq _ _
  have unwrapped (put : Option Json) :
      unwrap (settle (.member rootKey) (wrap input) put) = put.getD input := by
    cases put with
    | none => exact unwrap_wrap input
    | some value => rfl
  have mapped := congrArg (Except.map unwrap) ran
  generalize run t.mode context (.branch t.shape t.children) (.literal rootKey)
    (.member rootKey) (some (wrap input)) w (wrap input) = output at mapped ⊢
  generalize effect t.mode context (.branch t.shape t.children) (.literal rootKey)
    (.member rootKey) (some (wrap input)) w (wrap input) = result at mapped ⊢
  cases output with
  | error e =>
    cases result with
    | error other => exact mapped
    | ok put => cases mapped
  | ok changed =>
    cases result with
    | error e => cases mapped
    | ok put => exact mapped.trans (congrArg Except.ok (unwrapped put))

/-- Reordering the members of the objects in a modify spec, at any level, makes no difference
but in the order of members, where the branches of the spec are independent. -/
theorem apply_reordered {maxDepth : Nat} {mode : WriteMode} {spec other : Json} {t : Modify}
    (alike : spec.Alike other) (compiled : compile maxDepth functions mode spec = .ok t) :
    ∃ u, compile maxDepth functions mode other = .ok u ∧
      ∀ context input : Json, input.Keyed → input.Indexable →
        Simultaneous mode (.branch t.shape t.children) (some input) →
        Outcome.Both Json.Alike (t.apply context input) (u.apply context input) := by
  obtain ⟨⟨shape, s⟩, read, built⟩ := Outcome.map_eq_ok.mp compiled
  cases built
  have both : Outcome.Both SameBranch ((dialect functions).compileRoot maxDepth () spec)
      ((dialect functions).compileRoot maxDepth () other) := compile_alike alike 1 []
  rw [read] at both
  obtain ⟨lawful, below⟩ := Dialect.compileRoot_every (nests functions) (uses functions)
    lawful_of_accepted read
  generalize reread : (dialect functions).compileRoot maxDepth () other = result at both
  cases both with
  | @done _ again reordered =>
    refine ⟨⟨maxDepth, mode, again.1, again.2⟩, by rw [compile, reread]; rfl, ?_⟩
    intro context input keyed indexable simultaneous
    have sane : Sane (some input) := by
      intro doc same
      cases same
      exact ⟨keyed, indexable⟩
    have agrees : Agrees mode context _ _ (some input) :=
      Reordered.agrees reordered (.branch lawful below) simultaneous sane
    rw [apply_effect, apply_effect]
    refine Outcome.Both.bind_same fun w _ => ?_
    refine (agrees (.literal rootKey) (.member rootKey) (some (wrap input)) w (wrap input) rfl
      rfl).map fun alike => ?_
    cases alike with
    | none => exact .refl input
    | some values => exact values

/-- A define with a member and two items of a list. -/
def listing (first second : String) : Modify :=
  ⟨64, .define, .container, ⟨[("label", .leaf (.literal (.str "z"))), ("list", .branch .array
    ⟨[(first, .leaf (.literal (.str "x"))), (second, .leaf (.literal (.str "y")))], [], [],
      .literalsOnly⟩)], [], [], .literalsOnly⟩⟩

/-- In an array that a define creates, an item that is put decides about those before it. -/
example :
    (listing "1" "0").apply .null (.obj []) =
      .ok (.obj [("label", .str "z"), ("list", .arr [.null, .str "x"])]) ∧
    (listing "0" "1").apply .null (.obj []) =
      .ok (.obj [("label", .str "z"), ("list", .arr [.str "x", .str "y"])]) := ⟨rfl, rfl⟩

private theorem simultaneous_listing :
    Simultaneous .define (.branch (listing "3" "2").shape (listing "3" "2").children)
      (some (.obj [("list", .arr [.null])])) := by
  have top : Independent .define .container (listing "3" "2").children
      (some (.obj [("list", .arr [.null])])) := by
    refine ⟨fun items grounded => ?_, fun items grounded => ?_, fun _ array => ?_⟩
    · cases grounded
    · cases grounded
    · cases array
  have inside : Independent .define .array
      ⟨[("3", .leaf (.literal (.str "x"))), ("2", .leaf (.literal (.str "y")))], [], [],
        .literalsOnly⟩ (some (.arr [.null])) := by
    refine ⟨fun items grounded => ⟨?_, nofun⟩, fun items grounded => ?_, fun _ _ => nofun⟩
    · intro first present second also index read reread
      have three : Decimal.readIndex "3" = some 3 := by decide
      have two : Decimal.readIndex "2" = some 2 := by decide
      rcases List.mem_pair.mp present with rfl | rfl <;>
        rcases List.mem_pair.mp also with rfl | rfl
      · rfl
      · rw [three] at read; rw [two, ← read] at reread; cases reread
      · rw [two] at read; rw [three, ← read] at reread; cases reread
      · rfl
    · refine List.forall_mem_cons.mpr ⟨?_, List.forall_mem_singleton.mpr ?_⟩
      · exact fun _ _ _ _ _ _ _ _ _ _ => rfl
      · exact fun _ _ _ _ _ _ _ _ _ _ => rfl
  have leaves : ∀ entry ∈ [("3", Tree.leaf (Formula.literal (.str "x"))),
      ("2", .leaf (.literal (.str "y")))], Simultaneous .define entry.2
        ((some (.arr [.null])).bind (Slot.member entry.1).child?) :=
    List.forall_mem_cons.mpr ⟨.leaf _ _, List.forall_mem_singleton.mpr (.leaf _ _)⟩
  exact .branch top (List.forall_mem_cons.mpr ⟨.leaf _ _,
    List.forall_mem_singleton.mpr (.branch inside leaves nofun)⟩) nofun

/-- Two items past the end of a list, and a member, in either order. -/
theorem apply_reordered_listing :
    ∃ u, compile 64 .empty .define (.obj [("list", .obj [("[2]", .str "y"), ("[3]", .str "x")]),
        ("label", .str "z")]) = .ok u ∧
      Outcome.Both Json.Alike ((listing "3" "2").apply .null (.obj [("list", .arr [.null])]))
        (u.apply .null (.obj [("list", .arr [.null])])) := by
  have compiled : compile 64 .empty .define (.obj [("label", .str "z"),
      ("list", .obj [("[3]", .str "x"), ("[2]", .str "y")])]) = .ok (listing "3" "2") := rfl
  have inside : Json.AlikeMembers
      [("label", .str "z"), ("list", .obj [("[3]", .str "x"), ("[2]", .str "y")])]
      [("label", .str "z"), ("list", .obj [("[2]", .str "y"), ("[3]", .str "x")])] :=
    .cons ⟨rfl, .refl _⟩ (.cons ⟨rfl, .shuffle (.swap ..)⟩ .nil)
  have alike := (Json.Alike.of_members inside).trans (.shuffle (.swap ..))
  have keyed : (Json.obj [("list", .arr [.null])]).Keyed :=
    .object (by decide) (List.forall_mem_singleton.mpr
      (.array (List.forall_mem_singleton.mpr (.scalar rfl))))
  have indexable : (Json.obj [("list", .arr [.null])]).Indexable :=
    .object (List.forall_mem_singleton.mpr
      (.array (by decide) (List.forall_mem_singleton.mpr (.scalar rfl))))
  obtain ⟨u, recompiled, agree⟩ := apply_reordered alike compiled
  exact ⟨u, recompiled, agree .null _ keyed indexable simultaneous_listing⟩

end Reshape.Transform.Modify
