import Reshape.Proofs.Transform.Room

/-! Remove as a filter of the original document. A path is gone if a chain of children down
to a leaf matches it key by key; what is gone is left out and all else stays in order. The
children of one array take their positions from what earlier chains of branches have left
of it, so this holds where no array is entered along two chains. -/

namespace Reshape

open Key Spec

namespace Json

/-- The values of a document and the paths that lead to them: members go by their keys, items
by the digits of their indices. -/
inductive Has : Json → List String → Json → Prop where
  | here (doc : Json) : Has doc [] doc
  | member {members : Members} {key : String} {value found : Json} {rest : List String}
      (present : (key, value) ∈ members) (below : Has value rest found) :
      Has (.obj members) (key :: rest) found
  | item {items : List Json} {index : Nat} {value found : Json} {rest : List String}
      (present : items[index]? = some value) (below : Has value rest found) :
      Has (.arr items) (Decimal.natText index :: rest) found

mutual

/-- A document without the values at some paths; the other values keep their order. -/
def prune (gone : List String → Bool) : Json → Json
  | .obj members => .obj (pruneMembers gone members)
  | .arr items => .arr (pruneItems gone 0 items)
  | doc => doc

def pruneMembers (gone : List String → Bool) : Members → Members
  | [] => []
  | (key, value) :: rest =>
    if gone [key] then pruneMembers gone rest
    else (key, prune (fun path => gone (key :: path)) value) :: pruneMembers gone rest

/-- The items of an array that stay, from an index on. -/
def pruneItems (gone : List String → Bool) (index : Nat) : List Json → List Json
  | [] => []
  | value :: rest =>
    if gone [Decimal.natText index] then pruneItems gone (index + 1) rest
    else prune (fun path => gone (Decimal.natText index :: path)) value ::
      pruneItems gone (index + 1) rest

end

/-- What stays of the value under a key. -/
def pruneEntry (gone : List String → Bool) (key : String) (value : Json) : Option Json :=
  if gone [key] then none else some (value.prune fun path => gone (key :: path))

variable {gone : List String → Bool}

theorem pruneMembers_eq (members : Members) : pruneMembers gone members =
    members.filterMap fun (key, value) => (pruneEntry gone key value).map (key, ·) := by
  induction members with
  | nil => rfl
  | cons member rest ih =>
    rw [pruneMembers, List.filterMap_cons, ih]
    dsimp only [pruneEntry]
    split <;> rfl

theorem pruneItems_eq (items : List Json) (start : Nat) : pruneItems gone start items =
    (items.zipIdx start).filterMap fun (value, index) =>
      pruneEntry gone (Decimal.natText index) value := by
  induction items generalizing start with
  | nil => rfl
  | cons value rest ih =>
    rw [pruneItems, List.zipIdx_cons, List.filterMap_cons, ih]
    dsimp only [pruneEntry]
    split <;> rfl

mutual

/-- A document loses nothing if nothing in it is gone. -/
theorem prune_eq_self : ∀ {gone : List String → Bool} (doc : Json),
    (∀ path, path ≠ [] → gone path = false) → doc.prune gone = doc
  | _, .obj members, stays => by rw [prune, pruneMembers_eq_self members stays]
  | _, .arr items, stays => by rw [prune, pruneItems_eq_self items 0 stays]
  | _, .null, _ => rfl
  | _, .bool _, _ => rfl
  | _, .num _, _ => rfl
  | _, .str _, _ => rfl

theorem pruneMembers_eq_self : ∀ {gone : List String → Bool} (members : Members),
    (∀ path, path ≠ [] → gone path = false) → pruneMembers gone members = members
  | _, [], _ => rfl
  | gone, (key, value) :: rest, stays => by
    have below : value.prune (fun path => gone (key :: path)) = value :=
      prune_eq_self value fun path _ => stays (key :: path) (List.cons_ne_nil key path)
    rw [pruneMembers, stays [key] (List.cons_ne_nil key []), below,
      pruneMembers_eq_self rest stays]
    rfl

theorem pruneItems_eq_self : ∀ {gone : List String → Bool} (items : List Json) (index : Nat),
    (∀ path, path ≠ [] → gone path = false) → pruneItems gone index items = items
  | _, [], _, _ => rfl
  | gone, value :: rest, index, stays => by
    have below : value.prune (fun path => gone (Decimal.natText index :: path)) = value :=
      prune_eq_self value fun path _ => stays (_ :: path) (List.cons_ne_nil _ path)
    rw [pruneItems, stays [Decimal.natText index] (List.cons_ne_nil _ []), below,
      pruneItems_eq_self rest (index + 1) stays]
    rfl

end

end Json

namespace Transform.Remove

/-- What a node does with the values whose keys it matches. -/
abbrev act : Node → Action :=
  Tree.fold runLeaf runBranch

/-- Whether a chain of children down to a leaf matches a path key by key. -/
def removes : List String → List (Element × Node) → Bool
  | [], _ => false
  | key :: rest, children => children.any fun child =>
    child.1.matchesText key &&
      match child.2 with
      | .leaf _ => rest.isEmpty
      | .branch _ below => removes rest below.all

/-- The nodes that chains of branches lead to along a path, each by its children. -/
def nodesAlong : List String → List (Element × Node) → List (List (Element × Node))
  | [], children => [children]
  | key :: rest, children => children.flatMap fun child =>
    if child.1.matchesText key then
      match child.2 with
      | .leaf _ => []
      | .branch _ below => nodesAlong rest below.all
    else []

/-- How many chains of branches match a path key by key. -/
def chains (path : List String) (children : List (Element × Node)) : Nat :=
  (nodesAlong path children).length

/-- No array of a document is entered along two chains of branches. -/
def Unshared (children : List (Element × Node)) (doc : Json) : Prop :=
  ∀ path items, doc.Has path (.arr items) → chains path children ≤ 1

variable {children : List (Element × Node)} {key : String} {path : List String}
variable {element : Element} {below : Siblings Node}

theorem removes_cons_unmatched {node : Node} {rest : List (Element × Node)}
    (unmatched : element.matchesText key = false) :
    removes (key :: path) ((element, node) :: rest) = removes (key :: path) rest := by
  simp [removes, unmatched]

theorem removes_cons_branch {rest : List (Element × Node)}
    (matched : element.matchesText key = true) :
    removes (key :: path) ((element, .branch () below) :: rest) =
      (removes path below.all || removes (key :: path) rest) := by
  simp [removes, matched]

theorem chains_cons_branch {rest : List (Element × Node)}
    (matched : element.matchesText key = true) :
    chains (key :: path) ((element, .branch () below) :: rest) =
      chains path below.all + chains (key :: path) rest := by
  simp [chains, nodesAlong, matched]

theorem chains_le_cons (child : Element × Node) (rest : List (Element × Node)) :
    chains (key :: path) rest ≤ chains (key :: path) (child :: rest) := by
  simp [chains, nodesAlong]

/-- What is removed below a path is removed by a chain that the path is entered along. -/
theorem chains_pos_of_removes {further : List String} (deeper : further ≠ [])
    (removed : removes (path ++ further) children = true) : 0 < chains path children := by
  induction path generalizing children with
  | nil => exact Nat.one_pos
  | cons key rest ih =>
    rw [List.cons_append, removes, List.any_eq_true] at removed
    obtain ⟨⟨element, node⟩, present, removed⟩ := removed
    rw [Bool.and_eq_true] at removed
    obtain ⟨matched, removed⟩ := removed
    cases node with
    | leaf value => simp [deeper] at removed
    | branch info below =>
      obtain ⟨node, reached⟩ := List.exists_mem_of_length_pos (ih removed)
      have along : node ∈ nodesAlong (key :: rest) children :=
        List.mem_flatMap.mpr ⟨_, present, by rwa [if_pos matched]⟩
      exact List.length_pos_of_mem along

/-- Whether children remove from what is left of a value as they would from the value: its
arrays are entered along one chain at most, and are whole if they are entered. -/
def Ready (count : List String → Nat) (gone : List String → Bool) (value : Json) : Prop :=
  ∀ path items, value.Has path (.arr items) → count path ≤ 1 ∧
    ∀ further, further ≠ [] → gone (path ++ further) = true → count path = 0

private theorem Ready.mono {count fewer : List String → Nat} {gone : List String → Bool}
    {value : Json} (ready : Ready count gone value) (less : ∀ path, fewer path ≤ count path) :
    Ready fewer gone value := by
  intro path items present
  obtain ⟨single, whole⟩ := ready path items present
  refine ⟨(less path).trans single, fun further deeper removed => ?_⟩
  exact Nat.le_zero.mp ((less path).trans (whole further deeper removed).le)

/-- What a node with room for so many levels leaves of what is left of a value. -/
def Prunes (levels : Nat) : Node → Prop
  | .leaf _ => True
  | .branch _ below => ∀ matched w value gone, w.HasRoom levels →
    Ready (chains · below.all) gone value →
    act (.branch () below) matched w (value.prune gone) =
      .ok (some (value.prune fun path => gone path || removes path below.all))

variable {levels : Nat} {w : Walk} {gone : List String → Bool} {value : Json}

/-- An array that other children enter is left whole by a branch, which does not enter it. -/
theorem Ready.after {rest : List (Element × Node)} (matched : element.matchesText key = true)
    (ready : Ready (fun path => chains (key :: path) ((element, .branch () below) :: rest))
      gone value) :
    Ready (fun path => chains (key :: path) rest)
      (fun path => gone path || removes path below.all) value := by
  intro path items present
  obtain ⟨single, whole⟩ := ready path items present
  simp only [chains_cons_branch matched] at single whole ⊢
  refine ⟨by omega, fun further deeper removed => ?_⟩
  rcases Bool.or_eq_true_iff.mp removed with before | now
  · have := whole further deeper before
    omega
  · have := chains_pos_of_removes deeper now
    omega

theorem leave?_prunes (room : w.HasRoom levels)
    (each : ∀ child ∈ children, child.1.isStatic = true ∧ Prunes levels child.2)
    (ready : Ready (fun path => chains (key :: path) children) gone value) :
    leave? w key (children.map fun child => (child.1, act child.2)) (value.prune gone) =
      .ok (if removes [key] children then none
        else some (value.prune fun path => gone path || removes (key :: path) children)) := by
  induction children generalizing gone with
  | nil => simp [leave?, removes]
  | cons child rest ih =>
    obtain ⟨element, node⟩ := child
    obtain ⟨⟨static, prunes⟩, later⟩ := List.forall_mem_cons.mp each
    obtain ⟨found, matching, told⟩ := match?_of_isStatic static w key
    rw [List.map_cons, leave?, matching, Outcome.ok_bind]
    cases found with
    | none =>
      simp only [removes_cons_unmatched told.symm]
      exact ih later (ready.mono fun path => chains_le_cons _ rest)
    | some matched =>
      cases node with
      | leaf info =>
        have removed : removes [key] ((element, .leaf info) :: rest) = true := by
          simp [removes, ← told]
        rw [if_pos removed]
        rfl
      | branch info below =>
        have first : Ready (chains · below.all) gone value :=
          ready.mono fun path => by rw [chains_cons_branch told.symm]; omega
        have left := prunes matched w value gone room first
        simp only [left, Outcome.ok_bind, ih later (ready.after told.symm),
          removes_cons_branch told.symm, ← Bool.or_assoc]
        rfl

variable {s : Siblings Node}

private theorem all_foldSiblings (s : Siblings Node) :
    (Tree.foldSiblings runLeaf runBranch s).all =
      s.all.map fun child => (child.1, act child.2) := by
  rw [Siblings.foldSiblings_eq_map, Siblings.all_map]

/-- What is ready in a value is so in a value that it has under a key. -/
theorem Ready.under {count : List String → Nat} {held : Json} (ready : Ready count gone value)
    (present : ∀ {path found}, held.Has path found → value.Has (key :: path) found) :
    Ready (fun path => count (key :: path)) (fun path => gone (key :: path)) held :=
  fun path items inside => ready (key :: path) items (present inside)

/-- The entry that is left under a key. -/
theorem entry_prunes (room : w.HasRoom levels)
    (each : ∀ child ∈ s.all, child.1.isStatic = true ∧ Prunes levels child.2)
    (ready : Ready (fun path => chains (key :: path) s.all) (fun path => gone (key :: path)) value)
    (stays : gone [key] = false) :
    leave? w key (Tree.foldSiblings runLeaf runBranch s).all
        (value.prune fun path => gone (key :: path)) =
      .ok (value.pruneEntry (fun path => gone path || removes path s.all) key) := by
  rw [all_foldSiblings, leave?_prunes room each ready, Json.pruneEntry, stays, Bool.false_or]

theorem sweep_prunes (room : w.HasRoom levels)
    (each : ∀ child ∈ s.all, child.1.isStatic = true ∧ Prunes levels child.2)
    (ready : Ready (chains · s.all) gone value) :
    sweep (Tree.foldSiblings runLeaf runBranch s) w (value.prune gone) =
      .ok (value.prune fun path => gone path || removes path s.all) := by
  cases value with
  | obj members =>
    simp only [sweep, Json.prune, Json.filterMapEntries, Json.pruneMembers_eq]
    refine Outcome.map_eq_ok.mpr ⟨_, Outcome.filterMapM_filterMap ?_ ?_, rfl⟩
    · rintro ⟨key, held⟩ present dropped
      have went : gone [key] = true := by simpa [Json.pruneEntry] using dropped
      simp [Json.pruneEntry, went]
    · rintro ⟨key, held⟩ present left kept
      obtain ⟨stayed, found, rfl⟩ := Option.map_eq_some_iff.mp kept
      obtain ⟨stays, same⟩ := Option.ite_none_left_eq_some.mp found
      cases same
      have inner : Ready (fun path => chains (key :: path) s.all)
          (fun path => gone (key :: path)) held := ready.under fun inside => .member present inside
      rw [entry_prunes room each inner (Bool.eq_false_iff.mpr stays)]
      rfl
  | arr items =>
    -- the array itself is entered, so that all of its items are still there
    have whole : ∀ path, path ≠ [] → gone path = false := by
      intro path deeper
      by_contra removed
      have entered := (ready [] items (.here _)).2 path deeper (by simpa using removed)
      exact absurd entered Nat.one_ne_zero
    rw [Json.prune_eq_self _ whole]
    simp only [sweep, Json.prune, Json.filterMapEntries, Json.pruneItems_eq]
    refine Outcome.map_eq_ok.mpr ⟨_, ?_, rfl⟩
    refine Outcome.filterMapM_eq ?_
    rintro ⟨held, index⟩ present
    have stays := whole [Decimal.natText index] (List.cons_ne_nil _ [])
    have inner : Ready (fun path => chains (Decimal.natText index :: path) s.all)
        (fun path => gone (Decimal.natText index :: path)) held :=
      ready.under fun inside => .item (List.mem_zipIdx_iff_getElem?.mp present) inside
    have left := entry_prunes room each inner stays
    rwa [Json.prune_eq_self held fun path _ => whole (_ :: path) (List.cons_ne_nil _ path)] at left
  | _ => rfl

/-- Keys of remove specs match by their texts alone. -/
theorem uses : dialect.Uses fun element => element.isStatic = true := by
  intro outer inner path element value below used tree made
  simp only [dialect, child] at made
  split at made
  case isFalse => cases made
  case isTrue static =>
    split at made
    · obtain ⟨_, -, built⟩ := Outcome.map_eq_ok.mp made
      cases built
      exact static
    · split at made
      · cases made
        exact static
      · cases made
    · cases made

private theorem prunes_inherits :
    Dialect.Inherits (fun element => element.isStatic = true) Prunes where
  leaf _ _ := trivial
  branch {room info path children s} _ each := by
    intro matched w value gone hasRoom ready
    obtain ⟨inner, entered, left⟩ := hasRoom.push none matched
    have swept := sweep_prunes left each ready
    rw [act, Tree.fold_branch, runBranch, entered, Outcome.ok_bind, swept]
    rfl

/-- A compiled remove leaves of a document exactly what no chain of its children down to a leaf
matches, in the order of the document, if no array is entered along two chains. -/
theorem apply_prunes {maxDepth : Nat} {spec input : Json} {t : Remove}
    (compiled : compile maxDepth spec = .ok t) (unshared : Unshared t.children.all input) :
    t.apply input = .ok (input.prune fun path => removes path t.children.all) := by
  obtain ⟨⟨info, s⟩, read, built⟩ := Outcome.map_eq_ok.mp compiled
  cases built
  obtain ⟨-, each⟩ := Dialect.compile_grants nests uses prunes_inherits spec read
  obtain ⟨w, entered, room⟩ := rootWalk_hasRoom maxDepth none
  have ready : Ready (chains · s.all) (fun _ => false) input := fun path items present =>
    ⟨unshared path items present, fun _ _ absent => nomatch absent⟩
  have swept := sweep_prunes room.less each ready
  rw [Json.prune_eq_self input fun _ _ => rfl] at swept
  rw [apply, entered, Outcome.ok_bind, runChildren, swept]
  simp only [Bool.false_or]

/-- Two wildcards that go on into the same object, one of them into an array. -/
def overlapping : Remove :=
  ⟨64, ⟨[],
    [(.star (.single "" "b"), .branch () ⟨[("q", .leaf ())], [], [], .literalsOnly⟩),
      (.star (.single "a" ""), .branch ()
        ⟨[("p", .branch () ⟨[("0", .leaf ()), ("1", .leaf ())], [], [], .literalsOnly⟩)], [], [],
          .literalsOnly⟩)],
    [], .computedOnly⟩⟩

private theorem unshared_overlapping : Unshared overlapping.children.all
    (.obj [("ab", .obj [("p", .arr [.null, .bool true, .bool false]), ("q", .null)])]) := by
  intro path items present
  cases present with
  | member present below =>
    obtain ⟨rfl, rfl⟩ := Prod.mk.inj (List.mem_singleton.mp present)
    cases below with
    | member present below =>
      rcases List.mem_pair.mp present with found | found
      · cases found
        cases below with
        | here => decide
        | item present below =>
          have member := List.mem_of_getElem? present
          simp only [List.mem_cons, List.not_mem_nil, or_false] at member
          rcases member with rfl | rfl | rfl <;> cases below
      · cases found
        cases below

/-- Positions are those of the array as it was: the first two items go together. -/
theorem apply_prunes_overlapping :
    compile 64 (.obj [("a*", .obj [("p", .obj [("0", .str ""), ("1", .str "")])]),
      ("*b", .obj [("q", .str "")])]) = .ok overlapping ∧
    overlapping.apply
        (.obj [("ab", .obj [("p", .arr [.null, .bool true, .bool false]), ("q", .null)])]) =
      .ok (.obj [("ab", .obj [("p", .arr [.bool false])])]) := by
  have compiled : compile 64 (.obj [("a*", .obj [("p", .obj [("0", .str ""), ("1", .str "")])]),
      ("*b", .obj [("q", .str "")])]) = .ok overlapping := rfl
  exact ⟨compiled, apply_prunes compiled unshared_overlapping⟩

/-- An array that two branches enter: the second one counts in what the first one has left. -/
example :
    apply ⟨64, ⟨[],
        [(.star (.single "" "b"), .branch () ⟨[("0", .leaf ())], [], [], .literalsOnly⟩),
          (.star (.single "a" ""), .branch () ⟨[("1", .leaf ())], [], [], .literalsOnly⟩)],
        [], .computedOnly⟩⟩
        (.obj [("ab", .arr [.null, .bool true, .bool false])]) =
      .ok (.obj [("ab", .arr [.bool true])]) := rfl

end Transform.Remove

end Reshape
