import Reshape.Proofs.Transform.Room
import Reshape.Proofs.Unordered.Filling

namespace Reshape.Transform.Default

open Key Spec Outcome Decimal

variable {doc other node value spec : Json} {w : Walk} {container : Container}

/-- Two actions make twins of twins, or fail on both of them. -/
def Agreeing (f g : Action) : Prop :=
  ∀ matched w, Json.Twins.Agree Json.Twins (f matched w) (g matched w)

theorem Agreeing.self {f g : Action} (agree : Agreeing f g) : Agreeing f f :=
  fun matched w => (agree matched w).self (fun same => same.symm) fun one two => one.trans two

/-- Twins that are the kind of container that is filled. -/
structure Ground (container : Container) (doc other : Json) : Prop where
  twins : doc.Twins other
  accepted : container.accepts doc = true

theorem Ground.trans {third : Json} (one : Ground container doc other)
    (two : Ground container other third) : Ground container doc third :=
  ⟨one.twins.trans two.twins, one.accepted⟩

theorem fillPlace_ground {f g : Action} (agree : Agreeing f g) (text : String)
    (ground : Ground container doc other) :
    Both (Ground container) (fillPlace w text f doc) (fillPlace w text g other) := by
  rw [fillPlace_eq, fillPlace_eq]
  refine (agree (.ofKey text) w _ _ (seen_twins ground.twins text)).map fun same => ?_
  exact ⟨settle_twins ground.twins same text, (accepts_settle ..).trans ground.accepted⟩

/-- The places of texts that are apart are filled in any order. -/
theorem fillPlace_comm {f g : Action} {text label : String}
    (apart : ApartTexts container text label) (agree : Agreeing f f) (also : Agreeing g g)
    (self : Ground container doc doc) :
    Both (Ground container)
      (fillPlace w text f doc >>= fun node => fillPlace w label g node)
      (fillPlace w label g doc >>= fun node => fillPlace w text f node) := by
  have one := agree (.ofKey text) w _ _ (seen_twins self.twins text)
  have two := also (.ofKey label) w _ _ (seen_twins self.twins label)
  simp only [fillPlace_eq, map_bind, seen_settle apart self.accepted,
    seen_settle apart.symm self.accepted]
  generalize f (.ofKey text) w (seen text doc) = first, g (.ofKey label) w (seen label doc) = second
    at one two
  cases one with
  | failed e last =>
    cases two with
    | failed other _ => exact .failed e other
    | done _ => exact .failed e e
  | done one =>
    cases two with
    | failed e last => exact .failed e e
    | done two =>
      have settled := settle_twins (settle_twins self.twins one text) two label
      refine .done ⟨⟨settle_comm apart self.accepted _ _, settled.keyed⟩, ?_⟩
      rw [accepts_settle, accepts_settle, self.accepted]

private theorem fillPlaces_eq_foldlM (places : List (String × Action)) (node : Json) :
    fillPlaces w places node =
      places.foldlM (fun node place => fillPlace w place.1 place.2 node) node := by
  induction places generalizing node with
  | nil => rfl
  | cons place rest ih =>
    rw [fillPlaces, List.foldlM_cons]
    exact bind_congr_of_ok fun filled _ => ih filled

variable {α : Type} {f g : Element → α → Action}

def places (f : Element → α → Action) (literals : List (String × α)) : List (String × Action) :=
  literals.map fun entry => (entry.1, f (.literal entry.1) entry.2)

theorem fillPlaces_ground {literals others : List (String × α)} (same : literals.Perm others)
    (texts : (literals.map (·.1)).Nodup)
    (indices : container = .array → Siblings.ApartIndices (literals.map (·.1)))
    (agree : ∀ entry ∈ literals,
      Agreeing (f (.literal entry.1) entry.2) (g (.literal entry.1) entry.2))
    (ground : Ground container doc other) :
    Both (Ground container) (fillPlaces w (places f literals) doc)
      (fillPlaces w (places g others) other) := by
  simp only [fillPlaces_eq_foldlM, places, List.foldlM_map]
  have apart : literals.Pairwise fun first later => ApartTexts container first.1 later.1 := by
    refine (List.Pairwise.and_mem.mp (List.pairwise_map.mp texts)).imp ?_
    rintro first later ⟨present, also, differ⟩
    exact ⟨differ, fun array index read again => differ (indices array first.1
      (List.mem_map_of_mem present) later.1 (List.mem_map_of_mem also) index read again)⟩
  have symm {first later : String × α} (apart : ApartTexts container first.1 later.1) :
      ApartTexts container later.1 first.1 := apart.symm
  have moved : Both (Ground container)
      (literals.foldlM
        (fun node entry => fillPlace w entry.1 (f (.literal entry.1) entry.2) node) doc)
      (others.foldlM
        (fun node entry => fillPlace w entry.1 (f (.literal entry.1) entry.2) node) doc) := by
    refine Both.foldlM_perm ?_ symm same ?_ ?_ apart ⟨.refl ground.twins.keyed, ground.accepted⟩
    · exact Ground.trans
    · exact fun entry present _ _ ground => fillPlace_ground (agree entry present).self _ ground
    · exact fun first present later also between _ self =>
        fillPlace_comm between (agree first present).self (agree later also).self self
  have kept : Both (Ground container)
      (others.foldlM
        (fun node entry => fillPlace w entry.1 (f (.literal entry.1) entry.2) node) doc)
      (others.foldlM
        (fun node entry => fillPlace w entry.1 (g (.literal entry.1) entry.2) node) other) := by
    refine Both.foldlM_forall₂ (List.forall₂_same.mpr fun entry present _ _ ground => ?_) ground
    exact fillPlace_ground (agree entry (same.mem_iff.mpr present)) _ ground
  exact moved.trans (fun one two => one.trans two) kept

private theorem fillEntry_twins {children : List (Element × α)}
    (agree : ∀ child ∈ children, Agreeing (f child.1 child.2) (g child.1 child.2)) (w : Walk)
    (key : String) : Json.Twins.Agree Json.Twins
      (fillEntry w key (children.map fun child => (child.1, f child.1 child.2)))
      (fillEntry w key (children.map fun child => (child.1, g child.1 child.2))) := by
  induction children with
  | nil => exact fun _ _ twins => .done twins
  | cons child rest ih =>
    obtain ⟨first, later⟩ := List.forall_mem_cons.mp agree
    intro value other twins
    refine Both.bind_same fun found _ => ?_
    cases found with
    | none => exact ih later value other twins
    | some matched =>
      exact (first matched w value other twins).bind fun same => ih later _ _ same

/-- What is known of the literals of a branch: they are different places of its container. -/
def Admitted (container : Container) (texts : List String) : Prop :=
  texts.Nodup ∧ (container = .array → Siblings.ApartIndices texts)

theorem Admitted.perm {texts others : List String} (admitted : Admitted container texts)
    (same : texts.Perm others) : Admitted container others :=
  ⟨same.nodup_iff.mp admitted.1, fun array => (admitted.2 array).perm same⟩

private theorem runBranch_twins {siblings : Siblings α} {literals : List (String × α)}
    (admitted : Admitted container (siblings.literals.map (·.1)))
    (same : literals.Perm siblings.literals)
    (agree : ∀ child ∈ siblings.all, Agreeing (f child.1 child.2) (g child.1 child.2)) :
    Agreeing (runBranch container (({ siblings with literals } : Siblings α).map f))
      (runBranch container (siblings.map g)) := by
  intro matched w value other twins
  have nodes : (if value.isNull then container.empty else value).Twins
      (if other.isNull then container.empty else other) := by
    rw [← twins.alike.isNull_eq]
    split
    · refine .refl ?_
      cases container with
      | object => exact .object List.nodup_nil nofun
      | array => exact .array nofun
    · exact twins
  unfold runBranch
  dsimp only
  rw [← accepts_eq container nodes.alike]
  refine .ite (fun accepted => ?_) fun _ => .done twins
  refine Both.bind_same fun inner _ => ?_
  have texts := admitted.perm (same.map (·.1)).symm
  have filled := fillPlaces_ground (w := inner) same texts.1 texts.2
    (fun entry present => Siblings.forall_literals agree entry (same.mem_iff.mp present))
    ⟨nodes, accepted⟩
  exact filled.bind fun ground => Json.Twins.mapEntries
    (fun key => fillEntry_twins (Siblings.forall_computed agree) inner key) ground.twins

/-- Trees that are equal up to the order of literals make twins of twins. -/
theorem run_twins {t u : Node} (reordered : t.Reordered Json.Twins u)
    (admitted : t.Throughout Admitted) : Agreeing (run t) (run u) := by
  refine reordered.fold_agree Admitted ?_ ?_ ?_ ?_ admitted
  · exact fun same admitted => admitted.perm same
  · exact fun one two matched w => (one matched w).trans (two matched w)
      fun one two => one.trans two
  · intro filled written same matched w value other twins
    rw [runLeaf, runLeaf, ← twins.alike.isNull_eq]
    refine .done ?_
    split
    · exact same
    · exact twins
  · exact fun admitted same each => runBranch_twins admitted same each

theorem child_alike {outer inner : Container} {pointer : Pointer} {element : Element}
    {below beneath : Except _ _} (alike : value.Alike other) (keyed : value.Keyed)
    (same : Both (Dialect.SameBranch Json.Twins) below beneath) :
    Both (fun first second => first.1 = second.1 ∧ first.2.Reordered Json.Twins second.2)
      (child outer inner pointer element value below)
      (child outer inner pointer element other beneath) := by
  have leaf {value other : Json} (twins : value.Twins other) (e : BuildError) :
      Both (fun first second : Element × Node =>
          first.1 = second.1 ∧ first.2.Reordered Json.Twins second.2)
        (if inner = .array then .error e else .ok (element, .leaf value))
        (if inner = .array then .error e else .ok (element, .leaf other)) :=
    .ite (fun _ => .failed _ _) fun _ => .done ⟨rfl, .leaf twins⟩
  unfold child
  cases checkElement outer element with
  | error fault => exact .failed _ _
  | ok accepted =>
    have twins : value.Twins other := ⟨alike, keyed⟩
    cases alike.kinds with
    | objects members others => exact same.map fun same => ⟨rfl, same⟩
    | arrays items others => exact leaf twins _
    | scalar plain =>
      cases other with
      | obj members => cases plain
      | _ => exact leaf twins _

private theorem isStatic_of_checkElement {element : Element} {fine : Unit}
    (accepted : checkElement outer element = .ok fine) : element.isStatic = true := by
  unfold checkElement at accepted
  split at accepted
  · rfl
  · rfl
  · cases accepted

/-- Keys of default specs match by their texts alone. -/
theorem uses : dialect.Uses fun element => element.isStatic = true := by
  intro outer inner path element value below used tree made
  simp only [dialect, child] at made
  split at made
  case h_1 => cases made
  case h_2 accepted =>
    split at made
    · obtain ⟨_, -, built⟩ := map_eq_ok.mp made
      cases built
      exact isStatic_of_checkElement accepted
    · split at made
      · cases made
      · cases made
        exact isStatic_of_checkElement accepted

private theorem orderless : dialect.Orderless (fun _ => false) Json.Twins where
  accept _ := .done trivial
  child alike keyed same := child_alike alike.alike keyed same
  close _ _ _ := rfl
  sealed held := nomatch held
  nests := nests
  lone made special := absurd special (role_of_isStatic (uses made))

private theorem info_eq {limit : Nat} {compiled : Container × Siblings Node}
    (found : dialect.compileRoot limit container spec = .ok compiled) : compiled.1 = container := by
  obtain ⟨members, rfl⟩ := Dialect.exists_members found
  rw [Dialect.compileRoot, Dialect.compile_obj] at found
  split at found
  · cases found
  · split at found
    · cases found
    · obtain ⟨entries, -, assembled⟩ := bind_eq_ok.mp found
      obtain ⟨info, closed, assembled⟩ := bind_eq_ok.mp assembled
      obtain ⟨siblings, -, built⟩ := bind_eq_ok.mp assembled
      cases closed
      cases built
      rfl

variable {maxDepth : Nat} {t u : Default} {input another : Json}

/-- Children of branches on one kind of container that are equal up to the order of literals. -/
def SameChildren (container : Container) (first second : Siblings Node) : Prop :=
  (Tree.branch container first : Node).Shuffled Json.Twins (.branch container second)

/-- Defaults that are equal up to the order of literals. -/
structure SameDefault (t u : Default) : Prop where
  depth : t.maxDepth = u.maxDepth
  object : SameChildren .object t.forObject u.forObject
  array : Option.Rel (SameChildren .array) t.forArray u.forArray

private theorem compileRoot_alike (alike : spec.Alike other) (keyed : spec.Keyed) (maxDepth : Nat)
    (container : Container) :
    Both (fun first second => SameChildren container first.2 second.2)
      (dialect.compileRoot maxDepth container spec)
      (dialect.compileRoot maxDepth container other) := by
  have compiled := Dialect.compileRoot_alike orderless (.of_alike alike) keyed maxDepth container
  refine compiled.imp fun found also same => ?_
  rwa [info_eq found, info_eq also] at same

theorem compile_alike (alike : spec.Alike other) (keyed : spec.Keyed) (maxDepth : Nat) :
    Both SameDefault (compile maxDepth spec) (compile maxDepth other) := by
  have object := compileRoot_alike alike keyed maxDepth .object
  have array := compileRoot_alike alike keyed maxDepth .array
  refine object.bind fun same => .done ⟨rfl, same, ?_⟩
  generalize dialect.compileRoot maxDepth .array spec = first,
    dialect.compileRoot maxDepth .array other = second at array
  cases array with
  | failed e last => exact .none
  | done same => exact .some same

private theorem root_alike (same : SameDefault t u) (alike : input.Alike another) :
    Both (fun first second => first.Shuffled Json.Twins second)
      (t.root input) (u.root another) := by
  have scalars (doc : Json) (plain : doc.isContainer = false) :
      Both (fun first second => first.Shuffled Json.Twins second) (t.root doc) (u.root doc) := by
    cases doc with
    | null => exact .done same.object
    | obj members => cases plain
    | arr items => cases plain
    | _ => exact .failed _ _
  cases alike.kinds with
  | objects members others => exact .done same.object
  | arrays items others =>
    have array := same.array
    unfold root
    generalize t.forArray = first, u.forArray = second at array
    cases array with
    | none => exact .failed _ _
    | some same => exact .done same
  | scalar plain => exact scalars _ plain

/-- No two literals of one array are the same index, in the tree for an input. -/
def ApartIndices (t : Default) (input : Json) : Prop :=
  ∀ node, t.root input = .ok node → node.Throughout fun container texts =>
    container = .array → Siblings.ApartIndices texts

/-- Defaults make twins of twins, or fail on both of them. -/
theorem apply_twins (same : SameDefault t u) (apart : t.ApartIndices input)
    (twins : input.Twins another) : Both Json.Twins (t.apply input) (u.apply another) := by
  refine (root_alike same twins.alike).bind_of_ok fun {first second} used shuffled => ?_
  rw [same.depth]
  refine Both.bind_same fun w _ => ?_
  have admitted : first.Throughout Admitted :=
    (apart first used).combine (fun _ _ indices texts => ⟨texts, indices⟩) shuffled.texts
  exact run_twins shuffled.reordered admitted (.ofKey rootKey) w input another twins

end Reshape.Transform.Default
