import Reshape.Proofs.Reordering
import Reshape.Proofs.Spec.Spreading

/-! Alternatives mean siblings. In the spec of every kind of stage a key whose alternatives are
joined by bars can be spread out to a key for each of them, at any depth. Default alone reads
a part of a key before its alternatives, the brackets at its end. -/

namespace Reshape

open Key Spec

/-- Values that are equal, or nodes both. -/
inductive Json.Akin : Json → Json → Prop where
  | same (value : Json) : Akin value value
  | nodes (members others : Members) : Akin (.obj members) (.obj others)

namespace Transform

variable {value written : Json}

namespace Shift

private theorem readPath_placeless (path other : Pointer) (text : String) :
    Outcome.Both Eq (readPath path text) (readPath other text) := by
  unfold readPath
  cases Path.parse text with
  | error e => exact .failed _ _
  | ok steps => exact .done rfl

theorem passes (akin : value.Akin written) : dialect.Passes value written where
  accept := .rfl
  child _ := by
    intro outer inner path other element below beneath same
    have nodes (members others : Members) : Outcome.Both Eq
        (child path element (.obj members) below) (child other element (.obj others) beneath) := by
      simp only [child]
      split
      · exact .failed _ _
      · exact same.map fun equal => by rw [equal]
    cases akin with
    | nodes members others => exact nodes members others
    | same value =>
      cases value with
      | obj members => exact nodes members members
      | str text => exact (readPath_placeless path other text).map fun equal => by rw [equal]
      | arr entries =>
        have each : ∀ entry ∈ entries,
            Outcome.Both Eq (readEntry path entry) (readEntry other entry) := by
          intro entry _
          cases entry with
          | str text => exact readPath_placeless path other text
          | _ => exact .failed _ _
        refine (Outcome.Both.mapM each).map fun equal => ?_
        rw [List.forall₂_eq_eq_eq] at equal
        rw [equal]
      | null => exact .done rfl
      | _ => exact .failed _ _

theorem placeless : dialect.Placeless where
  child value := passes (.same value)
  close _ := .done rfl

end Shift

namespace Default

theorem passes (akin : value.Akin written) : dialect.Passes value written where
  accept := .rfl
  child _ := by
    intro outer inner path other element below beneath same
    change Outcome.Both Eq (child outer inner path element value below)
      (child outer inner other element written beneath)
    unfold child
    cases checkElement outer element with
    | error fault => exact .failed _ _
    | ok _ =>
      cases akin with
      | nodes members others => exact same.map fun equal => by rw [equal]
      | same value =>
        cases value with
        | obj members => exact same.map fun equal => by rw [equal]
        | _ =>
          dsimp only
          split
          · exact .failed _ _
          · exact .done rfl

theorem placeless : dialect.Placeless where
  child value := passes (.same value)
  close _ := .done rfl

end Default

namespace Remove

theorem passes (akin : value.Akin written) : dialect.Passes value written where
  accept := .rfl
  child _ := by
    intro outer inner path other element below beneath same
    change Outcome.Both Eq (child path element value below) (child other element written beneath)
    unfold child
    split
    case isFalse => exact .failed _ _
    case isTrue =>
      cases akin with
      | nodes members others => exact same.map fun equal => by rw [equal]
      | same value =>
        cases value with
        | obj members => exact same.map fun equal => by rw [equal]
        | str text =>
          dsimp only
          split
          · exact .done rfl
          · exact .failed _ _
        | _ => exact .failed _ _

theorem placeless : dialect.Placeless where
  child value := passes (.same value)
  close _ := .done rfl

end Remove

namespace Cardinality

theorem passes (akin : value.Akin written) : dialect.Passes value written where
  accept := .rfl
  child _ := by
    intro outer inner path other element below beneath same
    have nodes : Outcome.Both Eq
        (if element = .here then .error ⟨path, .hereOverObject⟩
          else below.map fun node => (element, Tree.branch node.1 node.2))
        (if element = .here then .error ⟨other, .hereOverObject⟩
          else beneath.map fun node => (element, Tree.branch node.1 node.2)) := by
      split
      · exact .failed _ _
      · exact same.map fun equal => by rw [equal]
    change Outcome.Both Eq (child path element value below) (child other element written beneath)
    unfold child
    split
    case isFalse => exact .failed _ _
    case isTrue =>
      cases akin with
      | nodes members others => exact nodes
      | same value =>
        cases value with
        | obj members => exact nodes
        | str text =>
          dsimp only
          cases Relation.read? text with
          | none => exact .failed _ _
          | some relation => exact .done rfl
        | _ => exact .failed _ _

theorem placeless : dialect.Placeless where
  child value := passes (.same value)
  close _ := .done rfl

end Cardinality

namespace Modify

variable {functions : Registry}

theorem passes (akin : value.Akin written) : (dialect functions).Passes value written where
  accept := .rfl
  child _ := by
    intro outer inner path other element below beneath same
    change Outcome.Both Eq (child functions path element value below)
      (child functions other element written beneath)
    unfold child
    cases usedElement? element with
    | none => exact .failed _ _
    | some used =>
      have nodes : Outcome.Both Eq
          (below.map fun node => (used, Tree.branch node.1 node.2))
          (beneath.map fun node => (used, Tree.branch node.1 node.2)) :=
        same.map fun equal => by rw [equal]
      cases akin with
      | nodes members others => exact nodes
      | same value =>
        dsimp only
        split
        · exact nodes
        · cases Formula.read functions value with
          | error fault => exact .failed _ _
          | ok formula => exact .done rfl

theorem placeless : (dialect functions).Placeless where
  child value := passes (.same value)
  close {_ entries others} same := by
    have keys : entries.map (·.written) = others.map (·.written) := by
      induction same with
      | nil => rfl
      | cons first _ ih => rw [List.map_cons, List.map_cons, ih, first.written]
    exact close_written fun key => by rw [keys]

end Modify

namespace Filter

mutual

theorem Matcher.compile_placeless {path other : Pointer} :
    ∀ value, Outcome.Both Eq (Matcher.compile path value) (Matcher.compile other value)
  | .str source => by
    rw [Matcher.compile, Matcher.compile, Matcher.ofPattern, Matcher.ofPattern]
    cases Regex.parse (anchored source) with
    | error e => exact .failed _ _
    | ok pattern => exact .done rfl
  | .arr members => by
    rw [Matcher.compile, Matcher.compile]
    exact (Matcher.compileAll_placeless members).map fun equal => by rw [equal]
  | .null | .bool _ | .num _ | .obj _ => .done rfl

theorem Matcher.compileAll_placeless {path other : Pointer} :
    ∀ members, Outcome.Both Eq (Matcher.compileAll path members) (Matcher.compileAll other members)
  | [] => .done rfl
  | member :: rest => by
    rw [Matcher.compileAll, Matcher.compileAll]
    refine (Matcher.compile_placeless member).bind fun first => ?_
    exact (Matcher.compileAll_placeless rest).bind fun more => .done (by rw [first, more])

end

private theorem compilePredicates_placeless {path other : Pointer} (members : Members) :
    Outcome.Both Eq (compilePredicates path members) (compilePredicates other members) := by
  induction members with
  | nil => exact .done rfl
  | cons member rest ih =>
    obtain ⟨field, value⟩ := member
    rw [compilePredicates, compilePredicates]
    cases Path.parse field with
    | error e => exact .failed _ _
    | ok steps =>
      refine (Matcher.compile_placeless value).bind fun first => ?_
      exact ih.bind fun more => .done (by rw [first, more])

theorem placeless : dialect.Placeless where
  child value := by
    refine ⟨.rfl, fun _ => ?_⟩
    intro outer inner path other element below beneath same
    have nodes : Outcome.Both Eq
        (below.map fun node => (element, Tree.branch node.1 node.2))
        (beneath.map fun node => (element, Tree.branch node.1 node.2)) :=
      same.map fun equal => by rw [equal]
    change Outcome.Both Eq (child path element value below) (child other element value beneath)
    unfold child
    split
    case isFalse => exact .failed _ _
    case isTrue =>
      split
      · exact (compilePredicates_placeless _).map fun equal => by rw [equal]
      · exact nodes
  close _ := .done rfl

def objects (members : Members) : List Bool :=
  members.map (·.2.isObject)

/-- Objects that have objects in them, and other values both or none. -/
inductive Nodes : Json → Json → Prop where
  | intro {members others : Members} (held : true ∈ objects members)
      (alike : ∀ flag, flag ∈ objects members ↔ flag ∈ objects others) :
      Nodes (.obj members) (.obj others)

/-- Objects with members are no predicates if there is an object in them. -/
theorem isPredicates_eq_false {members : Members} (filled : members ≠ []) :
    isPredicates (.obj members) = false ↔ true ∈ objects members := by
  simp [isPredicates, filled, objects]

private theorem accept_node {members : Members} (plain : isPredicates (.obj members) = false) :
    accept (.obj members) = .ok () ↔ false ∉ objects members := by
  simp [accept, plain, objects]

theorem Nodes.isPredicates (nodes : Nodes value written) :
    isPredicates value = false ∧ isPredicates written = false := by
  obtain ⟨held, alike⟩ := nodes
  have node {members : Members} (held : true ∈ objects members) :
      Filter.isPredicates (.obj members) = false := by
    refine (isPredicates_eq_false ?_).mpr held
    rintro rfl
    cases held
  exact ⟨node held, node ((alike true).mp held)⟩

theorem Nodes.passes (nodes : Nodes value written) : dialect.Passes value written := by
  obtain ⟨plain, also⟩ := nodes.isPredicates
  obtain ⟨-, alike⟩ := nodes
  constructor
  case accept =>
    exact (accept_node plain).trans ((not_congr (alike false)).trans (accept_node also).symm)
  case child =>
    intro _ outer inner path other element below beneath same
    simp only [dialect, child, plain, also]
    split
    · exact same.map fun equal => by rw [equal]
    · exact .failed _ _

end Filter

end Transform

theorem Spec.Surroundings.akin (rest : Surroundings) (members others : Members) :
    (rest.enclose (.obj members)).Akin (rest.enclose (.obj others)) := by
  cases rest with
  | nil => exact .nodes members others
  | cons level rest => exact .nodes _ _

private theorem Spec.Surroundings.isObject (rest : Surroundings) (members : Members) :
    (rest.enclose (.obj members)).isObject = true := by
  cases rest <;> rfl

namespace Transform

/-- A node of a filter is a node again with a key that is spread out, and so is what is
above. -/
theorem Filter.nodes_spread {whole : String} {keys : List String} {value : Json} {site : Site}
    (filled : keys ≠ []) (node : isPredicates (site.node [(whole, value)]) = false)
    (rest : Surroundings) :
    Nodes (rest.enclose (site.node [(whole, value)]))
      (rest.enclose (site.node (keys.map (·, value)))) := by
  cases rest with
  | nil =>
    refine .intro ((isPredicates_eq_false (by simp)).mp node) fun flag => ?_
    have some : ∃ key, key ∈ keys := List.exists_mem_of_ne_nil keys filled
    simp [objects, some, eq_comm]
  | cons level rest =>
    refine .intro ?_ fun flag => ?_
    · simp [objects, Site.node, Surroundings.isObject]
    · simp [objects, Site.node, Surroundings.isObject]

/-- Filters of specs with a key and with the keys that it is spread out to are the same. -/
theorem Filter.compile_spread {maxDepth : Nat} {whole : String} {keys : List String}
    {value : Json} {site : Site} (spreads : dialect.Spreads whole keys)
    (node : isPredicates (site.node [(whole, value)]) = false) :
    Outcome.Both Eq (Filter.compile maxDepth (site.spec [(whole, value)]))
      (Filter.compile maxDepth (site.spec (keys.map (·, value)))) := by
  have nodes := nodes_spread spreads.filled node
  obtain ⟨plain, also⟩ := (nodes site.surroundings).isPredicates
  rw [Filter.compile, Filter.compile, Site.spec, Site.spec, plain, also]
  exact (Dialect.compileRoot_spread placeless spreads (fun rest => (nodes rest).passes) ()).map_eq _

namespace Default

private theorem splitChars_object {key : List Char} (bare : (splitChars key).2 = .object) :
    splitChars key = (key, .object) := by
  unfold splitChars at bare ⊢
  split at bare
  · rfl
  · cases bare
  · rfl

/-- Brackets at the end of a key are at the end of its last alternative. -/
theorem splitChars_append (first : List Char) {last : List Char}
    (bare : (splitChars last).2 = .object) :
    (splitChars (first ++ '|' :: last)).2 = .object := by
  have shape : (first ++ '|' :: last).reverse = last.reverse ++ '|' :: first.reverse := by simp
  unfold splitChars at bare ⊢
  rw [shape]
  generalize last.reverse = chars at bare
  rcases chars with _ | ⟨a, _ | ⟨b, _ | ⟨c, rest⟩⟩⟩
  · rfl
  · split <;> simp_all
  · split <;> simp_all
  · split
    · rfl
    · rename_i tail plain same
      have brackets : a = ']' ∧ b = '[' ∧ c :: (rest ++ '|' :: first.reverse) = tail := by
        simpa using same
      obtain ⟨rfl, rfl, rfl⟩ := brackets
      by_cases escaped : c = '\\'
      · exact (plain _ (by rw [escaped])).elim
      · simp [escaped] at bare
    · rfl

theorem splitKey_object {key : String} (bare : (splitKey key).2 = .object) :
    splitKey key = (key, .object) := by
  have chars : splitChars key.toList = (key.toList, .object) := splitChars_object bare
  rw [splitKey, chars]
  exact congrArg (·, Container.object) String.ofList_toList

private theorem toList_intercalate (part next : String) (rest : List String) :
    ("|".intercalate (part :: next :: rest)).toList =
      part.toList ++ '|' :: ("|".intercalate (next :: rest)).toList := by
  rw [String.intercalate_cons_cons, String.toList_append, String.toList_append, List.append_assoc]
  rfl

private theorem splitKey_intercalate {parts : List String}
    (bare : ∀ part ∈ parts, (splitKey part).2 = .object) :
    (splitKey ("|".intercalate parts)).2 = .object := by
  induction parts with
  | nil => rfl
  | cons part rest ih =>
    obtain ⟨first, later⟩ := List.forall_mem_cons.mp bare
    cases rest with
    | nil => simpa using first
    | cons next rest =>
      rw [splitKey, toList_intercalate]
      exact splitChars_append part.toList (ih later)

/-- Keys without brackets at the end are spread out by their bars. -/
theorem spreads_bare {parts : List String} (filled : parts ≠ [])
    (each : ∀ part ∈ parts, Joinable part) (bare : ∀ part ∈ parts, (splitKey part).2 = .object) :
    dialect.Spreads ("|".intercalate parts) parts := by
  have whole : splitKey ("|".intercalate parts) = ("|".intercalate parts, .object) :=
    splitKey_object (splitKey_intercalate bare)
  have single : ∀ part ∈ parts, splitKey part = (part, .object) :=
    fun part present => splitKey_object (bare part present)
  refine ⟨filled, ?_, fun part present => ?_⟩
  · change alternatives (splitKey _).1 = parts.flatMap fun part => alternatives (splitKey part).1
    rw [whole, alternatives_intercalate filled each]
    refine List.flatMap_congr fun part present => ?_
    rw [single part present]
  · change (splitKey part).2 = (splitKey _).2
    rw [whole, single part present]

/-- Brackets are at the end of a key unless a backslash stands before them. -/
theorem splitChars_brackets {chars : List Char} (unescaped : chars.getLast? ≠ some '\\') :
    splitChars (chars ++ ['[', ']']) = (chars, .array) := by
  obtain ⟨reversed, rfl⟩ : ∃ reversed, chars = reversed.reverse :=
    ⟨chars.reverse, chars.reverse_reverse.symm⟩
  have shape : (reversed.reverse ++ ['[', ']']).reverse = ']' :: '[' :: reversed := by simp
  rw [List.getLast?_reverse] at unescaped
  unfold splitChars
  rw [shape]
  cases reversed with
  | nil => rfl
  | cons c rest =>
    have plain : c ≠ '\\' := by simpa using unescaped
    split
    · simp_all
    · simp_all
    · rename_i other
      exact absurd rfl (other _)

theorem splitKey_brackets {text : String} (unescaped : text.toList.getLast? ≠ some '\\') :
    splitKey (text ++ "[]") = (text, .array) := by
  have chars : (text ++ "[]").toList = text.toList ++ ['[', ']'] := String.toList_append
  rw [splitKey, chars, splitChars_brackets unescaped]
  exact congrArg (·, Container.array) String.ofList_toList

/-- Defaults of specs with a key and with the keys that it is spread out to are the same. -/
theorem compile_spread {maxDepth : Nat} {whole : String} {keys : List String} {value : Json}
    {site : Site} (spreads : dialect.Spreads whole keys) :
    Outcome.Both Eq (Default.compile maxDepth (site.spec [(whole, value)]))
      (Default.compile maxDepth (site.spec (keys.map (·, value)))) := by
  have same (context : Container) : Outcome.Both Eq
      (dialect.compileRoot maxDepth context (site.spec [(whole, value)]))
      (dialect.compileRoot maxDepth context (site.spec (keys.map (·, value)))) :=
    Dialect.compileRoot_spread placeless spreads (fun rest => passes (rest.akin _ _)) context
  unfold Default.compile
  refine (same .object).bind fun equal => ?_
  subst equal
  have arrays := same .array
  generalize dialect.compileRoot maxDepth .array (site.spec [(whole, value)]) = first,
    dialect.compileRoot maxDepth .array (site.spec (keys.map (·, value))) = last at arrays
  cases arrays with
  | failed e other => exact .done rfl
  | done equal => exact .done (by rw [equal])

end Default

end Transform

namespace Stage

variable {options : Options} {functions : Registry} {operation : Operation}

/-- In a spec of any kind a key whose alternatives are joined by bars means the same as a key
for each of them, with its value: both specs compile to the same stage, or none does. A key of
default may not declare an array by brackets at its end, and the fields in the predicates of a
filter are no keys of a node. -/
theorem compile_alternatives {parts : List String} (filled : parts ≠ [])
    (each : ∀ part ∈ parts, Joinable part) (value : Json) (site : Site)
    (bare : operation = .default → ∀ part ∈ parts, (Transform.Default.splitKey part).2 = .object)
    (node : operation = .filter →
      Transform.Filter.isPredicates (site.node [("|".intercalate parts, value)]) = false)
    (stage : Stage) :
    compile options functions operation (site.spec [("|".intercalate parts, value)]) = .ok stage ↔
      compile options functions operation (site.spec (parts.map (·, value))) = .ok stage := by
  refine Outcome.Both.eq_ok_iff ?_ stage
  have spreads {B L : Type} {d : Dialect Unit B L} (plain : d.splitKey = wholeKey) :
      d.Spreads ("|".intercalate parts) parts := by
    refine ⟨filled, ?_, fun _ _ => rfl⟩
    rw [plain]
    exact alternatives_intercalate filled each
  have akin (rest : Surroundings) : (rest.enclose (site.node [("|".intercalate parts, value)])).Akin
      (rest.enclose (site.node (parts.map (·, value)))) := rest.akin _ _
  have modifies (mode : Transform.WriteMode) : Outcome.Both Eq
      ((Transform.Modify.compile options.maxDepth functions mode
        (site.spec [("|".intercalate parts, value)])).map modify)
      ((Transform.Modify.compile options.maxDepth functions mode
        (site.spec (parts.map (·, value)))).map modify) :=
    ((Dialect.compileRoot_spread Transform.Modify.placeless (spreads rfl)
      (fun rest => Transform.Modify.passes (akin rest)) ()).map_eq _).map_eq _
  cases operation with
  | shift =>
    exact ((Dialect.compileRoot_spread Transform.Shift.placeless (spreads rfl)
      (fun rest => Transform.Shift.passes (akin rest)) ()).map_eq _).map_eq _
  | remove =>
    exact ((Dialect.compileRoot_spread Transform.Remove.placeless (spreads rfl)
      (fun rest => Transform.Remove.passes (akin rest)) ()).map_eq _).map_eq _
  | cardinality =>
    exact ((Dialect.compileRoot_spread Transform.Cardinality.placeless (spreads rfl)
      (fun rest => Transform.Cardinality.passes (akin rest)) ()).map_eq _).map_eq _
  | modifyOverwrite => exact modifies .overwrite
  | modifyDefault => exact modifies .fill
  | modifyDefine => exact modifies .define
  | sort => exact .done rfl
  | default =>
    exact (Transform.Default.compile_spread
      (Transform.Default.spreads_bare filled each (bare rfl))).map_eq _
  | filter => exact (Transform.Filter.compile_spread (spreads rfl) (node rfl)).map_eq _

/-- A place below a key, in front of another key. -/
def nested : Site :=
  ⟨[([("k", .null)], "n", [])], [], [("c", .bool true)]⟩

/-- Alternatives of a default mean siblings there. -/
theorem compile_alternatives_nested :
    ["a", "b*"] ≠ [] ∧ (∀ part ∈ ["a", "b*"], Joinable part) ∧
      (Operation.default = .default →
        ∀ part ∈ ["a", "b*"], (Transform.Default.splitKey part).2 = .object) ∧
      (Operation.default = .filter →
        Transform.Filter.isPredicates (nested.node [("a|b*", .str "x")]) = false) ∧
      ∃ stage, compile .initial .empty .default (nested.spec [("a|b*", .str "x")]) = .ok stage ∧
        compile .initial .empty .default (nested.spec [("a", .str "x"), ("b*", .str "x")]) =
          .ok stage := by
  have filled : ["a", "b*"] ≠ [] := List.cons_ne_nil _ _
  have each : ∀ part ∈ ["a", "b*"], Joinable part :=
    List.forall_mem_cons.mpr ⟨⟨rfl, rfl, rfl⟩, List.forall_mem_singleton.mpr ⟨rfl, rfl, rfl⟩⟩
  have bare : Operation.default = .default →
      ∀ part ∈ ["a", "b*"], (Transform.Default.splitKey part).2 = .object :=
    fun _ => List.forall_mem_cons.mpr ⟨rfl, List.forall_mem_singleton.mpr rfl⟩
  have node : Operation.default = .filter →
      Transform.Filter.isPredicates (nested.node [("a|b*", .str "x")]) = false := nofun
  obtain ⟨stage, compiled⟩ : ∃ stage,
      compile .initial .empty .default (nested.spec [("a|b*", .str "x")]) = .ok stage := ⟨_, rfl⟩
  have spread := (@compile_alternatives .initial .empty .default _ filled each (.str "x") nested
    bare node stage).mp compiled
  exact ⟨filled, each, bare, node, stage, compiled, spread⟩

end Stage

end Reshape
