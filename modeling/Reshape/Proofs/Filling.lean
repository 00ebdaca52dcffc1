import Reshape.Chain
import Reshape.Proofs.Extension
import Reshape.Proofs.Spec.Fold
import Reshape.Proofs.WalkShape

namespace Reshape

open Key Spec Transform

namespace Transform.Default

/-- What an action makes of a value still extends what the value extends. -/
def Keeps (act : Action) : Prop :=
  ∀ {matched w doc value filled}, Extends .fillable doc value →
    act matched w value = .ok filled → Extends .fillable doc filled

variable {w : Walk} {key : String} {doc value node filled : Json}

theorem fillEntry_keeps {children : List (Element × Action)}
    (each : ∀ child ∈ children, Keeps child.2) (extension : Extends .fillable doc value)
    (ran : fillEntry w key children value = .ok filled) : Extends .fillable doc filled := by
  induction children generalizing value with
  | nil =>
    cases ran
    exact extension
  | cons child rest ih =>
    obtain ⟨first, later⟩ := List.forall_mem_cons.mp each
    obtain ⟨found, -, ran⟩ := Outcome.bind_eq_ok.mp ran
    cases found with
    | none => exact ih later extension ran
    | some matched =>
      obtain ⟨middle, acted, ran⟩ := Outcome.bind_eq_ok.mp ran
      exact ih later (first extension acted) ran

theorem fillPlace_keeps {act : Action} (keeps : Keeps act) (extension : Extends .fillable doc node)
    (ran : fillPlace w key act node = .ok filled) : Extends .fillable doc filled := by
  have fills (own : Json) :
      Extends .fillable doc (WriteMode.fill.write (.member key) own none node) :=
    extension.write rfl fun define => nomatch define
  simp only [fillPlace] at ran
  split at ran
  · obtain ⟨own, -, written⟩ := Outcome.bind_eq_ok.mp ran
    cases written
    exact fills own
  · obtain ⟨own, -, written⟩ := Outcome.bind_eq_ok.mp ran
    cases written
    exact fills own
  · rename_i value _ held
    obtain ⟨own, acted, written⟩ := Outcome.bind_eq_ok.mp ran
    cases written
    refine extension.replace fun old found => ?_
    obtain ⟨new, present, below⟩ := extension.child? found
    rw [held] at present
    cases present
    exact keeps below acted

theorem fillPlaces_keeps {places : List (String × Action)}
    (each : ∀ place ∈ places, Keeps place.2) (extension : Extends .fillable doc node)
    (ran : fillPlaces w places node = .ok filled) : Extends .fillable doc filled := by
  induction places generalizing node with
  | nil =>
    cases ran
    exact extension
  | cons place rest ih =>
    obtain ⟨first, later⟩ := List.forall_mem_cons.mp each
    obtain ⟨middle, placed, ran⟩ := Outcome.bind_eq_ok.mp ran
    exact ih later (fillPlace_keeps first extension placed) ran

private theorem fillChildren_keeps {s : Siblings Action} (each : ∀ child ∈ s.all, Keeps child.2)
    (extension : Extends .fillable doc node) (ran : fillChildren s w node = .ok filled) :
    Extends .fillable doc filled := by
  obtain ⟨middle, placed, ran⟩ := Outcome.bind_eq_ok.mp ran
  refine (fillPlaces_keeps (Siblings.forall_literals each) extension placed).mapEntries ?_ ran
  intro key old value new below changed
  exact fillEntry_keeps (Siblings.forall_computed each) below changed

private theorem runLeaf_keeps (own : Json) : Keeps (runLeaf own) := by
  intro matched w doc value filled extension ran
  cases ran
  cases value with
  | null =>
    rw [extension.eq_null]
    exact .filled rfl _
  | _ => exact extension

private theorem runBranch_keeps (container : Container) {s : Siblings Action}
    (each : ∀ child ∈ s.all, Keeps child.2) : Keeps (runBranch container s) := by
  intro matched w doc value filled extension ran
  cases value with
  | null =>
    rw [extension.eq_null]
    exact .filled rfl _
  | _ =>
    simp only [runBranch, Json.isNull, Bool.false_eq_true, if_false] at ran
    split at ran
    · obtain ⟨inner, -, ran⟩ := Outcome.bind_eq_ok.mp ran
      exact fillChildren_keeps each extension ran
    · cases ran
      exact extension

theorem run_keeps (t : Node) : Keeps (run t) := by
  induction t using Tree.induct with
  | leaf own =>
    rw [run, Tree.fold]
    exact runLeaf_keeps own
  | branch container s ih =>
    rw [run, Tree.fold_branch, Siblings.foldSiblings_eq_map]
    refine runBranch_keeps container ?_
    rw [Siblings.all_map]
    exact List.forall_mem_map.mpr ih

/-- A default extends its input, whose nulls may be filled. -/
theorem apply_extends {t : Default} {input output : Json} (ran : t.apply input = .ok output) :
    Extends .fillable input output := by
  obtain ⟨node, -, ran⟩ := Outcome.bind_eq_ok.mp ran
  obtain ⟨w, -, ran⟩ := Outcome.bind_eq_ok.mp ran
  exact run_keeps node (Extends.refl .fillable input) ran

end Transform.Default

namespace Transform.Modify

variable {nulls : Nulls} {mode : WriteMode}

/-- What an action makes of a container still extends the container as it was before the
stage, if it was there. -/
def Keeps (nulls : Nulls) (act : Action) : Prop :=
  ∀ {element slot snapshot w parent changed}, (∀ old ∈ snapshot, Extends nulls old parent) →
    sizeBefore w = snapshot.bind Json.arrayLength? →
    act element slot snapshot w parent = .ok changed →
    ∀ old ∈ snapshot, Extends nulls old (changed.getD parent)

variable {w : Walk} {slot : Slot} {snapshot : Option Json} {parent node : Json}

theorem sizeBefore_push {tree : Option Json} {matched : Match} {inner : Walk}
    (entered : w.push tree matched = .ok inner) :
    sizeBefore inner = tree.bind Json.arrayLength? := by
  rw [sizeBefore, Walk.frame?, Walk.frames_push entered]
  rfl

private theorem offer_keeps {children : List (Element × Action)}
    (each : ∀ child ∈ children, Keeps nulls child.2)
    (extension : ∀ old ∈ snapshot, Extends nulls old parent)
    (measured : sizeBefore w = snapshot.bind Json.arrayLength?) {changed : Option Json}
    (ran : offer slot snapshot w parent children = .ok changed) :
    ∀ old ∈ snapshot, Extends nulls old (changed.getD parent) := by
  induction children with
  | nil =>
    cases ran
    exact extension
  | cons child rest ih =>
    obtain ⟨first, later⟩ := List.forall_mem_cons.mp each
    obtain ⟨handled, acted, ran⟩ := Outcome.bind_eq_ok.mp ran
    cases handled with
    | none => exact ih later ran
    | some changed =>
      cases ran
      exact first extension measured acted

theorem runVisits_keeps {visits : List (Visit Action)}
    (each : ∀ visit ∈ visits, ∀ child ∈ visit.candidates, Keeps nulls child.2)
    (extension : ∀ old ∈ snapshot, Extends nulls old node)
    (measured : sizeBefore w = snapshot.bind Json.arrayLength?) {changed : Json}
    (ran : runVisits snapshot w visits node = .ok changed) :
    ∀ old ∈ snapshot, Extends nulls old changed := by
  induction visits generalizing node with
  | nil =>
    cases ran
    exact extension
  | cons visit rest ih =>
    obtain ⟨first, later⟩ := List.forall_mem_cons.mp each
    obtain ⟨handled, offered, ran⟩ := Outcome.bind_eq_ok.mp ran
    exact ih later (offer_keeps first extension measured offered) ran

/-- A write at a container that knows its length from before the stage. -/
theorem write_keeps (rule : mode.nulls? = some nulls)
    (extension : ∀ old ∈ snapshot, Extends nulls old parent)
    (measured : sizeBefore w = snapshot.bind Json.arrayLength?) (value : Json) :
    ∀ old ∈ snapshot, Extends nulls old (mode.write slot value (sizeBefore w) parent) := by
  rintro old ⟨⟩
  exact (extension old rfl).write rule fun _ => measured

theorem runLeaf_keeps (rule : mode.nulls? = some nulls) (context : Json) (formula : Formula) :
    Keeps nulls (runLeaf mode context formula) := by
  intro element slot snapshot w parent changed extension measured ran
  obtain ⟨found, -, ran⟩ := Outcome.bind_eq_ok.mp ran
  cases found with
  | none =>
    cases ran
    exact extension
  | some matched =>
    obtain ⟨inner, -, ran⟩ := Outcome.bind_eq_ok.mp ran
    obtain ⟨computed, -, ran⟩ := Outcome.bind_eq_ok.mp ran
    cases computed with
    | none =>
      cases ran
      exact extension
    | some value =>
      cases ran
      exact write_keeps rule extension measured value

private theorem prepare_keeps (rule : mode.nulls? = some nulls) (declared : Shape)
    (extension : ∀ old ∈ snapshot, Extends nulls old parent)
    (measured : sizeBefore w = snapshot.bind Json.arrayLength?) :
    ∀ old ∈ snapshot, Extends nulls old (prepare mode declared slot (sizeBefore w) parent) := by
  unfold prepare
  split
  · exact write_keeps rule extension measured declared.empty
  · exact write_keeps rule extension measured declared.empty
  · exact extension

private theorem runBranch_keeps (rule : mode.nulls? = some nulls) (declared : Shape)
    {s : Siblings Action}
    (each : ∀ child ∈ s.all, Keeps nulls child.2) : Keeps nulls (runBranch mode declared s) := by
  intro element slot snapshot w parent changed extension measured ran
  obtain ⟨found, -, ran⟩ := Outcome.bind_eq_ok.mp ran
  cases found with
  | none =>
    cases ran
    exact extension
  | some matched =>
    dsimp only at ran
    have prepared : ∀ old ∈ snapshot,
        Extends nulls old (prepare mode declared slot (sizeBefore w) parent) :=
      prepare_keeps rule declared extension measured
    generalize prepare mode declared slot (sizeBefore w) parent = place at ran prepared
    split at ran
    · cases ran
      exact prepared
    · rename_i node held
      split at ran
      · obtain ⟨inner, entered, ran⟩ := Outcome.bind_eq_ok.mp ran
        obtain ⟨done, visited, written⟩ := Outcome.bind_eq_ok.mp ran
        cases written
        have below : ∀ old ∈ snapshot.bind slot.child?, Extends nulls old node := by
          intro old present
          obtain ⟨before, there, found⟩ := Option.bind_eq_some_iff.mp present
          obtain ⟨new, now, extended⟩ := (prepared before there).child? found
          rw [held] at now
          cases now
          exact extended
        have visits := runVisits_keeps (Siblings.forall_visits each true node) below
          (sizeBefore_push entered) visited
        intro old there
        refine (prepared old there).replace fun under found => visits under ?_
        exact Option.bind_eq_some_iff.mpr ⟨old, there, found⟩
      · cases ran
        exact prepared

private theorem run_keeps (rule : mode.nulls? = some nulls) (context : Json) (t : Node) :
    Keeps nulls (run mode context t) := by
  induction t using Tree.induct with
  | leaf formula =>
    rw [run, Tree.fold]
    exact runLeaf_keeps rule context formula
  | branch declared s ih =>
    rw [run, Tree.fold_branch, Siblings.foldSiblings_eq_map]
    refine runBranch_keeps rule declared ?_
    rw [Siblings.all_map]
    exact List.forall_mem_map.mpr ih

/-- What extends the level above a document has the document below it. -/
theorem extends_unwrap {input output : Json} (extension : Extends nulls (wrap input) output) :
    Extends nulls input (unwrap output) := by
  have found : (Slot.member rootKey).child? (wrap input) = some input := rfl
  obtain ⟨new, present, below⟩ := extension.child? found
  cases output with
  | obj members =>
    have held : Members.get? rootKey members = some new := present
    rw [unwrap, held]
    exact below
  | arr items => cases extension
  | _ => cases present

/-- A modify that does not overwrite extends its input. -/
theorem apply_extends {t : Modify} (rule : t.mode.nulls? = some nulls) {context input output : Json}
    (ran : t.apply context input = .ok output) : Extends nulls input output := by
  obtain ⟨w, entered, ran⟩ := Outcome.bind_eq_ok.mp ran
  obtain ⟨changed, acted, built⟩ := Outcome.bind_eq_ok.mp ran
  cases built
  have start : ∀ old ∈ some (wrap input), Extends nulls old (wrap input) := by
    rintro old ⟨⟩
    exact Extends.refl nulls (wrap input)
  exact extends_unwrap (run_keeps rule context _ start (sizeBefore_push entered) acted _ rfl)

end Transform.Modify

/-- What a kind of stage makes of the nulls of its input, if it takes nothing away. -/
def Operation.nulls? : Operation → Option Nulls
  | default => some .fillable
  | modifyDefault => some .fillable
  | modifyDefine => some .kept
  | _ => none

/-- Stages that fill in values take nothing away. -/
theorem Stage.filling_extends {options : Options} {functions : Registry} {operation : Operation}
    {spec : Json} {stage : Stage} (compiled : compile options functions operation spec = .ok stage)
    {nulls : Nulls} (rule : operation.nulls? = some nulls) {context input output : Json}
    (ran : stage.apply context input = .ok output) : Extends nulls input output := by
  cases operation with
  | default =>
    cases rule
    obtain ⟨t, -, rfl⟩ := Outcome.map_eq_ok.mp compiled
    exact Default.apply_extends ran
  | modifyDefault =>
    cases rule
    obtain ⟨t, made, rfl⟩ := Outcome.map_eq_ok.mp compiled
    obtain ⟨read, -, rfl⟩ := Outcome.map_eq_ok.mp made
    exact Modify.apply_extends rfl ran
  | modifyDefine =>
    cases rule
    obtain ⟨t, made, rfl⟩ := Outcome.map_eq_ok.mp compiled
    obtain ⟨read, -, rfl⟩ := Outcome.map_eq_ok.mp made
    exact Modify.apply_extends rfl ran
  | _ => cases rule

/-- A modify that defines a key and two items. -/
def Stage.definition : Stage :=
  .modify ⟨64, .define, .container,
    ⟨[("a", .leaf (.literal (.str "x"))),
      ("b", .branch .array
        ⟨[("0", .leaf (.literal (.str "y"))), ("2", .leaf (.literal (.str "z")))], [], [],
          .literalsOnly⟩)], [], [], .literalsOnly⟩⟩

/-- A null stays, and so does the item of an array that grows. -/
theorem Stage.filling_extends_null :
    compile .initial .empty .modifyDefine
        (.obj [("a", .str "x"), ("b", .obj [("[0]", .str "y"), ("[2]", .str "z")])]) =
      .ok definition ∧
    definition.apply .null (.obj [("a", .null), ("b", .arr [.null])]) =
      .ok (.obj [("a", .null), ("b", .arr [.null, .null, .str "z"])]) ∧
    Extends .kept (.obj [("a", .null), ("b", .arr [.null])])
      (.obj [("a", .null), ("b", .arr [.null, .null, .str "z"])]) := by
  have compiled : compile .initial .empty .modifyDefine
      (.obj [("a", .str "x"), ("b", .obj [("[0]", .str "y"), ("[2]", .str "z")])]) =
    .ok definition := rfl
  have ran : definition.apply .null (.obj [("a", .null), ("b", .arr [.null])]) =
      .ok (.obj [("a", .null), ("b", .arr [.null, .null, .str "z"])]) := rfl
  exact ⟨compiled, ran, filling_extends compiled rfl ran⟩

end Reshape
