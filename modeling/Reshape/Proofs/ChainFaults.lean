import Reshape.Chain
import Reshape.Proofs.Transform.Room

/-! What can go wrong in a chain that was compiled. A run of any of its stages ends with
an output, with a reference that is out of range, or with a document that a default
refuses: a scalar, or an array where its keys are no indices. The program stops only at a
stage that names the last level that words count. -/

namespace Reshape

open Transform

/-- The documents that a default refuses, with the errors for them. -/
inductive Transform.Default.Refuses (t : Default) : Json → RunError → Prop where
  | scalar {value : Json} (scalar : value.isContainer = false) (present : value.isNull = false) :
      Refuses t value (.scalarRoot value.kind)
  | array (items : List Json) (missing : t.forArray = none) : Refuses t (.arr items) .arrayRoot

private theorem Transform.Default.root_eq_error {t : Default} {value : Json} {e : RunError}
    (failed : t.root value = .error e) : t.Refuses value e := by
  cases value with
  | null => cases failed
  | obj members => cases failed
  | arr items =>
    simp only [root] at failed
    split at failed
    · cases failed
    · rename_i missing
      cases failed
      exact .array items missing
  | _ =>
    cases failed
    exact .scalar rfl rfl

namespace Stage

/-- The levels that the references of a stage name. -/
def levels : Stage → List Nat
  | shift t => t.levels
  | default t => t.levels
  | remove t => t.levels
  | cardinality t => t.levels
  | filter t => t.levels
  | sort => []
  | modify t => t.levels

variable {options : Options} {functions : Registry} {operation : Operation} {spec : Json}
variable {stage : Stage} {context input : Json} {e : RunError}

/-- A stage that was compiled fails by a reference, or is a default that refuses its input. -/
theorem apply_fails (compiled : compile options functions operation spec = .ok stage)
    (failed : stage.apply context input = .error e) :
    (e.IsReference ∨ e = .overflow ∧ Overflows stage.levels) ∨
      ∃ t, operation = .default ∧ stage = .default t ∧ t.Refuses input e := by
  have modify {mode : WriteMode}
      (compiled : (Modify.compile options.maxDepth functions mode spec).map modify = .ok stage) :
      e.IsReference ∨ e = .overflow ∧ Overflows stage.levels := by
    obtain ⟨t, made, rfl⟩ := Outcome.map_eq_ok.mp compiled
    exact Modify.apply_onlyReferences made context input e failed
  cases operation with
  | shift =>
    obtain ⟨t, made, rfl⟩ := Outcome.map_eq_ok.mp compiled
    exact .inl (Shift.apply_onlyReferences made input e failed)
  | default =>
    obtain ⟨t, made, rfl⟩ := Outcome.map_eq_ok.mp compiled
    refine (Default.apply_fails made failed).imp_right fun refused => ?_
    exact ⟨t, rfl, rfl, Default.root_eq_error refused⟩
  | remove =>
    obtain ⟨t, made, rfl⟩ := Outcome.map_eq_ok.mp compiled
    exact .inl (Remove.apply_onlyReferences made input e failed)
  | cardinality =>
    obtain ⟨t, made, rfl⟩ := Outcome.map_eq_ok.mp compiled
    exact .inl (Cardinality.apply_onlyReferences made input e failed)
  | filter =>
    obtain ⟨t, made, rfl⟩ := Outcome.map_eq_ok.mp compiled
    exact .inl (Filter.apply_onlyReferences made input e failed)
  | sort =>
    cases compiled
    cases failed
  | modifyOverwrite => exact .inl (modify compiled)
  | modifyDefault => exact .inl (modify compiled)
  | modifyDefine => exact .inl (modify compiled)

end Stage

namespace Chain

variable {options : Options} {functions : Registry} {context input : Json} {e : RunError}

/-- Every stage of a chain was compiled. -/
theorem compiled_of_mem {index : Nat} {specs : List StageSpec} {stages : List (Operation × Stage)}
    (compiled : compileStages options functions index specs = .ok stages) :
    ∀ stage ∈ stages, ∃ spec, Stage.compile options functions stage.1 spec = .ok stage.2 := by
  induction specs generalizing index stages with
  | nil =>
    cases compiled
    intro stage absent
    cases absent
  | cons s rest ih =>
    rw [compileStages] at compiled
    split at compiled
    · cases compiled
    · rename_i stage made
      obtain ⟨more, later, rfl⟩ := Outcome.map_eq_ok.mp compiled
      exact List.forall_mem_cons.mpr ⟨⟨s.spec, made⟩, ih later⟩

/-- A run of stages that fails does so in one of them, on the output of those before it. -/
theorem runStages_fails {stages : List (Operation × Stage)}
    (failed : runStages context stages input = .error e) :
    ∃ done operation stage later value, stages = done ++ (operation, stage) :: later ∧
      runStages context done input = .ok value ∧ stage.apply context value = .error e := by
  induction stages generalizing input with
  | nil => cases failed
  | cons entry rest ih =>
    obtain ⟨operation, stage⟩ := entry
    cases ran : stage.apply context input with
    | error refused =>
      rw [runStages, ran] at failed
      cases failed
      exact ⟨[], operation, stage, rest, input, rfl, rfl, ran⟩
    | ok output =>
      rw [runStages, ran] at failed
      obtain ⟨done, operation', stage', later, value, rfl, before, broken⟩ := ih failed
      refine ⟨(operation, stage) :: done, operation', stage', later, value, rfl, ?_, broken⟩
      rw [runStages, ran]
      exact before

/-- The stage at a place of a range, and the stages of the range before it. -/
theorem range_split {α : Type} {stages done later : List α} {stage : α} {first last : Nat}
    (split : (stages.take last).drop first = done ++ stage :: later) :
    first + done.length < last ∧ stages[first + done.length]? = some stage ∧
      (stages.take (first + done.length)).drop first = done := by
  have counted := congrArg List.length split
  simp only [List.length_drop, List.length_take, List.length_append, List.length_cons] at counted
  have within : first + done.length < last := by omega
  have found : ((stages.take last).drop first)[done.length]? = some stage := by
    rw [split, List.getElem?_append_right (Nat.le_refl _), Nat.sub_self]
    rfl
  rw [List.getElem?_drop, List.getElem?_take_of_lt within] at found
  refine ⟨within, found, ?_⟩
  calc (stages.take (first + done.length)).drop first
      = ((stages.take last).take (first + done.length)).drop first := by
        rw [List.take_take, Nat.min_eq_left (Nat.le_of_lt within)]
    _ = ((stages.take last).drop first).take done.length := by
        rw [List.drop_take, Nat.add_sub_cancel_left]
    _ = done := by rw [split, List.take_left]

/-- A chain that was built has two ways to fail: a reference is out of range, or one of its
defaults refuses the output of the stages before it. The program stops where a stage names a
level that has none after it that is a word. -/
theorem compiled_faults {spec : Json} {chain : Chain}
    (built : build? options functions spec = some (.ok chain)) {first last : Nat}
    (ordered : first ≤ last) (within : last ≤ chain.size) (context input : Json) :
    (∃ output, chain.runRange first last context input = .ok output) ∨
      ∃ e, chain.runRange first last context input = .error e ∧
        (e.IsReference ∨
          (∃ index operation stage, first ≤ index ∧ index < last ∧
            chain.stages[index]? = some (operation, stage) ∧
            e = .overflow ∧ Overflows stage.levels) ∨
          ∃ index t value, first ≤ index ∧ index < last ∧
            chain.stages[index]? = some (.default, .default t) ∧
            chain.runRange first index context input = .ok value ∧ t.Refuses value e) := by
  cases ran : chain.runRange first last context input with
  | ok output => exact .inl ⟨output, rfl⟩
  | error e =>
    refine .inr ⟨e, rfl, ?_⟩
    rw [runRange, if_pos ⟨ordered, within⟩] at ran
    obtain ⟨done, operation, stage, later, value, split, before, failed⟩ := runStages_fails ran
    obtain ⟨inside, found, same⟩ := range_split split
    obtain ⟨specs, -, compiled⟩ := Outcome.bind_eq_ok.mp (build?_eq_some built).symm
    obtain ⟨stages, made, rfl⟩ := Outcome.map_eq_ok.mp compiled
    obtain ⟨own, made⟩ := compiled_of_mem made _ (List.mem_of_getElem? found)
    have reachable : first + done.length ≤ size ⟨stages⟩ := (inside.trans_le within).le
    rcases Stage.apply_fails made failed with (refers | stops) | ⟨t, rfl, rfl, refused⟩
    · exact .inl refers
    · exact .inr (.inl ⟨_, operation, stage, Nat.le_add_right _ _, inside, found, stops⟩)
    · refine .inr (.inr ⟨_, t, value, Nat.le_add_right _ _, inside, found, ?_, refused⟩)
      rw [runRange, if_pos ⟨Nat.le_add_right _ _, reachable⟩, same]
      exact before

/-- The spec of a chain of a shift whose path refers to the last level that words count. -/
def lastLevel : Json :=
  .arr [.obj [("operation", .str "shift"),
    ("spec", .obj [("a", .str "&18446744073709551615")])]]

def lastLevelPath : Key.Path :=
  [.plain (.key Transform.rootKey), .plain (.template [.captured ⟨18446744073709551615, 0⟩])]

def lastLevelShift : Stage :=
  .shift ⟨64, ⟨[("a", .leaf [lastLevelPath])], [], [], .literalsOnly⟩⟩

/-- The chain is built, and a run of it stops the program. -/
theorem compiled_faults_lastLevel :
    build? .initial .empty lastLevel = some (.ok ⟨[(.shift, lastLevelShift)]⟩) ∧
      runRange ⟨[(.shift, lastLevelShift)]⟩ 0 1 .null (.obj [("a", .num (.int 1))]) =
        .error .overflow ∧
      Overflows lastLevelShift.levels := by
  have built : build? .initial .empty lastLevel = some (.ok ⟨[(.shift, lastLevelShift)]⟩) :=
    build?_of_lt (by decide) .empty lastLevel
  refine ⟨built, ?_⟩
  have stopped : runRange ⟨[(.shift, lastLevelShift)]⟩ 0 1 .null (.obj [("a", .num (.int 1))]) =
      .error .overflow := by
    rfl
  refine ⟨stopped, ?_⟩
  rcases compiled_faults built (Nat.zero_le 1) (Nat.le_refl 1) .null
    (.obj [("a", .num (.int 1))]) with done | ⟨e, failed, why⟩
  · obtain ⟨output, ran⟩ := done
    rw [stopped] at ran
    cases ran
  · rw [stopped] at failed
    cases failed
    obtain ⟨_, _, _, refers⟩ | ⟨index, operation, stage, -, inside, found, -, named⟩ |
      ⟨index, t, value, -, inside, found, -⟩ := why
    · cases refers
    · obtain rfl : index = 0 := by omega
      cases found
      exact named
    · obtain rfl : index = 0 := by omega
      cases found

end Chain

end Reshape
