import Reshape.Settings
import Reshape.Transform.Cardinality
import Reshape.Transform.Default
import Reshape.Transform.Filter
import Reshape.Transform.Modify
import Reshape.Transform.Remove
import Reshape.Transform.Shift
import Reshape.Transform.Sort

/-! Chains of stages. All stages are compiled before any of them runs; each stage gets
the output of the one before it, and all of them the same context. -/

namespace Reshape

structure StageSpec where
  operation : Operation
  spec : Json

namespace StageSpec

/-- Reads the members of a stage in order: its kind and its spec, which is null if it
is not there. Other members are ignored. -/
def decodeMembers (operation : Option Operation) (spec : Json) :
    Members → Except DecodeError StageSpec
  | [] =>
    match operation with
    | some operation => .ok ⟨operation, spec⟩
    | none => .error (.missingField "operation")
  | (key, value) :: rest =>
    if key = "operation" then do
      let found ← Operation.decode value
      decodeMembers (some found) spec rest
    else if key = "spec" then decodeMembers operation value rest
    else decodeMembers operation spec rest

/-- Reads a stage: an object, or an array of its kind and its spec. -/
def decode : Json → Except DecodeError StageSpec
  | .obj members => decodeMembers none .null members
  | .arr [] => .error (.invalidLength 0 "struct StageSpec with 2 elements")
  | .arr (operation :: rest) => do
    let operation ← Operation.decode operation
    match rest with
    | [] => .ok ⟨operation, .null⟩
    | [spec] => .ok ⟨operation, spec⟩
    | _ => .error (.invalidLength (rest.length + 1) "fewer elements in array")
  | other => .error (.invalidType (.ofJson other) "struct StageSpec")

/-- Reads stages, the first of which stands at an index of the chain. -/
def decodeAll (index : Nat) : List Json → Except BuildError (List StageSpec)
  | [] => .ok []
  | entry :: rest =>
    match decode entry with
    | .error e => .error ⟨[Decimal.natText index], .stage e⟩
    | .ok stage => (decodeAll (index + 1) rest).map (stage :: ·)

/-- Reads the stages of a chain; an object is a chain of one stage. -/
def decodeChain : Json → Except BuildError (List StageSpec)
  | .arr entries => decodeAll 0 entries
  | .obj members => decodeAll 0 [.obj members]
  | _ => .error ⟨[], .chainShape⟩

end StageSpec

/-- A compiled transform. -/
inductive Stage where
  | shift (t : Transform.Shift)
  | default (t : Transform.Default)
  | remove (t : Transform.Remove)
  | cardinality (t : Transform.Cardinality)
  | filter (t : Transform.Filter)
  | sort
  | modify (t : Transform.Modify)

namespace Stage

/-- Compiles the spec of a stage of some kind. -/
def compile (options : Options) (functions : Registry) (operation : Operation) (spec : Json) :
    Except BuildError Stage :=
  let modify (mode : Transform.WriteMode) : Except BuildError Stage :=
    (Transform.Modify.compile options.maxDepth functions mode spec).map .modify
  match operation with
  | .shift => (Transform.Shift.compile options.maxDepth spec).map .shift
  | .default => (Transform.Default.compile options.maxDepth spec).map .default
  | .remove => (Transform.Remove.compile options.maxDepth spec).map .remove
  | .cardinality => (Transform.Cardinality.compile options.maxDepth spec).map .cardinality
  | .filter => (Transform.Filter.compile options.maxDepth spec).map .filter
  | .sort => .ok .sort
  | .modifyOverwrite => modify .overwrite
  | .modifyDefault => modify .fill
  | .modifyDefine => modify .define

def apply (context input : Json) : Stage → Except RunError Json
  | shift t => t.apply input
  | default t => t.apply input
  | remove t => t.apply input
  | cardinality t => t.apply input
  | filter t => t.apply input
  | sort => .ok (Transform.Sort.apply input)
  | modify t => t.apply context input

end Stage

/-- A compiled chain: its stages with their kinds. -/
structure Chain where
  stages : List (Operation × Stage)

namespace Chain

def specPointer (index : Nat) : Pointer :=
  [Decimal.natText index, "spec"]

/-- Compiles stages, the first of which stands at an index of the chain. -/
def compileStages (options : Options) (functions : Registry) (index : Nat) :
    List StageSpec → Except BuildError (List (Operation × Stage))
  | [] => .ok []
  | s :: rest =>
    match Stage.compile options functions s.operation s.spec with
    | .error e => .error (e.within (specPointer index))
    | .ok stage =>
      (compileStages options functions (index + 1) rest).map ((s.operation, stage) :: ·)

def compile (options : Options) (functions : Registry) (spec : Json) :
    Except BuildError Chain := do
  let stages ← StageSpec.decodeChain spec
  (compileStages options functions 0 stages).map Chain.mk

/-- Whether a stage that walks is compiled: the stages before it sort. -/
def reachesWalk (options : Options) (functions : Registry) : List StageSpec → Bool
  | [] => false
  | s :: rest =>
    match Stage.compile options functions s.operation s.spec with
    | .error _ => false
    | .ok _ => s.operation ≠ .sort || reachesWalk options functions rest

/-- Compiles a chain spec, as far as levels of a walk are counted by words. None if the program
stops: the limit of the walks of a stage is computed once the stage is compiled, and it is no
word. -/
def build? (options : Options) (functions : Registry) (spec : Json) :
    Option (Except BuildError Chain) :=
  match StageSpec.decodeChain spec with
  | .error e => some (.error e)
  | .ok stages =>
    if Decimal.wordBound ≤ Transform.walkLimit options.maxDepth ∧
        reachesWalk options functions stages then none
    else some ((compileStages options functions 0 stages).map Chain.mk)

theorem build?_eq_some {options : Options} {functions : Registry} {spec : Json}
    {built : Except BuildError Chain} (found : build? options functions spec = some built) :
    built = compile options functions spec := by
  rw [build?] at found
  rw [compile]
  cases decoded : StageSpec.decodeChain spec with
  | error e =>
    rw [decoded] at found
    cases found
    rfl
  | ok stages =>
    rw [decoded] at found
    obtain ⟨-, same⟩ := Option.ite_none_left_eq_some.mp found
    cases same
    rfl

/-- A chain is built whenever its limit is a word. -/
theorem build?_of_lt {options : Options}
    (fits : Transform.walkLimit options.maxDepth < Decimal.wordBound) (functions : Registry)
    (spec : Json) : build? options functions spec = some (compile options functions spec) := by
  rw [build?, compile]
  cases StageSpec.decodeChain spec with
  | error e => rfl
  | ok stages => exact if_neg fun beyond => Nat.not_le_of_lt fits beyond.1

def size (c : Chain) : Nat := c.stages.length

/-- The kinds of the stages, in order. -/
def operations (c : Chain) : List Operation :=
  c.stages.map (·.1)

def runStages (context : Json) : List (Operation × Stage) → Json → Except RunError Json
  | [], input => .ok input
  | (_, stage) :: rest, input => do
    let output ← stage.apply context input
    runStages context rest output

/-- Runs the stages from `first` up to but not including `last`. -/
def runRange (c : Chain) (first last : Nat) (context input : Json) : Except RunError Json :=
  if first ≤ last ∧ last ≤ c.size then
    runStages context ((c.stages.take last).drop first) input
  else .error (.stageRange first last c.size)

end Chain

end Reshape
