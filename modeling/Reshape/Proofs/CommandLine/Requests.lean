import Reshape.CommandLine.Arguments
import Reshape.Proofs.Numerals

namespace Reshape.CommandLine

open Decimal

/-- The long name of an option. -/
def ValueOption.name : ValueOption → String
  | spec => "spec"
  | output => "output"
  | context => "context"
  | first => "from"
  | last => "to"
  | maxDepth => "max-depth"
  | format => "format"

def Layout.name : Layout → String
  | pretty => "pretty"
  | compact => "compact"

/-- An option and its value as one argument. -/
def ValueOption.arg (option : ValueOption) (value : String) : String :=
  String.ofList ('-' :: '-' :: (option.name.toList ++ '=' :: value.toList))

namespace TransformRequest

/-- The options of a request, with their values. -/
def options (r : TransformRequest) : List (ValueOption × String) :=
  [(.spec, r.spec), (.maxDepth, natText r.maxDepth), (.format, r.layout.name)] ++
    r.output.toList.map (ValueOption.output, ·) ++ r.context.toList.map (ValueOption.context, ·) ++
    r.first.toList.map (fun n => (ValueOption.first, natText n)) ++
    r.last.toList.map fun n => (ValueOption.last, natText n)

/-- The arguments that ask for a request. The input comes last, where it is no option in any
case. -/
def args (r : TransformRequest) : List String :=
  "transform" :: (r.options.map (fun (option, value) => option.arg value) ++
    r.input.elim [] fun path => ["--", path])

/-- No path is empty, and all numbers are words. -/
structure WellFormed (r : TransformRequest) : Prop where
  spec : r.spec ≠ ""
  paths : ∀ path ∈ r.input.toList ++ r.output.toList ++ r.context.toList, path ≠ ""
  numbers : ∀ n ∈ r.maxDepth :: (r.first.toList ++ r.last.toList), n < wordBound

end TransformRequest

theorem readIndex_natText {n : Nat} (fits : n < wordBound) : readIndex (natText n) = some n := by
  rw [readIndex, natText, String.toList_ofList, readIndexChars_natChars fits]

/-- An option that is not there yet is collected with a value that it accepts. -/
private theorem collect_arg {c : Collected} {option : ValueOption} {value : String}
    (further : c.options.lookup option = none) (accepted : option.accepts value = true)
    (rest : List String) :
    collect .transform c (option.arg value :: rest) =
      collect .transform { c with options := c.options ++ [(option, value)] } rest := by
  have chars : (option.arg value).toList =
      '-' :: '-' :: (option.name.toList ++ '=' :: value.toList) := String.toList_ofList
  have named : (option.name.toList ++ '=' :: value.toList).span (· != '=') =
      (option.name.toList, '=' :: value.toList) := by
    cases option <;> rfl
  have known : ValueOption.long? (some .transform) option.name = some option := by
    cases option <;> rfl
  have longer : option.arg value ≠ "--" := by
    intro same
    have shown := chars.symm.trans (congrArg String.toList same)
    simp at shown
  have isOption : isOption (option.arg value) = true := by
    rw [CommandLine.isOption, chars]
    rfl
  have read : readOption (some .transform) c (option.arg value) =
      .ok (.done { c with options := c.options ++ [(option, value)] }) := by
    have long : readOption (some .transform) c (option.arg value) =
        readLong (some .transform) c (option.name.toList ++ '=' :: value.toList) := by
      rw [readOption, chars]
      rfl
    rw [long, readLong, named]
    dsimp only
    rw [String.ofList_toList, String.ofList_toList, known]
    change (c.addOption option value).map Letters.done = _
    rw [Collected.addOption, further, if_pos ⟨rfl, accepted⟩]
    rfl
  rw [collect, if_neg longer, if_pos isOption, read]
  rfl

theorem collect_args {options : List (ValueOption × String)} {c : Collected}
    (distinct : (options.map (·.1)).Nodup)
    (further : ∀ entry ∈ options, c.options.lookup entry.1 = none)
    (accepted : ∀ entry ∈ options, entry.1.accepts entry.2 = true) (rest : List String) :
    collect .transform c (options.map (fun (option, value) => option.arg value) ++ rest) =
      collect .transform { c with options := c.options ++ options } rest := by
  induction options generalizing c with
  | nil => rw [List.append_nil]; rfl
  | cons entry options ih =>
    obtain ⟨apart, distinct⟩ := List.nodup_cons.mp distinct
    obtain ⟨first, later⟩ := List.forall_mem_cons.mp further
    obtain ⟨own, others⟩ := List.forall_mem_cons.mp accepted
    rw [List.map_cons, List.cons_append, collect_arg first own, ih distinct ?_ others]
    · rw [List.append_assoc]
      rfl
    · intro other present
      have ne : other.1 ≠ entry.1 := fun same => apart (List.mem_map.mpr ⟨other, present, same⟩)
      rw [List.lookup_append, later other present, Option.none_or, List.lookup_cons,
        beq_false_of_ne ne]
      rfl

namespace TransformRequest

variable {r : TransformRequest}

private theorem options_nodup : (r.options.map (·.1)).Nodup := by
  obtain ⟨spec, input, output, context, first, last, maxDepth, layout⟩ := r
  cases output <;> cases context <;> cases first <;> cases last <;>
    simp [options]

private theorem options_accepted (wellFormed : r.WellFormed) :
    ∀ entry ∈ r.options, entry.1.accepts entry.2 = true := by
  obtain ⟨named, paths, numbers⟩ := wellFormed
  have path {path : String} (filled : path ≠ "") : (!path.isEmpty) = true := by simpa using filled
  have index {n : Nat} (fits : n < wordBound) : (readIndex (natText n)).isSome = true := by
    rw [readIndex_natText fits]
    rfl
  simp only [options, List.cons_append, List.nil_append, List.mem_cons, List.mem_append,
    List.mem_map, Option.mem_toList]
  rintro _ (rfl | rfl | rfl | ((⟨text, present, rfl⟩ | ⟨text, present, rfl⟩) |
    ⟨n, present, rfl⟩) | ⟨n, present, rfl⟩)
  · exact path named
  · exact index (numbers _ List.mem_cons_self)
  · cases r.layout <;> rfl
  · exact path (paths text (by simp [present]))
  · exact path (paths text (by simp [present]))
  · exact index (numbers n (by simp [present]))
  · exact index (numbers n (by simp [present]))

/-- Each option is found under its name. -/
theorem lookup_options (r : TransformRequest) :
    r.options.lookup .output = r.output ∧ r.options.lookup .context = r.context ∧
      r.options.lookup .first = r.first.map natText ∧
      r.options.lookup .last = r.last.map natText := by
  obtain ⟨spec, input, output, context, first, last, maxDepth, layout⟩ := r
  cases output <;> cases context <;> cases first <;> cases last <;> exact ⟨rfl, rfl, rfl, rfl⟩

private theorem command_options (wellFormed : r.WellFormed) :
    Collected.command .transform ⟨r.options, r.input, false⟩ = .ok (.transform r) := by
  have deep := readIndex_natText (wellFormed.numbers _ List.mem_cons_self)
  have indices {n : Option Nat} (present : n.toList ⊆ r.first.toList ++ r.last.toList) :
      (n.map natText).bind readIndex = n := by
    cases n with
    | none => rfl
    | some n =>
      have fits := wellFormed.numbers n (List.mem_cons_of_mem _ (present (by simp)))
      exact readIndex_natText fits
  have shown : readLayout r.layout.name = some r.layout := by cases r.layout <;> rfl
  obtain ⟨output, context, first, last⟩ := r.lookup_options
  have spec : r.options.lookup .spec = some r.spec := rfl
  have maxDepth : r.options.lookup .maxDepth = some (natText r.maxDepth) := rfl
  have format : r.options.lookup .format = some r.layout.name := rfl
  simp only [Collected.command, spec, maxDepth, format, output, context, first, last, orRefuse,
    Option.bind_some, deep, shown, Option.getD_some,
    indices (List.subset_append_left ..), indices (List.subset_append_right ..)]
  rfl

/-- The arguments of a request are read as the request. -/
theorem parse_args (wellFormed : r.WellFormed) : parse r.args = .ok (.transform r) := by
  have read : readVerb .empty r.args = .ok (.transform, r.args.tail) := by rfl
  have collected : collect .transform .empty r.args.tail = .ok ⟨r.options, r.input, false⟩ := by
    rw [args, List.tail_cons,
      collect_args options_nodup (fun _ _ => rfl) (options_accepted wellFormed)]
    cases given : r.input with
    | none => rfl
    | some path =>
      have filled : path ≠ "" := wellFormed.paths path (by simp [given])
      simp [collect, Collected.addOperand, Collected.empty, filled]
  rw [parse, read]
  change (collect .transform .empty r.args.tail >>= Collected.command .transform) = _
  rw [collected]
  exact command_options wellFormed

end TransformRequest

end Reshape.CommandLine
