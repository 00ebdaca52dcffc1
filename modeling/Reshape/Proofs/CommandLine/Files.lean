import Reshape.CommandLine.Disk

/-! What is found after a file was written. A write takes away no directory and makes none of
the file itself, so the path that the file was written under still leads to it; and what stands
at all other places is as it was. -/

namespace Reshape.CommandLine.Disk

variable {d : Disk} {way other : Way} {content : ByteArray}

theorem fromUTF8?_toUTF8 (text : String) : String.fromUTF8? text.toUTF8 = some text := by
  have valid : text.toUTF8.IsValidUTF8 := text.isValidUTF8
  rw [String.fromUTF8?, dif_pos valid]
  rfl

theorem lookup_write_self (holds : d.nodes.lookup way ≠ some .sink) :
    (d.write way content).nodes.lookup way = some (.file content) := by
  rw [write, if_neg holds]
  exact List.lookup_cons_self

theorem lookup_write_of_ne (apart : other ≠ way) :
    (d.write way content).nodes.lookup other = d.nodes.lookup other := by
  have unmarked : (other == way) = false := beq_false_of_ne apart
  have kept (nodes : List (Way × Node)) :
      (nodes.filter (·.1 ≠ way)).lookup other = nodes.lookup other := by
    induction nodes with
    | nil => rfl
    | cons entry rest ih =>
      obtain ⟨key, node⟩ := entry
      by_cases same : key = way
      · rw [List.filter_cons_of_neg (by simp [same]), ih, List.lookup_cons, same, unmarked]
      · rw [List.filter_cons_of_pos (by simp [same]), List.lookup_cons, List.lookup_cons, ih]
  rw [write]
  split
  · rfl
  · rw [List.lookup_cons, unmarked]
    exact kept d.nodes

/-- Only the last content of a file counts. -/
theorem write_write (first : ByteArray) :
    (d.write way first).write way content = d.write way content := by
  by_cases holds : d.nodes.lookup way = some .sink
  · simp [write, holds]
  · rw [write, if_neg (by simp [lookup_write_self holds])]
    simp [write, holds]

theorem isAbove_write (above : d.isAbove other = true) :
    (d.write way content).isAbove other = true := by
  rw [write]
  split
  · exact above
  rw [isAbove, Bool.or_eq_true, List.any_eq_true] at above ⊢
  refine above.imp_right fun ⟨entry, present, below⟩ => ?_
  by_cases same : entry.1 = way
  · exact ⟨(way, .file content), List.mem_cons_self, same ▸ below⟩
  · have kept : entry ∈ d.nodes.filter (·.1 ≠ way) :=
      List.mem_filter.mpr ⟨present, by simpa using same⟩
    exact ⟨entry, List.mem_cons_of_mem _ kept, below⟩

/-- A write puts nothing above other places but what is on its own way. -/
theorem isAbove_of_write (above : (d.write way content).isAbove other = true) :
    d.isAbove other = true ∨ other <:+ way ∧ other ≠ way := by
  rw [write] at above
  split at above
  · exact .inl above
  rw [isAbove, Bool.or_eq_true, List.any_eq_true] at above ⊢
  rcases above with here | ⟨entry, present, below⟩
  · exact .inl (.inl here)
  · rcases List.mem_cons.mp present with rfl | kept
    · simp only [Bool.and_eq_true, List.isSuffixOf_iff_suffix, bne_iff_ne] at below
      exact .inr below
    · exact .inl (.inr ⟨entry, (List.mem_filter.mp kept).1, below⟩)

variable {path : String}

section Written

variable (creatable : d.node? way ≠ some .directory)
include creatable

theorem isAbove_of_creatable : d.isAbove way = false := by
  rw [node?] at creatable
  rw [Bool.eq_false_iff]
  intro above
  simp [above] at creatable

/-- Directories stay. -/
theorem node?_write_directory (directory : d.node? other = some .directory) :
    (d.write way content).node? other = some .directory := by
  rw [node?] at directory ⊢
  by_cases above : d.isAbove other = true
  · rw [if_pos (isAbove_write above)]
  · rw [if_neg above] at directory
    have apart : other ≠ way := by
      rintro rfl
      rw [node?, if_neg above] at creatable
      exact creatable directory
    split
    · rfl
    · rw [lookup_write_of_ne apart, directory]

/-- A path that could be followed can be followed after a write. -/
theorem follow?_write {parts : List String} {start reached : Way}
    (followed : d.follow? start parts = some reached) :
    (d.write way content).follow? start parts = some reached := by
  induction parts generalizing start with
  | nil => exact followed
  | cons part rest ih =>
    rw [follow?] at followed ⊢
    obtain ⟨directory, followed⟩ := Option.ite_none_right_eq_some.mp followed
    rw [if_pos (node?_write_directory creatable directory), ih followed]

private theorem way?_write {reached : Way} (followed : d.way? path = some reached) :
    (d.write way content).way? path = some reached := by
  have here : (d.write way content).here = d.here := by
    rw [write]
    split <;> rfl
  rw [way?] at followed ⊢
  obtain ⟨present, followed⟩ := Option.ite_none_left_eq_some.mp followed
  rw [if_neg present, here, follow?_write creatable followed]

end Written

/-- All places on the way to a place are directories. -/
def Rooted (d : Disk) (way : Way) : Prop :=
  ∀ above, above <:+ way → above ≠ way → d.node? above = some .directory

private theorem Rooted.enter (rooted : d.Rooted way) (directory : d.node? way = some .directory)
    (part : String) : d.Rooted (enter way part) := by
  unfold Disk.enter
  split
  · exact rooted
  split
  · intro above suffix apart
    refine rooted above (suffix.trans (List.tail_suffix way)) ?_
    rintro rfl
    cases above with
    | nil => exact apart rfl
    | cons name rest => exact absurd suffix.length_le (by simp)
  · intro above suffix apart
    rcases List.suffix_cons_iff.mp suffix with same | suffix
    · exact absurd same apart
    · by_cases same : above = way
      · exact same ▸ directory
      · exact rooted above suffix same

private theorem Rooted.follow? {parts : List String} {start : Way} (rooted : d.Rooted start)
    (followed : d.follow? start parts = some way) : d.Rooted way := by
  induction parts generalizing start with
  | nil =>
    cases followed
    exact rooted
  | cons part rest ih =>
    rw [Disk.follow?] at followed
    obtain ⟨directory, followed⟩ := Option.ite_none_right_eq_some.mp followed
    exact ih (rooted.enter directory part) followed

/-- A path goes through directories only. -/
theorem rooted_of_way? (followed : d.way? path = some way) : d.Rooted way := by
  rw [way?] at followed
  obtain ⟨-, followed⟩ := Option.ite_none_left_eq_some.mp followed
  refine Rooted.follow? ?_ followed
  split
  · intro above suffix apart
    exact absurd (List.suffix_nil.mp suffix) apart
  · intro above suffix _
    have standing : d.isAbove above = true := by
      rw [isAbove, List.isSuffixOf_iff_suffix.mpr suffix, Bool.true_or]
    rw [node?, if_pos standing]

/-- What stands at the other places stays. -/
theorem node?_write_of_ne (creatable : d.target? path = some way) (apart : other ≠ way) :
    (d.write way content).node? other = d.node? other := by
  obtain ⟨followed, solid⟩ := Option.filter_eq_some_iff.mp creatable
  have plain : d.node? way ≠ some .directory := by simpa using solid
  by_cases directory : d.node? other = some .directory
  · rw [directory, node?_write_directory plain directory]
  · have under : (d.write way content).isAbove other = false := by
      rw [Bool.eq_false_iff]
      intro above
      rcases isAbove_of_write above with before | ⟨suffix, -⟩
      · rw [isAbove_of_creatable directory] at before
        cases before
      · exact directory (rooted_of_way? followed other suffix apart)
    rw [node?, under, node?, isAbove_of_creatable directory]
    exact lookup_write_of_ne apart

/-- The path that a text was written under leads to it, unless there is a device that keeps
nothing. -/
theorem find_write {text : String} (creatable : d.target? path = some way)
    (holds : d.nodes.lookup way ≠ some .sink) :
    (d.write way text.toUTF8).find path = .text text := by
  obtain ⟨followed, solid⟩ := Option.filter_eq_some_iff.mp creatable
  have plain : d.node? way ≠ some .directory := by simpa using solid
  have found : (d.write way text.toUTF8).node? way = some (.file text.toUTF8) := by
    have under : (d.write way text.toUTF8).isAbove way = false := by
      rw [Bool.eq_false_iff]
      intro above
      rcases isAbove_of_write above with before | ⟨-, apart⟩
      · rw [isAbove_of_creatable plain] at before
        cases before
      · exact apart rfl
    rw [node?, under, lookup_write_self holds]
    rfl
  rw [find, way?_write plain followed, Option.bind_some, found]
  dsimp only
  rw [fromUTF8?_toUTF8]

end Reshape.CommandLine.Disk
