import Mathlib.Data.List.Basic
import Reshape.Proofs.Key.Canonical

namespace Reshape.Key.Star

theorem beforeSuffix?_eq_some {last cs inner : List Char} :
    beforeSuffix? last cs = some inner ↔ cs = inner ++ last := by
  rw [beforeSuffix?, Option.map_eq_some_iff]
  constructor
  · rintro ⟨turned, found, rfl⟩
    have whole := congrArg List.reverse (afterPrefix?_eq_some.1 found)
    simpa using whole
  · rintro rfl
    exact ⟨inner.reverse, afterPrefix?_eq_some.2 (by simp), by simp⟩

theorem between?_eq_some {first last cs inner : List Char} :
    between? first last cs = some inner ↔ cs = first ++ (inner ++ last) := by
  simp only [between?, Option.bind_eq_some_iff, afterPrefix?_eq_some, beforeSuffix?_eq_some]
  constructor
  · rintro ⟨rest, rfl, rfl⟩
    rfl
  · rintro rfl
    exact ⟨inner ++ last, rfl, rfl⟩

/-- A text in two parts around a literal, neither of which is empty. -/
structure Cut (middle cs before after : List Char) : Prop where
  filled : before ≠ []
  left : after ≠ []
  whole : cs = before ++ (middle ++ after)

theorem not_cut_nil {middle before after : List Char} : ¬ Cut middle [] before after :=
  fun cut => cut.filled (List.append_eq_nil_iff.mp cut.whole.symm).1

/-- The first part of a cut is one character, or it goes on into a cut of the rest. -/
theorem cut_cons {middle rest before after : List Char} {c : Char} :
    Cut middle (c :: rest) before after ↔
      (before = [c] ∧ after ≠ [] ∧ rest = middle ++ after) ∨
      ∃ more, before = c :: more ∧ Cut middle rest more after := by
  constructor
  · rintro ⟨filled, left, whole⟩
    cases before with
    | nil => exact absurd rfl filled
    | cons d more =>
      obtain ⟨rfl, rfl⟩ := List.cons.inj whole
      cases more with
      | nil => exact .inl ⟨rfl, left, rfl⟩
      | cons e more => exact .inr ⟨e :: more, rfl, by simp, left, rfl⟩
  · rintro (⟨rfl, left, rfl⟩ | ⟨more, rfl, cut⟩)
    · exact ⟨by simp, left, rfl⟩
    · exact ⟨by simp, cut.left, by rw [cut.whole]; rfl⟩

/-- A cut whose first part is the shortest. -/
structure FirstCut (middle cs before after : List Char) : Prop where
  cut : Cut middle cs before after
  least : ∀ {earlier later}, Cut middle cs earlier later → before.length ≤ earlier.length

theorem firstCut_here {middle rest after : List Char} {c : Char} (left : after ≠ [])
    (whole : rest = middle ++ after) : FirstCut middle (c :: rest) [c] after where
  cut := cut_cons.mpr (.inl ⟨rfl, left, whole⟩)
  least other := List.length_pos_iff.mpr other.filled

/-- Where no cut is after the first character, the first cut of the rest is the first. -/
theorem firstCut_cons {middle rest before after : List Char} {c : Char}
    (other : ∀ left, rest = middle ++ left → left = []) (first : FirstCut middle rest before after) :
    FirstCut middle (c :: rest) (c :: before) after where
  cut := cut_cons.mpr (.inr ⟨before, rfl, first.cut⟩)
  least := by
    intro earlier later cut
    rcases cut_cons.mp cut with ⟨-, left, whole⟩ | ⟨more, rfl, further⟩
    · exact absurd (other later whole) left
    · exact Nat.succ_le_succ (first.least further)

private theorem firstCut_unique {middle cs before after before' after' : List Char}
    (first : FirstCut middle cs before after) (second : FirstCut middle cs before' after') :
    before = before' ∧ after = after' := by
  have lengths : before.length = before'.length :=
    Nat.le_antisymm (first.least second.cut) (second.least first.cut)
  have same := first.cut.whole.symm.trans second.cut.whole
  obtain ⟨rfl, rest⟩ := List.append_inj same lengths
  exact ⟨rfl, List.append_cancel_left rest⟩

/-- The scan stops at the first cut, and it finds one where there is one. -/
theorem cut?_spec (middle cs : List Char) :
    match cut? middle cs with
    | some (before, after) => FirstCut middle cs before after
    | none => ∀ before after, ¬ Cut middle cs before after := by
  induction cs with
  | nil => exact fun _ _ => not_cut_nil
  | cons c rest ih =>
    by_cases here : ∃ d after, afterPrefix? middle rest = some (d :: after)
    · obtain ⟨d, after, found⟩ := here
      simp only [cut?, found]
      exact firstCut_here (by simp) (afterPrefix?_eq_some.mp found)
    · have other : ∀ left, rest = middle ++ left → left = [] := by
        intro left whole
        cases left with
        | nil => rfl
        | cons d after => exact absurd ⟨d, after, afterPrefix?_eq_some.mpr whole⟩ here
      have later : cut? middle (c :: rest) =
          (cut? middle rest).map fun found => (c :: found.1, found.2) := by
        rw [cut?]
        split
        · rename_i d after found
          exact absurd ⟨d, after, found⟩ here
        · rfl
      rw [later]
      cases found : cut? middle rest with
      | some pair =>
        rw [found] at ih
        exact firstCut_cons other ih
      | none =>
        rw [found] at ih
        intro before after cut
        rcases cut_cons.mp cut with ⟨-, left, whole⟩ | ⟨more, -, cut⟩
        · exact left (other after whole)
        · exact ih more after cut

theorem cut?_eq_some {middle cs before after : List Char} :
    cut? middle cs = some (before, after) ↔ FirstCut middle cs before after := by
  have spec := cut?_spec middle cs
  constructor
  · intro found
    rwa [found] at spec
  · intro first
    cases found : cut? middle cs with
    | none =>
      rw [found] at spec
      exact absurd first.cut (spec before after)
    | some pair =>
      obtain ⟨other, later⟩ := pair
      rw [found] at spec
      obtain ⟨rfl, rfl⟩ := firstCut_unique spec first
      rfl

theorem cut?_isSome {middle cs : List Char} :
    (cut? middle cs).isSome ↔ ∃ before after, Cut middle cs before after := by
  have spec := cut?_spec middle cs
  rw [Option.isSome_iff_exists]
  constructor
  · rintro ⟨⟨before, after⟩, found⟩
    rw [found] at spec
    exact ⟨before, after, spec.cut⟩
  · rintro ⟨before, after, cut⟩
    cases found : cut? middle cs with
    | some pair => exact ⟨pair, rfl⟩
    | none =>
      rw [found] at spec
      exact absurd cut (spec before after)

/-- A key that two stars around a literal take apart. -/
structure Splits (first middle last key before after : String) : Prop where
  filled : before ≠ ""
  left : after ≠ ""
  whole : key = first ++ before ++ middle ++ after ++ last

theorem captureChars?_single {first last : String} {cs : List Char} {captures : List (List Char)} :
    (single first last).captureChars? cs = some captures ↔
      ∃ inner, inner ≠ [] ∧ cs = first.toList ++ (inner ++ last.toList) ∧ captures = [inner] := by
  simp only [captureChars?]
  constructor
  · intro found
    split at found
    · rename_i c rest between
      cases found
      exact ⟨c :: rest, by simp, between?_eq_some.mp between, rfl⟩
    · cases found
  · rintro ⟨inner, filled, rfl, rfl⟩
    have between := between?_eq_some.mpr (rfl : first.toList ++ (inner ++ last.toList) = _)
    cases inner with
    | nil => exact absurd rfl filled
    | cons c rest => rw [between]

theorem captureChars?_double {first middle last : String} {cs : List Char}
    {captures : List (List Char)} :
    (double first middle last).captureChars? cs = some captures ↔
      ∃ inner before after, cs = first.toList ++ (inner ++ last.toList) ∧
        FirstCut middle.toList inner before after ∧ captures = [before, after] := by
  simp only [captureChars?, Option.map_eq_some_iff, Option.bind_eq_some_iff, between?_eq_some]
  constructor
  · rintro ⟨⟨before, after⟩, ⟨inner, whole, found⟩, rfl⟩
    exact ⟨inner, before, after, whole, cut?_eq_some.mp found, rfl⟩
  · rintro ⟨inner, before, after, whole, first, rfl⟩
    exact ⟨(before, after), ⟨inner, whole, cut?_eq_some.mpr first⟩, rfl⟩

theorem captures?_eq_some {pattern : Star} {key : String} {captures : List String} :
    pattern.captures? key = some captures ↔
      pattern.captureChars? key.toList = some (captures.map String.toList) := by
  rw [captures?, Option.map_eq_some_iff]
  constructor
  · rintro ⟨chars, found, rfl⟩
    simpa [Function.comp_def] using found
  · intro found
    exact ⟨_, found, by simp [Function.comp_def]⟩

theorem splits_iff {first middle last key before after : String} :
    Splits first middle last key before after ↔
      ∃ inner, key.toList = first.toList ++ (inner ++ last.toList) ∧
        Cut middle.toList inner before.toList after.toList := by
  constructor
  · rintro ⟨filled, left, rfl⟩
    exact ⟨before.toList ++ (middle.toList ++ after.toList), by simp,
      by simpa using filled, by simpa using left, rfl⟩
  · rintro ⟨inner, whole, filled, left, rfl⟩
    exact ⟨by simpa using filled, by simpa using left, String.toList_inj.mp (by simpa using whole)⟩

theorem captures?_single {first last key : String} {captures : List String} :
    (single first last).captures? key = some captures ↔
      ∃ capture, capture ≠ "" ∧ key = first ++ capture ++ last ∧ captures = [capture] := by
  rw [captures?_eq_some, captureChars?_single]
  constructor
  · rintro ⟨inner, filled, whole, same⟩
    refine ⟨String.ofList inner, by simpa using filled, ?_, ?_⟩
    · exact String.toList_inj.mp (by simpa using whole)
    · exact List.map_injective_iff.mpr (fun _ _ => String.toList_inj.mp) (by simpa using same)
  · rintro ⟨capture, filled, rfl, rfl⟩
    exact ⟨capture.toList, by simpa using filled, by simp, rfl⟩

theorem captures?_double {first middle last key : String} {captures : List String} :
    (double first middle last).captures? key = some captures ↔
      ∃ before after, captures = [before, after] ∧
        Splits first middle last key before after ∧
        ∀ earlier later, Splits first middle last key earlier later →
          before.length ≤ earlier.length := by
  rw [captures?_eq_some, captureChars?_double]
  constructor
  · rintro ⟨inner, before, after, whole, cut, same⟩
    refine ⟨String.ofList before, String.ofList after, ?_, ?_, ?_⟩
    · exact List.map_injective_iff.mpr (fun _ _ => String.toList_inj.mp) (by simpa using same)
    · exact splits_iff.mpr ⟨inner, whole, by simpa using cut.cut⟩
    · intro earlier later split
      obtain ⟨other, again, another⟩ := splits_iff.mp split
      obtain rfl : inner = other := by simpa [again] using whole.symm
      simpa [String.length_toList] using cut.least another
  · rintro ⟨before, after, rfl, split, least⟩
    obtain ⟨inner, whole, cut⟩ := splits_iff.mp split
    refine ⟨inner, before.toList, after.toList, whole, ⟨cut, ?_⟩, rfl⟩
    intro earlier later another
    have shorter := least (String.ofList earlier) (String.ofList later)
      (splits_iff.mpr ⟨inner, whole, by simpa using another⟩)
    simpa [String.length_toList] using shorter

theorem captures?_double_isSome {first middle last key : String} :
    ((double first middle last).captures? key).isSome ↔
      ∃ before after, Splits first middle last key before after := by
  constructor
  · intro found
    obtain ⟨captures, found⟩ := Option.isSome_iff_exists.mp found
    obtain ⟨before, after, -, split, -⟩ := captures?_double.mp found
    exact ⟨before, after, split⟩
  · rintro ⟨before, after, split⟩
    obtain ⟨inner, whole, cut⟩ := splits_iff.mp split
    obtain ⟨⟨earlier, later⟩, found⟩ :=
      Option.isSome_iff_exists.mp (cut?_isSome.mpr ⟨_, _, cut⟩)
    have chars := captureChars?_double.mpr ⟨inner, earlier, later, whole, cut?_eq_some.mp found, rfl⟩
    simp [captures?, chars]

private theorem parse_one_star (first last : String) :
    Element.parse (escape first ++ "*" ++ escape last) =
      .ok (.star (if first = "" ∧ last = "" then .any else .single first last)) := by
  by_cases alone : first = "" ∧ last = ""
  · obtain ⟨rfl, rfl⟩ := alone
    exact Element.parse_canonical (e := .star .any) trivial
  · have wellFormed : (Element.star (.single first last)).WellFormed :=
      (not_and_or.mp alone : first ≠ "" ∨ last ≠ "")
    have spelled : escape first ++ "*" ++ escape last =
        (Element.star (.single first last)).canonical := by
      apply String.toList_inj.mp
      simp [escape, Element.canonical, Element.chars, chars, parts, joinStars]
    rw [if_neg alone, spelled, Element.parse_canonical wellFormed]

private theorem parse_two_stars (first last : String) {middle : String} (filled : middle ≠ "") :
    Element.parse (escape first ++ "*" ++ escape middle ++ "*" ++ escape last) =
      .ok (.star (.double first middle last)) := by
  have wellFormed : (Element.star (.double first middle last)).WellFormed := filled
  have spelled : escape first ++ "*" ++ escape middle ++ "*" ++ escape last =
      (Element.star (.double first middle last)).canonical := by
    apply String.toList_inj.mp
    simp [escape, Element.canonical, Element.chars, chars, parts, joinStars]
  rw [spelled, Element.parse_canonical wellFormed]

/-- One star between literals takes what stands between them, and two stars cut it at the
first place that leaves something for both. Keys with one or two stars between escaped
literals are read as these wildcards; a star alone is a wildcard of its own. -/
theorem starred_literals (first last : String) :
    (∀ key captures, (single first last).captures? key = some captures ↔
      ∃ capture, capture ≠ "" ∧ key = first ++ capture ++ last ∧ captures = [capture]) ∧
    (∀ middle key,
      (((double first middle last).captures? key).isSome ↔
        ∃ before after, Splits first middle last key before after) ∧
      ∀ captures, (double first middle last).captures? key = some captures ↔
        ∃ before after, captures = [before, after] ∧
          Splits first middle last key before after ∧
          ∀ earlier later, Splits first middle last key earlier later →
            before.length ≤ earlier.length) ∧
    Element.parse (escape first ++ "*" ++ escape last) =
      .ok (.star (if first = "" ∧ last = "" then .any else .single first last)) ∧
    ∀ middle, middle ≠ "" →
      Element.parse (escape first ++ "*" ++ escape middle ++ "*" ++ escape last) =
        .ok (.star (.double first middle last)) :=
  ⟨fun _ _ => captures?_single,
    fun _ _ => ⟨captures?_double_isSome, fun _ => captures?_double⟩,
    parse_one_star first last, fun _ filled => parse_two_stars first last filled⟩

/-- Where the middle part overlaps itself, the first of its places counts. -/
example : (double "" "aa" "").captures? "xaaay" = some ["x", "ay"] := by decide

end Reshape.Key.Star
