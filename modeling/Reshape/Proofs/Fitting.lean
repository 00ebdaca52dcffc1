import Reshape.Proofs.Addressing
import Reshape.Proofs.Key.Reading

namespace Reshape

open Decimal

/-- No level has counted more matches than a word can hold. -/
def Walk.CountsWords (w : Walk) : Prop :=
  ∀ frame ∈ w.frames, frame.matched.count < wordBound

/-- The keys that a step of a kind is for: any key names a member, an item has an index, and
a new item has empty brackets. -/
def StepKind.Takes : StepKind → String → Prop
  | member, _ => True
  | item, key => ∃ index, readIndex key = some index
  | append, key => key = "[]"

namespace Key

/-- The kind of step that an element of a path stands for: literals, templates and lookups
name members, all other brackets than the empty ones hold an index. -/
def Step.container : Step → StepKind
  | plain (.key _) | plain (.template _) | lookup _ => .member
  | plain (.item _) | plain (.counter _) | plain (.captured _) | itemLookup _ => .item
  | append => .append

/-- No bracket stands in front of a template: its texts are escaped, and its references start
with their token. -/
theorem head?_template (pieces : Template) : (pieces.flatMap Piece.chars).head? ≠ some '[' := by
  induction pieces with
  | nil => nofun
  | cons piece rest ih =>
    rw [List.flatMap_cons]
    cases piece with
    | captured r => nofun
    | text value =>
      rw [Piece.chars]
      cases written : escapeChars value.toList with
      | nil => exact ih
      | cons c more =>
        have unopened := head?_escapeChars value.toList
        rw [written] at unopened
        exact unopened

/-- Brackets around a text that is not empty make an index. -/
theorem Step.kind_of_brackets {s : Step} {inner : List Char} (filled : inner ≠ [])
    (written : s.chars = '[' :: inner ++ [']']) : s.kind = .item := by
  have longer : s.chars ≠ ['[', ']'] := by
    rw [written]
    simpa using filled
  have first : s.chars.head? = some '[' := by rw [written]; rfl
  have last : s.chars.getLast? = some ']' := by rw [written, List.getLast?_concat]
  rw [kind, StepKind.classify, canonical, String.toList_ofList, StepKind.classifyChars,
    if_neg longer, if_pos ⟨first, last⟩]

/-- The canonical text of a step shows what it stands for. -/
theorem Step.kind_eq_container (s : Step) : s.kind = s.container := by
  cases s with
  | plain s =>
    cases s with
    | key text => exact kind_key text
    | template pieces => exact kind_of_head? (head?_template pieces)
    | item index => exact kind_of_brackets (natChars_ne_nil index) rfl
    | counter level => exact kind_of_brackets (List.cons_ne_nil _ _) rfl
    | captured r => exact kind_of_brackets (List.cons_ne_nil _ _) rfl
  | lookup l => exact kind_of_head? nofun
  | append => rfl
  | itemLookup l => exact kind_of_brackets (List.cons_ne_nil _ _) rfl

theorem Path.traversal_eq_container (path : Path) : path.traversal = path.map Step.container :=
  List.map_congr_left fun s _ => s.kind_eq_container

/-- What is kept as the text of an index is read as one. -/
theorem indexText?_takes {text key : String} (kept : indexText? text = some key) :
    StepKind.item.Takes key := by
  obtain ⟨read, same⟩ := Option.ite_none_right_eq_some.mp kept
  cases same
  exact Option.isSome_iff_exists.mp read

private theorem natText_takes {n : Nat} (fits : n < wordBound) :
    StepKind.item.Takes (natText n) := by
  refine ⟨n, ?_⟩
  rw [readIndex, natText, String.toList_ofList, readIndexChars_natChars fits]

variable {w : Walk}

private theorem counter_fits (words : w.CountsWords) {level n : Nat}
    (counted : w.counter level = .ok n) : n < wordBound := by
  obtain ⟨frame, found, counted⟩ := Outcome.bind_eq_ok.mp counted
  cases frame with
  | none => cases counted
  | some frame =>
    cases counted
    exact words frame (List.mem_of_getElem? (Walk.frameAt_eq_some.mp found))

private theorem PlainStep.evaluate_takes {s : PlainStep} {key : String} (wellFormed : s.WellFormed)
    (words : w.CountsWords) (evaluated : s.evaluate w = .ok (some key)) :
    (Step.plain s).container.Takes key := by
  cases s with
  | key text => trivial
  | template pieces => trivial
  | item index =>
    cases evaluated
    exact natText_takes wellFormed
  | counter level =>
    obtain ⟨n, counted, same⟩ := Outcome.map_eq_ok.mp evaluated
    cases same
    exact natText_takes (counter_fits words counted)
  | captured r =>
    obtain ⟨text, -, kept⟩ := Outcome.map_eq_ok.mp evaluated
    exact indexText?_takes kept

/-- The key of a step is one that the step is for. -/
theorem Step.evaluate_takes {s : Step} {key : String} (wellFormed : s.WellFormed)
    (words : w.CountsWords) (evaluated : s.evaluate w = .ok (some key)) :
    s.container.Takes key := by
  cases s with
  | plain s => exact PlainStep.evaluate_takes wellFormed words evaluated
  | lookup l => trivial
  | append =>
    cases evaluated
    rfl
  | itemLookup l =>
    obtain ⟨found, -, kept⟩ := Outcome.map_eq_ok.mp evaluated
    obtain ⟨text, -, kept⟩ := Option.bind_eq_some_iff.mp kept
    exact indexText?_takes kept

/-- Items that all have a value are evaluated one by one. -/
theorem evaluateAll_related {α : Type} {evaluate : α → Except RunError (Option String)}
    {items : List α} {keys : List String}
    (evaluated : evaluateAll evaluate items = .ok (some keys)) :
    List.Forall₂ (fun item key => evaluate item = .ok (some key)) items keys := by
  induction items generalizing keys with
  | nil =>
    cases evaluated
    exact .nil
  | cons item rest ih =>
    rw [evaluateAll] at evaluated
    obtain ⟨key, first, evaluated⟩ := Outcome.bind_eq_ok.mp evaluated
    cases key with
    | none => cases evaluated
    | some key =>
      obtain ⟨more, later, built⟩ := Outcome.map_eq_ok.mp evaluated
      obtain ⟨others, rfl, rfl⟩ := Option.map_eq_some_iff.mp built
      exact .cons first (ih later)

namespace Path

/-- A path that was read is made of well-formed steps, also below literal keys. -/
theorem parse_wellFormed {text : String} {path : Path} (accepted : parse text = .ok path)
    (front : List String) : ∀ s ∈ ofKeys front ++ path, s.WellFormed := by
  intro s member
  rcases List.mem_append.mp member with literal | read
  · obtain ⟨key, -, rfl⟩ := List.mem_map.mp literal
    trivial
  · obtain ⟨segment, read, -⟩ := parseStepsWith_spec accepted s read
    exact Element.parse_wellFormed read

/-- The keys of a path that was read, below any literal keys, fit its steps: there is one key
for each step, the kinds of the steps are those that the segments stand for, and each step is
taken with a key that it is for. -/
theorem evaluate_fits {text : String} {path : Path} {w : Walk} {keys : List String}
    (front : List String) (accepted : parse text = .ok path) (words : w.CountsWords)
    (evaluated : (ofKeys front ++ path).evaluate w = .ok (some keys)) :
    keys.length = (traversal (ofKeys front ++ path)).length ∧
      traversal (ofKeys front ++ path) = (ofKeys front ++ path).map Step.container ∧
      List.Forall₂ StepKind.Takes (traversal (ofKeys front ++ path)) keys := by
  have kinds := traversal_eq_container (ofKeys front ++ path)
  have wellFormed := parse_wellFormed accepted front
  refine ⟨length_evaluate w evaluated, kinds, ?_⟩
  rw [kinds, List.forall₂_map_left_iff]
  have related := evaluateAll_related evaluated
  refine List.forall₂_iff_zip.mpr ⟨related.length_eq, fun {s key} paired => ?_⟩
  have found := (List.forall₂_iff_zip.mp related).2 paired
  exact Step.evaluate_takes (wellFormed s (List.of_mem_zip paired).1) words found

/-- A literal and a looked-up key in brackets stay members beside indices of all kinds. -/
theorem evaluate_fits_brackets :
    let w : Walk := ⟨4, [⟨⟨"3", [], 7⟩, some (.obj [("a", .str "[y]")]), none⟩]⟩
    let keys := ["[k]", "[x]", "2", "7", "3", "[y]", "[]"]
    ∃ steps, parse "\\[x\\].[2].[#0].[&].@(0,a).[]" = .ok steps ∧ w.CountsWords ∧
      (ofKeys ["[k]"] ++ steps).evaluate w = .ok (some keys) ∧
      traversal (ofKeys ["[k]"] ++ steps) =
        [.member, .member, .item, .item, .item, .member, .append] ∧
      List.Forall₂ StepKind.Takes (traversal (ofKeys ["[k]"] ++ steps)) keys := by
  intro w keys
  have read : parse "\\[x\\].[2].[#0].[&].@(0,a).[]" =
      .ok [.plain (.key "[x]"), .plain (.item 2), .plain (.counter 0), .plain (.captured ⟨0, 0⟩),
        .lookup ⟨0, [.key "a"]⟩, .append] := rfl
  have words : w.CountsWords := by
    intro frame member
    cases List.mem_singleton.mp member
    decide
  exact ⟨_, read, words, rfl, rfl, (evaluate_fits ["[k]"] read words rfl).2.2⟩

end Path

end Key

end Reshape
