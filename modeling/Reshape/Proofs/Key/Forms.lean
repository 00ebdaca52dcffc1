import Reshape.Key.Grammar
import Reshape.Proofs.Key.Lexemes
import Reshape.Proofs.Numerals
import Reshape.Proofs.Outcome

namespace Reshape.Key

open Decimal Outcome

/-- Both numbers of a reference fit in a word. -/
def Reference.Fits (r : Reference) : Prop :=
  r.level < wordBound ∧ r.group < wordBound

namespace Template

/-- Texts are not empty, and no two of them stand side by side. -/
def Alternates : Template → Prop
  | [] => True
  | .captured r :: rest => r.Fits ∧ Alternates rest
  | .text value :: rest =>
    value ≠ "" ∧ (∀ other later, rest ≠ .text other :: later) ∧ Alternates rest

/-- A template as it is read: there is a reference in it. -/
structure WellFormed (pieces : Template) : Prop where
  alternates : pieces.Alternates
  captures : ∃ r, .captured r ∈ pieces

end Template

def PlainStep.WellFormed : PlainStep → Prop
  | key _ => True
  | template pieces => Template.WellFormed pieces
  | item index => index < wordBound
  | counter level => level < wordBound
  | captured r => r.Fits

def PlainStep.IsMember : PlainStep → Prop
  | key _ => True
  | template _ => True
  | _ => False

/-- A lookup as it is read: no segment of its path is empty. -/
structure Lookup.WellFormed (l : Lookup) : Prop where
  fits : l.level < wordBound
  steps : ∀ s ∈ l.path, s.WellFormed
  named : ∀ s ∈ l.path, s ≠ .key ""

def Step.WellFormed : Step → Prop
  | plain s => s.WellFormed
  | lookup l => l.WellFormed
  | append => True
  | itemLookup l => l.WellFormed ∧ ∀ s ∈ l.path, s.IsMember

/-- A wildcard as it is read: a star alone has a form of its own, and so have two stars
with text between them. -/
def Star.WellFormed : Star → Prop
  | any => True
  | single before after => before ≠ "" ∨ after ≠ ""
  | double _ middle _ => middle ≠ ""
  | many parts => 3 ≤ parts.length ∧ ∀ before middle after,
      parts = [before, middle, after] → middle = ""

def Element.WellFormed : Element → Prop
  | step s => s.WellFormed
  | star pattern => pattern.WellFormed
  | constant text => text ≠ ""
  | captured r => r.Fits
  | here => True

theorem readLevel_bounded {cs : List Char} {n : Nat} (read : readLevel cs = .ok n) :
    n < wordBound := by
  simp only [readLevel] at read
  split at read
  · cases read
  · split at read
    · cases read
    · split at read
      · cases read
        assumption
      · cases read

theorem Reference.parse_fits {token : Char} {body : List Char} {r : Reference}
    (read : Reference.parse token body = .ok r) : r.Fits := by
  have zero : 0 < wordBound := by decide
  unfold Reference.parse at read
  split at read
  · cases read
    exact ⟨zero, zero⟩
  · split at read
    · split at read
      · obtain ⟨level, found, rfl⟩ := map_eq_ok.mp read
        exact ⟨readLevel_bounded found, zero⟩
      · obtain ⟨level, found, read⟩ := bind_eq_ok.mp read
        obtain ⟨group, foundGroup, read⟩ := bind_eq_ok.mp read
        cases read
        exact ⟨readLevel_bounded found, readLevel_bounded foundGroup⟩
      · cases read
    · obtain ⟨level, found, rfl⟩ := map_eq_ok.mp read
      exact ⟨readLevel_bounded found, zero⟩

theorem parseCounter_bounded {body : List Char} {level : Nat}
    (read : parseCounter body = .ok level) : level < wordBound := by
  unfold parseCounter at read
  split at read
  · cases read
    decide
  · exact readLevel_bounded read

theorem pieceOf_eq_ok {body : List Lexeme} {piece : Piece} (read : pieceOf body = .ok piece) :
    ∃ r : Reference, r.Fits ∧ piece = .captured r := by
  obtain ⟨r, found, rfl⟩ := map_eq_ok.mp read
  exact ⟨r, Reference.parse_fits found, rfl⟩

theorem unescape_ne_empty {ls : List Lexeme} (filled : ls ≠ []) : unescape ls ≠ "" := by
  intro empty
  have chars := congrArg String.toList empty
  simp [unescape, unescapeChars, filled] at chars

/-- What a scan that stands in a mode finds: outside literal text a reference first. -/
def Found (mode : TemplateMode) (pieces : Template) : Prop :=
  pieces.Alternates ∧ (mode ≠ .text → ∃ r later, pieces = .captured r :: later)

theorem Found.of_inside {mode other : TemplateMode} {pieces : Template}
    (found : Found mode pieces) (inside : mode ≠ .text) : Found other pieces :=
  ⟨found.1, fun _ => found.2 inside⟩

private theorem Found.captured {mode : TemplateMode} {body : List Lexeme} {piece : Piece}
    {later : Template} (read : pieceOf body = .ok piece) (alternates : later.Alternates) :
    Found mode (piece :: later) := by
  obtain ⟨r, fits, rfl⟩ := pieceOf_eq_ok read
  exact ⟨⟨fits, alternates⟩, fun _ => ⟨r, later, rfl⟩⟩

private theorem Found.addText {current : List Lexeme} {later : Template}
    (found : Found .mark later) : Found .text (addText current later) := by
  obtain ⟨r, more, same⟩ := found.2 (by simp)
  refine ⟨?_, fun other => absurd rfl other⟩
  unfold Key.addText
  split
  · exact found.1
  · rename_i filled
    refine ⟨unescape_ne_empty (by simpa using filled), ?_, found.1⟩
    intro other rest
    simp [same]

theorem scanTemplate_found {mode : TemplateMode} {current ls : List Lexeme} {pieces : Template}
    (read : scanTemplate mode current ls = .ok pieces) : Found mode pieces := by
  induction ls generalizing mode current pieces with
  | nil =>
    cases mode with
    | text =>
      cases read
      refine ⟨?_, fun other => absurd rfl other⟩
      unfold addText
      split
      · trivial
      · rename_i filled
        exact ⟨unescape_ne_empty (by simpa using filled), by simp, trivial⟩
    | group depth => cases read
    | mark | digits =>
      obtain ⟨piece, found, rfl⟩ := map_eq_ok.mp read
      exact .captured found trivial
  | cons l rest ih =>
    cases mode with
    | text =>
      simp only [scanTemplate] at read
      split at read
      · obtain ⟨later, found, rfl⟩ := map_eq_ok.mp read
        exact (ih found).addText
      · exact ih read
    | group depth =>
      simp only [scanTemplate] at read
      split at read
      · exact (ih read).of_inside (by simp)
      · split at read
        · split at read
          · obtain ⟨piece, found, read⟩ := bind_eq_ok.mp read
            obtain ⟨later, more, rfl⟩ := map_eq_ok.mp read
            exact .captured found (ih more).1
          · exact (ih read).of_inside (by simp)
        · exact (ih read).of_inside (by simp)
    | mark | digits =>
      simp only [scanTemplate] at read
      split at read
      · exact (ih read).of_inside (by simp)
      · split at read
        · exact (ih read).of_inside (by simp)
        · obtain ⟨piece, found, read⟩ := bind_eq_ok.mp read
          split at read
          · obtain ⟨later, more, rfl⟩ := map_eq_ok.mp read
            exact .captured found (ih more).1
          · obtain ⟨later, more, rfl⟩ := map_eq_ok.mp read
            exact .captured found (ih more).1

/-- An ampersand in the text that is scanned leaves a reference in the template. -/
theorem scanTemplate_captures {current ls : List Lexeme} {pieces : Template}
    (read : scanTemplate .text current ls = .ok pieces) (marked : contains ls '&' = true) :
    ∃ r, .captured r ∈ pieces := by
  induction ls generalizing current with
  | nil => simp at marked
  | cons l rest ih =>
    simp only [scanTemplate] at read
    split at read
    · obtain ⟨later, found, rfl⟩ := map_eq_ok.mp read
      obtain ⟨r, more, rfl⟩ := (scanTemplate_found found).2 (by simp)
      refine ⟨r, ?_⟩
      unfold addText
      split <;> simp
    · rename_i other
      exact ih read (by simpa [other] using marked)

theorem scanTemplate_wellFormed {ls : List Lexeme} {pieces : Template}
    (read : scanTemplate .text [] ls = .ok pieces) (marked : contains ls '&' = true) :
    Template.WellFormed pieces :=
  ⟨(scanTemplate_found read).1, scanTemplate_captures read marked⟩

theorem splitAt_ne_nil (c : Char) (ls : List Lexeme) : splitAt c ls ≠ [] := by
  cases ls with
  | nil => simp [splitAt]
  | cons l rest =>
    simp only [splitAt]
    split
    · simp
    · split <;> simp

theorem splitAt_length {c : Char} {ls : List Lexeme} (marked : contains ls c = true) :
    2 ≤ (splitAt c ls).length := by
  induction ls with
  | nil => simp at marked
  | cons l rest ih =>
    simp only [splitAt]
    split
    · have positive := List.length_pos_iff.mpr (splitAt_ne_nil c rest)
      rw [List.length_cons]
      omega
    · rename_i other
      have later := ih (by simpa [other] using marked)
      split
      · rename_i empty
        simp [empty] at later
      · rename_i part parts split
        simpa [split] using later

/-- Two empty parts are what a star alone is split into. -/
theorem eq_plain_of_splitAt {c : Char} {ls : List Lexeme} (parts : splitAt c ls = [[], []]) :
    ls = [.plain c] := by
  cases ls with
  | nil => simp [splitAt] at parts
  | cons l rest =>
    simp only [splitAt] at parts
    split at parts
    · rename_i marks
      cases rest with
      | nil => rw [is_eq_true marks]
      | cons next more =>
        simp only [splitAt] at parts
        split at parts
        · simp [splitAt_ne_nil] at parts
        · split at parts <;> simp at parts
    · split at parts <;> simp at parts

private theorem Star.ofParts_wellFormed {parts : List String} (several : 2 ≤ parts.length)
    (more : parts ≠ ["", ""]) : (Star.ofParts parts).WellFormed := by
  unfold Star.ofParts
  split
  · rename_i before after
    by_cases empty : before = ""
    · exact .inr fun same => more (by rw [empty, same])
    · exact .inl empty
  · rename_i before middle after
    split
    · rename_i empty
      refine ⟨by simp, ?_⟩
      rintro _ _ _ same
      cases same
      simpa using empty
    · rename_i filled
      simpa [Star.WellFormed] using filled
  · rename_i two three
    refine ⟨?_, fun before middle after same => absurd same (three before middle after)⟩
    match parts, several, two, three with
    | [before, after], _, two, _ => exact absurd rfl (two before after)
    | _ :: _ :: _ :: _, _, _, _ => simp

theorem star_wellFormed {ls : List Lexeme} (marked : contains ls '*' = true)
    (more : ls ≠ [.plain '*']) :
    (Star.ofParts ((splitAt '*' ls).map unescape)).WellFormed := by
  apply Star.ofParts_wellFormed
  · simpa using splitAt_length marked
  · intro same
    apply more
    apply eq_plain_of_splitAt
    have nil_of_empty {ls : List Lexeme} (empty : unescape ls = "") : ls = [] := by
      by_contra filled
      exact unescape_ne_empty filled empty
    obtain ⟨before, more, split, first, same⟩ := List.map_eq_cons_iff.mp same
    obtain ⟨after, further, rfl, second, same⟩ := List.map_eq_cons_iff.mp same
    rw [split, nil_of_empty first, nil_of_empty second, List.map_eq_nil_iff.mp same]

end Reshape.Key
