import Reshape.Proofs.Key.PlainKeys
import Reshape.Proofs.Key.Reading

namespace Reshape.Key

open Decimal Outcome

variable {lookup : String → Except GrammarError Lookup} {key : String}

theorem spreadBrackets_of_contains {ls : List Lexeme} (free : contains ls '[' = false)
    (depth : Nat) (before : Option Lexeme) (rest : List Lexeme) :
    ∃ inner last, spreadBrackets depth before (ls ++ rest) =
      ls ++ spreadBrackets inner last rest := by
  induction ls generalizing depth before with
  | nil => exact ⟨depth, before, rfl⟩
  | cons l more ih =>
    rw [contains_cons, Bool.or_eq_false_iff] at free
    obtain ⟨inner, last, same⟩ := ih free.2
      (if l.is '(' then depth + 1 else if l.is ')' then depth - 1 else depth) (some l)
    refine ⟨inner, last, ?_⟩
    simp [spreadBrackets, free.1, same]

def Bracketed (segment : List Lexeme) : Prop :=
  contains segment '[' = false ∨
    ∃ body, segment = .plain '[' :: body ∧ contains body '[' = false

/-- Whether a bracket after this lexeme starts a segment already. -/
def Starts (before : Option Lexeme) : Prop :=
  before = none ∨ before = some (.plain '.')

private theorem spreadBrackets_segment {segment : List Lexeme} (bracketed : Bracketed segment)
    (depth : Nat) {before : Option Lexeme} (starts : Starts before) (rest : List Lexeme) :
    ∃ inner last, spreadBrackets depth before (segment ++ rest) =
      segment ++ spreadBrackets inner last rest := by
  rcases bracketed with free | ⟨body, rfl, free⟩
  · exact spreadBrackets_of_contains free depth before rest
  · obtain ⟨inner, last, same⟩ := spreadBrackets_of_contains free depth (some (.plain '[')) rest
    refine ⟨inner, last, ?_⟩
    rcases starts with rfl | rfl <;> simp [spreadBrackets, same]

theorem spreadBrackets_joined {segments : List (List Lexeme)}
    (bracketed : ∀ segment ∈ segments, Bracketed segment) (depth : Nat)
    {before : Option Lexeme} (starts : Starts before) :
    spreadBrackets depth before (joined '.' segments) = joined '.' segments := by
  induction segments generalizing depth before with
  | nil => rfl
  | cons segment rest ih =>
    have first := bracketed segment (by simp)
    have later := ih fun other member => bracketed other (by simp [member])
    cases rest with
    | nil =>
      obtain ⟨inner, last, same⟩ := spreadBrackets_segment first depth starts []
      simpa [joined, spreadBrackets] using same
    | cons next rest =>
      obtain ⟨inner, last, same⟩ := spreadBrackets_segment first depth starts
        (.plain '.' :: joined '.' (next :: rest))
      rw [joined_cons_cons, same]
      simp [spreadBrackets, later inner (.inr rfl)]

theorem splitSegments_of_contains {ls : List Lexeme} (points : contains ls '.' = false)
    (looks : contains ls '@' = false) (current rest : List Lexeme) :
    splitSegments .plain current (ls ++ rest) = splitSegments .plain (current ++ ls) rest := by
  induction ls generalizing current with
  | nil => simp
  | cons l more ih =>
    rw [contains_cons, Bool.or_eq_false_iff] at points looks
    rw [List.cons_append, splitSegments]
    simp [points.1, looks.1, ih points.2 looks.2]

theorem splitSegments_joined {segments : List (List Lexeme)}
    (filled : ∀ segment ∈ segments, segment ≠ [])
    (points : ∀ segment ∈ segments, contains segment '.' = false)
    (looks : ∀ segment ∈ segments, contains segment '@' = false) :
    splitSegments .plain [] (joined '.' segments) = .ok segments := by
  induction segments with
  | nil => rfl
  | cons segment rest ih =>
    have nonempty : segment.isEmpty = false := by simpa using filled segment (by simp)
    have first := splitSegments_of_contains (points segment (by simp)) (looks segment (by simp)) []
    have later := ih (fun other member => filled other (by simp [member]))
      (fun other member => points other (by simp [member]))
      (fun other member => looks other (by simp [member]))
    cases rest with
    | nil =>
      have whole := first []
      simpa [joined, splitSegments, addSegment, nonempty] using whole
    | cons next rest =>
      rw [joined_cons_cons, first]
      simp [splitSegments, later, addSegment, nonempty, Except.map]

theorem PlainStep.bracketed (s : PlainStep) : Bracketed s.lexemes := by
  cases s with
  | key text => exact .inl (contains_quoted _ (by decide))
  | template pieces => exact .inl (contains_pieces (by decide) pieces)
  | item index =>
    refine .inr ⟨(natChars index ++ [']']).map .plain, by simp [lexemes, chars], ?_⟩
    exact contains_plain_eq_false (by simp [not_mem_natChars (c := '[') (by decide)])
  | counter level =>
    refine .inr ⟨(counterChars level ++ [']']).map .plain, by simp [lexemes, chars], ?_⟩
    exact contains_plain_eq_false (by simp [counterChars, not_mem_natChars (c := '[') (by decide)])
  | captured r =>
    refine .inr ⟨(r.chars '&' ++ [']']).map .plain, by simp [lexemes, chars], ?_⟩
    have free : '[' ∉ r.chars '&' := r.not_mem_chars (by decide) (by decide)
    exact contains_plain_eq_false (by simp [free])

theorem PlainStep.lexemes_ne_nil (s : PlainStep) (wellFormed : s.WellFormed)
    (named : s ≠ .key "") : s.lexemes ≠ [] := by
  cases s with
  | key text =>
    intro empty
    simp only [lexemes, List.map_eq_nil_iff, String.toList_eq_nil_iff] at empty
    exact named (by rw [empty])
  | template pieces =>
    intro empty
    have marked := contains_ampersand wellFormed.captures
    rw [show pieces.flatMap Piece.lexemes = [] from empty] at marked
    cases marked
  | item index | counter level | captured r => simp [lexemes, chars]

/-- The path of a lookup is read from its canonical form. -/
theorem parseStepsWith_pathLexemes {path : List PlainStep}
    (wellFormed : ∀ s ∈ path, s.WellFormed) (named : ∀ s ∈ path, s ≠ .key "") :
    parseStepsWith lookup (reescape (pathLexemes path)) = .ok (path.map .plain) := by
  have spread : spreadBrackets 0 none (pathLexemes path) = pathLexemes path :=
    spreadBrackets_joined (by simpa using fun s _ => s.bracketed) 0 (.inl rfl)
  have split : splitSegments .plain [] (pathLexemes path) = .ok (path.map PlainStep.lexemes) :=
    splitSegments_joined
      (by simpa using fun s member => s.lexemes_ne_nil (wellFormed s member) (named s member))
      (by simpa using fun s _ => s.contains_lexemes (c := '.') (by decide) (by decide))
      (by simpa using fun s _ => s.contains_lexemes (c := '@') (by decide) (by decide))
  have parts : segments (reescape (pathLexemes path)) =
      .ok (path.map fun s => reescape s.lexemes) := by
    rw [segments, (PlainStep.spells_path path).lex_reescape_eq, spread, split]
    simp [Function.comp_def]
  rw [parseStepsWith, parts, ok_bind, mapM_eq_ok, List.forall₂_map_left_iff,
    List.forall₂_map_right_iff, List.forall₂_same]
  intro s member
  rw [parseKeyWith_plain (wellFormed s member) s.spells.lex_reescape_eq, ok_bind]

theorem isPlainDigit_of_mem {n : Nat} : ∀ d ∈ (natChars n).map Lexeme.plain,
    isPlainDigit d = true := by
  intro d member
  obtain ⟨c, present, rfl⟩ := List.mem_map.mp member
  exact isDigit_of_mem_natChars present

/-- A level in front of a comma ends at it, whatever comes after. -/
theorem splitLevel_natChars {level : Nat} (fits : level < wordBound) (rest : List Lexeme) :
    splitLevel ((natChars level).map .plain ++ .plain ',' :: rest) = .ok (level, rest) := by
  have digits := isPlainDigit_of_mem (n := level)
  have read := readWord_natChars fits
  have free : ∀ d ∈ (natChars level).map Lexeme.plain, (!d.is ',') = true := by
    intro d member
    obtain ⟨c, present, rfl⟩ := List.mem_map.mp member
    have other : c ≠ ',' := by
      rintro rfl
      exact not_mem_natChars (by decide) level present
    simpa using other
  have taken : ((natChars level).map Lexeme.plain ++ .plain ',' :: rest).takeWhile
      (fun d => !d.is ',') = (natChars level).map .plain := by
    rw [List.takeWhile_append_of_pos free]
    simp
  have dropped : ((natChars level).map Lexeme.plain ++ .plain ',' :: rest).drop
      ((natChars level).length + 1) = rest := by
    rw [← List.length_map (f := Lexeme.plain), ← List.drop_drop, List.drop_left]
    rfl
  cases written : natChars level with
  | nil => exact absurd written (natChars_ne_nil level)
  | cons c later =>
    rw [written] at taken dropped digits read
    have first : isPlainDigit (.plain c) = true := digits _ (by simp)
    unfold splitLevel
    rw [List.map_cons, List.cons_append] at taken dropped ⊢
    simp only [first, if_true, taken, ← List.map_cons (f := Lexeme.plain),
      List.all_eq_true.mpr digits, unescapeChars_plain, read, List.length_map, dropped]

private theorem splitLevel_inner {l : Lookup} (fits : l.level < wordBound) :
    splitLevel l.inner = .ok (l.level, pathLexemes l.path) :=
  splitLevel_natChars fits _

private theorem lookupBody_enclosed (l : Lookup) :
    lookupBody (.plain '(' :: (l.inner ++ [.plain ')'])) = .ok l.inner := by
  have free {c : Char} (unused : Unused c) (point : c ≠ '.') (other : c ∉ ['[', ']', '#']) :
      contains l.inner c = false :=
    Lookup.contains_inner unused point fun s _ => s.contains_lexemes unused other
  have looks := free (c := '@') (by decide) (by decide) (by decide)
  have stars := free (c := '*') (by decide) (by decide) (by decide)
  have filled : l.inner.isEmpty = false := by simp [Lookup.inner, natChars_ne_nil]
  simp only [lookupBody, contains_cons, contains_append, plain_is, looks, stars, contains_nil,
    startsWith, endsWith_enclosed, body_enclosed, filled, List.length_cons, List.length_append,
    List.length_nil]
  simp

/-- A lookup is read from its canonical form. -/
theorem Lookup.parse_of_lexed {l : Lookup} (wellFormed : l.WellFormed)
    (lexed : lex key = l.lexemes) : Lookup.parse key = .ok l := by
  unfold Lookup.parse
  rw [lexed, lexemes]
  have marked : (Lexeme.plain '@').is '@' = true := rfl
  simp only [marked, Bool.not_true, Bool.false_eq_true, if_false, List.isEmpty_cons,
    lookupBody_enclosed, splitLevel_inner wellFormed.fits, located, ok_bind]
  cases path : l.path with
  | nil =>
    obtain ⟨level, steps⟩ := l
    cases path
    rfl
  | cons first rest =>
    have filled : (pathLexemes l.path).isEmpty = false := by
      have nonempty := first.lexemes_ne_nil (wellFormed.steps first (by simp [path]))
        (wellFormed.named first (by simp [path]))
      rw [path, pathLexemes]
      cases rest <;> simp [joined, nonempty]
    rw [← path, filled]
    simp only [Bool.false_eq_true, if_false,
      parseStepsWith_pathLexemes wellFormed.steps wellFormed.named, plainSteps_eq_ok.mpr rfl,
      ok_bind]

private theorem parseIndexBody_lookup {l : Lookup} (wellFormed : l.WellFormed) :
    parseIndexBody Lookup.parse key l.lexemes = .ok (.itemLookup l) := by
  have read := Lookup.parse_of_lexed wellFormed l.spells.lex_reescape_eq
  have first (c : Char) : startsWith l.lexemes c = ('@' == c) := rfl
  have filled : l.lexemes.isEmpty = false := rfl
  simp only [parseIndexBody, filled, first, read]
  rfl

theorem Step.parse_of_lexed {s : Step} (wellFormed : s.WellFormed) (lexed : lex key = s.lexemes) :
    Element.parse key = .ok (.step s) := by
  cases s with
  | plain s => exact parseKeyWith_plain wellFormed lexed
  | lookup l =>
    have read := Lookup.parse_of_lexed wellFormed lexed
    have alone (c : Char) : lex key ≠ [.plain c] := by simp [lexed, lexemes, Lookup.lexemes]
    have first (c : Char) : startsWith (lex key) c = ('@' == c) := by rw [lexed]; rfl
    simp only [Element.parse, parseKeyWith, if_neg (alone _), first, read]
    rfl
  | append =>
    rw [Element.parse, parseKeyWith_brackets [] lexed rfl rfl]
    rfl
  | itemLookup l =>
    obtain ⟨wellFormed, members⟩ := wellFormed
    have free {c : Char} (unused : Unused c) (other : c ∉ ['@', '.']) :=
      Lookup.contains_lexemes unused other members
    rw [Element.parse, parseKeyWith_brackets l.lexemes lexed (free (by decide) (by decide))
      (free (by decide) (by decide)), parseIndexBody_lookup wellFormed]
    rfl

/-- A well-formed element is read from its canonical text. -/
theorem Element.parse_canonical {e : Element} (wellFormed : e.WellFormed) :
    Element.parse e.canonical = .ok e := by
  have lexed : lex e.canonical = e.lexemes := e.spells.lex_eq
  cases e with
  | step s => exact s.parse_of_lexed wellFormed lexed
  | star pattern => exact parseKeyWith_star wellFormed lexed
  | constant text => exact parseKeyWith_constant wellFormed lexed
  | captured r => exact parseKeyWith_captured wellFormed lexed
  | here => simp [Element.parse, parseKeyWith, lexed, lexemes, Lexeme.plain]

end Reshape.Key
