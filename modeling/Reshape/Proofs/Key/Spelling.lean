import Reshape.Proofs.Key.Forms

namespace Reshape.Key

open Decimal

namespace Reference

/-- The numbers in the canonical form of a reference. -/
def numbers (r : Reference) : List Char := natChars r.level ++ ',' :: natChars r.group

/-- What follows the token in the canonical form of a reference. -/
def body (r : Reference) : List Char := '(' :: (r.numbers ++ [')'])

theorem chars_eq (token : Char) (r : Reference) : r.chars token = token :: r.body := by
  simp [chars, body, numbers]

theorem not_mem_numbers {c : Char} (digit : isDigit c = false) (comma : c ≠ ',')
    (r : Reference) : c ∉ r.numbers := by
  simp [numbers, not_mem_natChars digit, comma]

theorem not_mem_body {c : Char} (digit : isDigit c = false) (other : c ∉ ['(', ',', ')'])
    (r : Reference) : c ∉ r.body := by
  simp only [List.mem_cons, List.not_mem_nil, or_false, not_or] at other
  simp [body, r.not_mem_numbers digit, other]

end Reference

def Piece.lexemes : Piece → List Lexeme
  | text value => value.toList.map quoted
  | captured r => (r.chars '&').map .plain

/-- The lexemes of the canonical form of a step without lookups. -/
def PlainStep.lexemes : PlainStep → List Lexeme
  | key text => text.toList.map quoted
  | template pieces => pieces.flatMap Piece.lexemes
  | s => s.chars.map .plain

/-- Joins segments with points, or parts with stars. -/
def joined (mark : Char) : List (List Lexeme) → List Lexeme
  | [] => []
  | [segment] => segment
  | segment :: rest => segment ++ .plain mark :: joined mark rest

theorem joined_cons_cons (mark : Char) (segment next : List Lexeme) (rest : List (List Lexeme)) :
    joined mark (segment :: next :: rest) = segment ++ .plain mark :: joined mark (next :: rest) :=
  rfl

/-- The lexemes of the canonical form of a path of plain steps. -/
def pathLexemes (path : List PlainStep) : List Lexeme :=
  joined '.' (path.map PlainStep.lexemes)

/-- What stands between the parentheses of the canonical form of a lookup. -/
def Lookup.inner (l : Lookup) : List Lexeme :=
  (natChars l.level).map .plain ++ .plain ',' :: pathLexemes l.path

def Lookup.lexemes (l : Lookup) : List Lexeme :=
  .plain '@' :: .plain '(' :: (l.inner ++ [.plain ')'])

/-- The lexemes of the canonical form of a wildcard. -/
def Star.lexemes (pattern : Star) : List Lexeme :=
  joined '*' (pattern.parts.map fun part => part.toList.map quoted)

/-- The lexemes of the canonical form of a segment. -/
def Step.lexemes : Step → List Lexeme
  | .plain s => s.lexemes
  | .lookup l => l.lexemes
  | .append => [.plain '[', .plain ']']
  | .itemLookup l => .plain '[' :: (l.lexemes ++ [.plain ']'])

def Element.lexemes : Element → List Lexeme
  | step s => s.lexemes
  | star pattern => pattern.lexemes
  | constant text => .plain '#' :: .plain '(' :: (text.toList.map quoted ++ [.plain ')'])
  | captured r => (r.chars '$').map .plain
  | here => [.plain '@']

theorem backslash_not_mem_natChars (n : Nat) : '\\' ∉ natChars n :=
  not_mem_natChars (by decide) n

theorem spells_joinDots {α : Type} {chars : α → List Char} {lexemes : α → List Lexeme}
    (each : ∀ a, Spells (chars a) (lexemes a)) (as : List α) :
    Spells (joinDots (as.map chars)) (joined '.' (as.map lexemes)) := by
  induction as with
  | nil => exact .nil
  | cons a rest ih =>
    cases rest with
    | nil => exact each a
    | cons next rest => exact (each a).append (ih.cons (by decide))

theorem spells_joinStars {α : Type} {chars : α → List Char} {lexemes : α → List Lexeme}
    (each : ∀ a, Spells (chars a) (lexemes a)) (as : List α) :
    Spells (Star.joinStars (as.map chars)) (joined '*' (as.map lexemes)) := by
  induction as with
  | nil => exact .nil
  | cons a rest ih =>
    cases rest with
    | nil => exact each a
    | cons next rest => exact (each a).append (ih.cons (by decide))

theorem Reference.spells {token : Char} (plain : token ≠ '\\') (r : Reference) :
    Spells (r.chars token) ((r.chars token).map .plain) := by
  apply Spells.plain
  rw [chars_eq, List.mem_cons, not_or]
  exact ⟨Ne.symm plain, r.not_mem_body (by decide) (by decide)⟩

private theorem Piece.spells (p : Piece) : Spells p.chars p.lexemes := by
  cases p with
  | text value => exact .escaped _
  | captured r => exact r.spells (by decide)

theorem PlainStep.spells (s : PlainStep) : Spells s.chars s.lexemes := by
  cases s with
  | key text => exact .escaped _
  | template pieces =>
    induction pieces with
    | nil => exact .nil
    | cons p rest ih => exact p.spells.append ih
  | item index => exact .plain (by simp [chars, backslash_not_mem_natChars])
  | counter level => exact .plain (by simp [chars, counterChars, backslash_not_mem_natChars])
  | captured r =>
    exact .plain (by simp [chars, Reference.chars, backslash_not_mem_natChars])

theorem PlainStep.spells_path (path : List PlainStep) :
    Spells (joinDots (path.map PlainStep.chars)) (pathLexemes path) :=
  spells_joinDots PlainStep.spells path

theorem Lookup.spells (l : Lookup) : Spells l.chars l.lexemes := by
  have path := PlainStep.spells_path l.path
  have level := Spells.plain (backslash_not_mem_natChars l.level)
  have inner := level.append (path.cons (c := ',') (by decide))
  have whole := inner.append (Spells.plain (show '\\' ∉ [')'] by decide))
  simpa [chars, lexemes, Lookup.inner] using
    (whole.cons (c := '(') (by decide)).cons (c := '@') (by decide)

theorem Step.spells (s : Step) : Spells s.chars s.lexemes := by
  cases s with
  | plain s => exact s.spells
  | lookup l => exact l.spells
  | append => exact .plain (show '\\' ∉ ['[', ']'] by decide)
  | itemLookup l =>
    exact (l.spells.append (.plain (show '\\' ∉ [']'] by decide))).cons (by decide)

private theorem Star.spells (pattern : Star) : Spells pattern.chars pattern.lexemes :=
  spells_joinStars (fun part : String => .escaped part.toList) pattern.parts

theorem Element.spells (e : Element) : Spells e.chars e.lexemes := by
  cases e with
  | step s => exact s.spells
  | star pattern => exact pattern.spells
  | constant text =>
    have body := (Spells.escaped text.toList).append (.plain (show '\\' ∉ [')'] by decide))
    exact (body.cons (by decide)).cons (by decide)
  | captured r => exact r.spells (by decide)
  | here => exact .plain (show '\\' ∉ ['@'] by decide)

/-- A reserved character that canonical references do not have. -/
structure Unused (c : Char) : Prop where
  held : c ∈ reserved
  digit : isDigit c = false
  other : c ∉ ['&', '(', ',', ')']

instance (c : Char) : Decidable (Unused c) :=
  decidable_of_iff (c ∈ reserved ∧ isDigit c = false ∧ c ∉ ['&', '(', ',', ')'])
    ⟨fun ⟨held, digit, other⟩ => ⟨held, digit, other⟩,
      fun unused => ⟨unused.held, unused.digit, unused.other⟩⟩

theorem contains_plain_eq_false {cs : List Char} {c : Char} (free : c ∉ cs) :
    contains (cs.map .plain) c = false := by
  rw [contains_plain]
  simpa using free

theorem Reference.not_mem_chars {c token : Char} (unused : Unused c) (other : c ≠ token)
    (r : Reference) : c ∉ r.chars token := by
  have free : c ∉ ['(', ',', ')'] := fun member => unused.other (List.mem_cons_of_mem _ member)
  rw [chars_eq, List.mem_cons, not_or]
  exact ⟨other, r.not_mem_body unused.digit free⟩

theorem Unused.ne_ampersand {c : Char} (unused : Unused c) : c ≠ '&' := fun same =>
  unused.other (by simp [same])

private theorem Piece.contains_lexemes {c : Char} (unused : Unused c) (p : Piece) :
    contains p.lexemes c = false := by
  cases p with
  | text value => exact contains_quoted _ unused.held
  | captured r => exact contains_plain_eq_false (r.not_mem_chars unused unused.ne_ampersand)

theorem contains_pieces {c : Char} (unused : Unused c) (pieces : Template) :
    contains (pieces.flatMap Piece.lexemes) c = false := by
  induction pieces with
  | nil => rfl
  | cons p rest ih => rw [List.flatMap_cons, contains_append, p.contains_lexemes unused, ih]; rfl

theorem contains_ampersand {pieces : Template} (captures : ∃ r, .captured r ∈ pieces) :
    contains (pieces.flatMap Piece.lexemes) '&' = true := by
  obtain ⟨r, member⟩ := captures
  simp only [contains, List.any_flatMap, List.any_eq_true]
  exact ⟨.captured r, member, .plain '&', by simp [Piece.lexemes, Reference.chars_eq], rfl⟩

theorem PlainStep.contains_lexemes_of_isMember {c : Char} (unused : Unused c) {s : PlainStep}
    (member : s.IsMember) : contains s.lexemes c = false := by
  cases s with
  | key text => exact contains_quoted _ unused.held
  | template pieces => exact contains_pieces unused pieces
  | item index | counter level | captured r => cases member

theorem PlainStep.contains_lexemes {c : Char} (unused : Unused c) (other : c ∉ ['[', ']', '#'])
    (s : PlainStep) : contains s.lexemes c = false := by
  have free := unused.other
  simp only [List.mem_cons, List.not_mem_nil, or_false, not_or] at other free
  cases s with
  | key text | template pieces => exact contains_lexemes_of_isMember unused trivial
  | item index =>
    apply contains_plain_eq_false
    simp [chars, not_mem_natChars unused.digit, other]
  | counter level =>
    apply contains_plain_eq_false
    simp [chars, counterChars, not_mem_natChars unused.digit, other, free]
  | captured r =>
    apply contains_plain_eq_false
    simp [chars, r.not_mem_chars unused unused.ne_ampersand, other]

theorem contains_joined {c mark : Char} (other : c ≠ mark) {segments : List (List Lexeme)}
    (absent : ∀ segment ∈ segments, contains segment c = false) :
    contains (joined mark segments) c = false := by
  induction segments with
  | nil => rfl
  | cons segment rest ih =>
    have first := absent segment (by simp)
    have later := ih fun other member => absent other (by simp [member])
    cases rest with
    | nil => exact first
    | cons next rest => simp [joined, first, later, Ne.symm other]

theorem contains_joined_mark {mark : Char} {segments : List (List Lexeme)}
    (several : 2 ≤ segments.length) : contains (joined mark segments) mark = true := by
  match segments, several with
  | segment :: next :: rest, _ => simp [joined]

theorem Star.contains_lexemes {c : Char} (held : c ∈ reserved) (star : c ≠ '*')
    (pattern : Star) : contains pattern.lexemes c = false := by
  apply contains_joined star
  intro part member
  obtain ⟨text, _, rfl⟩ := List.mem_map.mp member
  exact contains_quoted _ held

/-- Between its parentheses a lookup has only the markers that its steps have. -/
theorem Lookup.contains_inner {c : Char} (unused : Unused c) (point : c ≠ '.') {l : Lookup}
    (steps : ∀ s ∈ l.path, contains s.lexemes c = false) : contains l.inner c = false := by
  have level := contains_plain_eq_false (not_mem_natChars unused.digit l.level)
  have comma : c ≠ ',' := fun same => unused.other (by simp [same])
  have path : contains (pathLexemes l.path) c = false :=
    contains_joined point (by simpa using steps)
  simp [inner, level, path, Ne.symm comma]

/-- A lookup through members has no bracket in its canonical form. -/
theorem Lookup.contains_lexemes {c : Char} (unused : Unused c) (other : c ∉ ['@', '.'])
    {l : Lookup} (members : ∀ s ∈ l.path, s.IsMember) : contains l.lexemes c = false := by
  have free := unused.other
  simp only [List.mem_cons, List.not_mem_nil, or_false, not_or] at other free
  have inner := contains_inner unused other.2 fun s member =>
    PlainStep.contains_lexemes_of_isMember unused (members s member)
  simp [lexemes, inner, Ne.symm other.1, Ne.symm free.2.1, Ne.symm free.2.2.2]

end Reshape.Key
