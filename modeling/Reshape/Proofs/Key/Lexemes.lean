import Reshape.Key.Lexeme

namespace Reshape.Key

/-- A character of a literal as a lexeme of canonical text. -/
def quoted (c : Char) : Lexeme := ⟨c, reserved.contains c⟩

/-- These characters are read as these lexemes, whatever comes after them, and the
lexemes are written out as the characters. -/
structure Spells (cs : List Char) (ls : List Lexeme) : Prop where
  read : ∀ rest, lexChars (cs ++ rest) = ls ++ lexChars rest
  written : reescapeChars ls = cs

theorem lexChars_cons {c : Char} (plain : c ≠ '\\') (rest : List Char) :
    lexChars (c :: rest) = .plain c :: lexChars rest := by
  cases rest with
  | nil => simp [lexChars, Lexeme.plain, plain]
  | cons next rest => simp [lexChars, Lexeme.plain, plain]

private theorem reescapeChars_append (ls ms : List Lexeme) :
    reescapeChars (ls ++ ms) = reescapeChars ls ++ reescapeChars ms :=
  List.flatMap_append

namespace Spells

variable {cs ds : List Char} {ls ms : List Lexeme}

theorem nil : Spells [] [] := ⟨fun _ => rfl, rfl⟩

theorem append (first : Spells cs ls) (second : Spells ds ms) : Spells (cs ++ ds) (ls ++ ms) where
  read rest := by rw [List.append_assoc, first.read, second.read, List.append_assoc]
  written := by rw [reescapeChars_append, first.written, second.written]

theorem cons {c : Char} (plain : c ≠ '\\') (later : Spells cs ls) :
    Spells (c :: cs) (.plain c :: ls) where
  read rest := by rw [List.cons_append, lexChars_cons plain, later.read, List.cons_append]
  written := by
    have tail := later.written
    simp only [reescapeChars] at tail ⊢
    simp [reescapeOne, Lexeme.plain, tail]

theorem plain (free : '\\' ∉ cs) : Spells cs (cs.map .plain) := by
  induction cs with
  | nil => exact nil
  | cons c rest ih =>
    have other : c ≠ '\\' := fun same => free (by simp [same])
    exact cons other (ih fun member => free (by simp [member]))

private theorem escapeOne (c : Char) : Spells (escapeOne c) [quoted c] := by
  by_cases held : c ∈ reserved
  · have marks : c ∈ special := by
      have included : ∀ d ∈ reserved, d ∈ special := by simp [reserved, special]
      exact included c held
    constructor <;>
      simp [Key.escapeOne, quoted, held, marks, lexChars, reescapeChars, reescapeOne]
  · have other : c ≠ '\\' := by rintro rfl; exact held (by decide)
    constructor <;>
      simp [Key.escapeOne, quoted, held, lexChars_cons other, Lexeme.plain, reescapeChars,
        reescapeOne]

theorem escaped (cs : List Char) : Spells (escapeChars cs) (cs.map quoted) := by
  induction cs with
  | nil => exact nil
  | cons c rest ih => exact (escapeOne c).append ih

theorem lexChars_eq (spelled : Spells cs ls) : lexChars cs = ls := by
  simpa [lexChars] using spelled.read []

theorem lex_eq (spelled : Spells cs ls) : lex (String.ofList cs) = ls := by
  rw [lex, String.toList_ofList, spelled.lexChars_eq]

theorem reescape_eq (spelled : Spells cs ls) : reescape ls = String.ofList cs :=
  congrArg String.ofList spelled.written

theorem lex_reescape_eq (spelled : Spells cs ls) : lex (reescape ls) = ls := by
  rw [spelled.reescape_eq, spelled.lex_eq]

end Spells

@[simp]
theorem unescapeChars_quoted (cs : List Char) : unescapeChars (cs.map quoted) = cs := by
  simp [unescapeChars, quoted, Function.comp_def]

@[simp]
theorem unescapeChars_plain (cs : List Char) : unescapeChars (cs.map .plain) = cs := by
  simp [unescapeChars, Lexeme.plain, Function.comp_def]

@[simp]
theorem contains_nil (c : Char) : contains [] c = false := rfl

@[simp]
theorem contains_cons (l : Lexeme) (ls : List Lexeme) (c : Char) :
    contains (l :: ls) c = (l.is c || contains ls c) := rfl

@[simp]
theorem contains_append (ls ms : List Lexeme) (c : Char) :
    contains (ls ++ ms) c = (contains ls c || contains ms c) :=
  List.any_append

@[simp]
theorem plain_is (c d : Char) : (Lexeme.plain c).is d = (c == d) := rfl

theorem is_eq_true {l : Lexeme} {c : Char} (marks : l.is c = true) : l = .plain c := by
  obtain ⟨char, escaped⟩ := l
  simp only [Lexeme.is, Bool.and_eq_true, Bool.not_eq_true', beq_iff_eq] at marks
  simp [Lexeme.plain, marks]

theorem quoted_is (c : Char) {d : Char} (held : d ∈ reserved) : (quoted c).is d = false := by
  by_cases same : c = d
  · simp [Lexeme.is, quoted, same, held]
  · simp [Lexeme.is, quoted, same]

theorem contains_quoted (cs : List Char) {d : Char} (held : d ∈ reserved) :
    contains (cs.map quoted) d = false := by
  simp [contains, quoted_is _ held]

theorem contains_plain (cs : List Char) (d : Char) :
    contains (cs.map .plain) d = cs.contains d := by
  induction cs with
  | nil => rfl
  | cons c rest ih =>
    rw [List.map_cons, contains_cons, plain_is, ih, List.contains_cons, BEq.comm]

theorem startsWith_of_contains {ls : List Lexeme} {c : Char} (absent : contains ls c = false) :
    startsWith ls c = false := by
  cases ls with
  | nil => rfl
  | cons l rest =>
    rw [contains_cons, Bool.or_eq_false_iff] at absent
    exact absent.1

theorem ne_of_contains {ls : List Lexeme} {c : Char} (absent : contains ls c = false) :
    ls ≠ [.plain c] := by
  rintro rfl
  simp at absent

theorem contains_of_subset {ls ms : List Lexeme} {c : Char} (absent : contains ms c = false)
    (subset : ls ⊆ ms) : contains ls c = false := by
  simp only [contains, List.any_eq_false] at absent ⊢
  exact fun l member => absent l (subset member)

theorem count_eq_zero {ls : List Lexeme} {c : Char} : count ls c = 0 ↔ contains ls c = false := by
  simp [count, contains, List.countP_eq_zero]

namespace Lexeme

/-- The lexeme without an escape that takes away nothing. -/
def settle (l : Lexeme) : Lexeme := ⟨l.char, l.escaped && special.contains l.char⟩

theorem settle_is (l : Lexeme) {c : Char} (marks : c ∈ special) :
    l.settle.is c = l.is c := by
  by_cases same : l.char = c
  · subst same
    simp [is, settle, marks]
  · have other : (l.char == c) = false := beq_false_of_ne same
    simp only [is, settle, other, Bool.and_false]

end Lexeme

/-- A backslash never stands for itself without an escape. -/
theorem contains_lexChars_backslash (cs : List Char) : contains (lexChars cs) '\\' = false := by
  fun_induction lexChars cs with
  | case1 => rfl
  | case2 c => by_cases same : c = '\\' <;> simp [Lexeme.is, same]
  | case3 next rest ih => simp [Lexeme.is, ih]
  | case4 c next rest other ih => simpa [Lexeme.is, other] using ih

private theorem lexChars_reescapeChars {ls : List Lexeme} (read : contains ls '\\' = false) :
    lexChars (reescapeChars ls) = ls.map Lexeme.settle := by
  induction ls with
  | nil => rfl
  | cons l rest ih =>
    rw [contains_cons, Bool.or_eq_false_iff] at read
    have later := ih read.2
    simp only [reescapeChars, List.flatMap_cons] at later ⊢
    by_cases kept : (l.escaped && special.contains l.char) = true
    · simp only [reescapeOne, kept, if_true, List.cons_append, List.nil_append, lexChars, later,
        List.map_cons, Lexeme.settle]
    · have other : l.char ≠ '\\' := by
        intro same
        have plain := read.1
        simp only [Lexeme.is, same, beq_self_eq_true, Bool.and_true, Bool.not_eq_false'] at plain
        simp [same, plain, special] at kept
      simp only [reescapeOne, kept, if_false, Bool.false_eq_true, List.cons_append,
        List.nil_append, lexChars_cons other, later, List.map_cons, Lexeme.settle, Lexeme.plain]

theorem lex_reescape {ls : List Lexeme} (read : contains ls '\\' = false) :
    lex (reescape ls) = ls.map Lexeme.settle := by
  rw [lex, reescape, String.toList_ofList, lexChars_reescapeChars read]

theorem contains_settle (ls : List Lexeme) {c : Char} (marks : c ∈ special) :
    contains (ls.map Lexeme.settle) c = contains ls c := by
  simp [contains, List.any_map, Function.comp_def, Lexeme.settle_is _ marks]

end Reshape.Key
