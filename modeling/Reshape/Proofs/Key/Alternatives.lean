import Reshape.Key.Grammar
import Reshape.Proofs.Key.Lexemes

namespace Reshape.Key

variable {ls rest : List Lexeme}

/-- Whether the last of some characters is a backslash that escapes nothing. -/
def endsInBackslash : List Char → Bool
  | [] => false
  | [c] => c == '\\'
  | c :: next :: rest =>
    if c = '\\' then endsInBackslash rest else endsInBackslash (next :: rest)

theorem lexChars_append {cs : List Char} (ended : endsInBackslash cs = false) (ds : List Char) :
    lexChars (cs ++ ds) = lexChars cs ++ lexChars ds := by
  fun_induction endsInBackslash cs with
  | case1 => rfl
  | case2 c =>
    have plain : c ≠ '\\' := by simpa using ended
    rw [List.singleton_append, lexChars_cons plain, lexChars_cons plain]
    rfl
  | case3 next rest ih =>
    simp only [List.cons_append, lexChars, if_true]
    rw [ih ended]
  | case4 c next rest plain ih =>
    rw [List.cons_append, lexChars_cons plain, lexChars_cons plain, ih ended]
    rfl

/-- How many parentheses are open after some lexemes. A closing one too many is a character
like any other. -/
def openAfter (depth : Nat) : List Lexeme → Nat
  | [] => depth
  | l :: rest =>
    openAfter (if l.is '(' then depth + 1 else if l.is ')' then depth - 1 else depth) rest

/-- Whether every bar with its meaning stands in parentheses. -/
def BarsEnclosed (ls : List Lexeme) : Prop :=
  ∀ before after, ls = before ++ .plain '|' :: after → openAfter 0 before ≠ 0

theorem splitBars_of_enclosed {depth : Nat}
    (enclosed : ∀ before after, ls = before ++ .plain '|' :: after → openAfter depth before ≠ 0) :
    splitBars depth ls = [ls] := by
  induction ls generalizing depth with
  | nil => rfl
  | cons l rest ih =>
    have first : (l.is '|' && depth == 0) = false := by
      rw [Bool.and_eq_false_imp]
      intro bar
      have opened := enclosed [] rest (by rw [is_eq_true bar, List.nil_append])
      simpa [openAfter] using opened
    have later := @ih (if l.is '(' then depth + 1 else if l.is ')' then depth - 1 else depth)
      fun before after split => enclosed (l :: before) after (by rw [split, List.cons_append])
    simp only [splitBars, first, Bool.false_eq_true, if_false, later]

theorem splitBars_ne_nil (depth : Nat) (ls : List Lexeme) : splitBars depth ls ≠ [] := by
  cases ls with
  | nil => simp [splitBars]
  | cons l rest =>
    simp only [splitBars]
    split
    · simp
    · split <;> simp

/-- A bar outside parentheses splits. -/
theorem splitBars_ne_singleton {depth : Nat} {before : List Lexeme}
    (closed : openAfter depth before = 0) (after part : List Lexeme) :
    splitBars depth (before ++ .plain '|' :: after) ≠ [part] := by
  induction before generalizing depth part with
  | nil =>
    obtain rfl : depth = 0 := closed
    simp [splitBars, splitBars_ne_nil]
  | cons l rest ih =>
    simp only [List.cons_append, splitBars]
    split
    · simp [splitBars_ne_nil]
    · intro single
      split at single
      · rename_i empty
        exact splitBars_ne_nil _ _ empty
      · rename_i first parts later
        obtain rfl : parts = [] := (List.cons.inj single).2
        exact ih closed first later

/-- The bars are enclosed where nothing is split. -/
theorem barsEnclosed_iff : BarsEnclosed ls ↔ splitBars 0 ls = [ls] := by
  constructor
  · exact splitBars_of_enclosed
  · intro whole before after split closed
    rw [split] at whole
    exact splitBars_ne_singleton closed after _ whole

instance (ls : List Lexeme) : Decidable (BarsEnclosed ls) :=
  decidable_of_iff _ barsEnclosed_iff.symm

/-- A key whose bars all stand in parentheses is one alternative. -/
theorem alternatives_of_enclosed {key : String} (enclosed : BarsEnclosed (lex key)) :
    alternatives key = [reescape (lex key)] := by
  rw [alternatives, splitBars_of_enclosed enclosed, List.map_singleton]

/-- A bar after lexemes that have none and leave no parenthesis open ends an alternative. -/
theorem splitBars_append {depth : Nat} (free : contains ls '|' = false)
    (closed : openAfter depth ls = 0) (rest : List Lexeme) :
    splitBars depth (ls ++ .plain '|' :: rest) = ls :: splitBars 0 rest := by
  induction ls generalizing depth with
  | nil =>
    obtain rfl : depth = 0 := closed
    rfl
  | cons l more ih =>
    rw [contains_cons, Bool.or_eq_false_iff] at free
    simp only [List.cons_append, splitBars, free.1, Bool.false_and, Bool.false_eq_true, if_false,
      ih free.2 closed]

theorem splitBars_of_contains (free : contains ls '|' = false) (depth : Nat) :
    splitBars depth ls = [ls] := by
  refine splitBars_of_enclosed fun before after split => ?_
  rw [split] at free
  simp at free

/-- A text that bars can join to others: it has no bar, ends in no backslash that would escape
the bar after it, and leaves no parenthesis open. -/
structure Joinable (part : String) : Prop where
  free : contains (lex part) '|' = false
  ended : endsInBackslash part.toList = false
  closed : openAfter 0 (lex part) = 0

private theorem alternatives_joinable {part : String} (joinable : Joinable part) :
    alternatives part = [reescape (lex part)] := by
  rw [alternatives, splitBars_of_contains joinable.free, List.map_singleton]

/-- The alternatives of texts that bars join are the texts. -/
theorem alternatives_intercalate {parts : List String} (filled : parts ≠ [])
    (each : ∀ part ∈ parts, Joinable part) :
    alternatives ("|".intercalate parts) = parts.flatMap alternatives := by
  induction parts with
  | nil => exact absurd rfl filled
  | cons part rest ih =>
    obtain ⟨first, later⟩ := List.forall_mem_cons.mp each
    cases rest with
    | nil => simp
    | cons next rest =>
      have joined : lex ("|".intercalate (part :: next :: rest)) =
          lex part ++ .plain '|' :: lex ("|".intercalate (next :: rest)) := by
        rw [String.intercalate_cons_cons, lex, String.toList_append, String.toList_append,
          List.append_assoc, lexChars_append first.ended]
        exact congrArg (lex part ++ ·) (lexChars_cons (by decide) _)
      rw [List.flatMap_cons, ← ih (by simp) later, alternatives_joinable first, alternatives, joined,
        splitBars_append first.free first.closed]
      rfl

end Reshape.Key
