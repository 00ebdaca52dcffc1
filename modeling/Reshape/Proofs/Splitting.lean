import Reshape.Proofs.Key.Alternatives
import Reshape.Proofs.Key.Settling
import Reshape.Spec.Compile

/-! Splitting a key at its bars and reading it. An alternative is written out with its
escapes and read again, so a key without bars is read twice; the second time it means what it
meant, unless a digit has lost an escape that it needed. -/

namespace Reshape.Key

open Outcome Spec

/-- How a key can lose an escape that it needs: an escaped digit stands right after the digits
of a level, or in their place, where a reader of digits goes on through it without the escape.
-/
inductive Misread (ls : List Lexeme) : Prop where
  /-- In a template, the digits after an ampersand are followed by an escaped digit. -/
  | reference (template : ∀ c ∈ ['@', '[', '$'], startsWith ls c = false) (on : Continues ls)
  /-- In a lookup, the digits in front are followed by an escaped digit. -/
  | level {inner body : List Lexeme} (look : ls = .plain '@' :: inner)
    (read : lookupBody inner = .ok body) (on : GoesOn body)

/-- A key that is written out with its escapes and read again is read as it was. -/
theorem parse_reescape {key : String} (kept : ¬Misread (lex key)) :
    Both Eq (Element.parse (reescape (lex key))) (Element.parse key) := by
  have settled := lex_reescape (contains_lexChars_backslash key.toList)
  refine parseKeyWith_settle settled (fun look => ?_) fun look bracket dollar on => ?_
  · refine Lookup.parse_settle settled fun mark inner body read found on => ?_
    obtain rfl : mark = .plain '@' := by
      rw [read] at look
      exact is_eq_true look
    exact kept (.level read found on)
  · exact kept (.reference (by simp [look, bracket, dollar]) on)

/-- A key whose bars all stand in parentheses is one alternative, which means what the key
means. Both are refused, or both are read as the same element. -/
theorem readKey_iff_parse {key : String} (enclosed : BarsEnclosed (lex key))
    (kept : ¬Misread (lex key)) (path : Pointer) (elements : List Element) :
    readKey path key = .ok elements ↔ ∃ e, Element.parse key = .ok e ∧ elements = [e] := by
  have both := parse_reescape kept
  rw [readKey, alternatives_of_enclosed enclosed, List.mapM_cons, List.mapM_nil]
  generalize Element.parse (reescape (lex key)) = again at both ⊢
  generalize Element.parse key = once at both ⊢
  cases both with
  | failed e other => simp
  | done same => simp [same, pure, Except.pure, eq_comm]

/-- A reference between an escaped digit and a bar in parentheses. -/
theorem readKey_iff_parse_reference :
    BarsEnclosed (lex "\\1&1(a|\\b)") ∧ ¬Misread (lex "\\1&1(a|\\b)") ∧
      readKey [] "\\1&1(a|\\b)" =
        .ok [.template [.text "1", .captured ⟨1, 0⟩, .text "(a|b)"]] := by
  have read : lex "\\1&1(a|\\b)" = [⟨'1', true⟩, .plain '&', .plain '1', .plain '(', .plain 'a',
      .plain '|', ⟨'b', true⟩, .plain ')'] := rfl
  have enclosed : BarsEnclosed (lex "\\1&1(a|\\b)") := by decide
  have kept : ¬Misread (lex "\\1&1(a|\\b)") := by
    rw [read]
    rintro (⟨_, on⟩ | ⟨look, _, _⟩)
    · simp [continues_cons, continues_nil, GoesOn, Decimal.isDigit, Lexeme.plain] at on
    · simp [Lexeme.plain] at look
  exact ⟨enclosed, kept, (readKey_iff_parse enclosed kept [] _).mpr ⟨_, rfl, rfl⟩⟩

/-- A misread key: the text after a reference becomes its level. -/
example : Element.parse "&\\1" = .ok (.template [.captured ⟨0, 0⟩, .text "1"]) ∧
    readKey [] "&\\1" = .ok [.template [.captured ⟨1, 0⟩]] :=
  ⟨rfl, rfl⟩

end Reshape.Key
