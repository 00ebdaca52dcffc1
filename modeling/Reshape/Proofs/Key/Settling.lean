import Reshape.Proofs.Key.Reading

/-! Keys whose escapes are settled: a character that has no meaning anywhere has lost its
escape. The readers of keys do not miss it, save for one that reads digits, which goes on
through a digit that was escaped. -/

namespace Reshape.Key

open Decimal Outcome

variable {ls current body : List Lexeme}

/-- Digits have no meaning that an escape could take away. -/
theorem not_mem_special {c : Char} (digit : isDigit c = true) : c ∉ special := by
  have others : special.all (fun d => !isDigit d) = true := rfl
  intro member
  have other := List.all_eq_true.mp others c member
  rw [digit] at other
  cases other

theorem isPlainDigit_settle (l : Lexeme) : isPlainDigit l.settle = isDigit l.char := by
  by_cases digit : isDigit l.char = true
  · simp [isPlainDigit, Lexeme.settle, digit, not_mem_special digit]
  · simp [isPlainDigit, Lexeme.settle, digit]

theorem settle_eq_plain_iff {c : Char} (marks : c ∈ special) :
    ls.map Lexeme.settle = [.plain c] ↔ ls = [.plain c] := by
  constructor
  · intro same
    obtain ⟨l, rfl, settled⟩ := List.map_eq_singleton_iff.mp same
    have marked : l.is c = true := by
      rw [← l.settle_is marks, settled, plain_is, beq_self_eq_true]
    rw [is_eq_true marked]
  · rintro rfl
    rfl

@[simp]
theorem unescapeChars_settle (ls : List Lexeme) :
    unescapeChars (ls.map Lexeme.settle) = unescapeChars ls := by
  simp [unescapeChars, Lexeme.settle, Function.comp_def]

@[simp]
theorem unescape_settle (ls : List Lexeme) : unescape (ls.map Lexeme.settle) = unescape ls :=
  congrArg String.ofList (unescapeChars_settle ls)

theorem reescape_settle (ls : List Lexeme) : reescape (ls.map Lexeme.settle) = reescape ls := by
  have each (l : Lexeme) : reescapeOne l.settle = reescapeOne l := by
    simp only [reescapeOne, Lexeme.settle, Bool.and_assoc, Bool.and_self]
  simp only [reescape, reescapeChars, List.flatMap_map, each]

theorem startsWith_settle (ls : List Lexeme) {c : Char} (marks : c ∈ special) :
    startsWith (ls.map Lexeme.settle) c = startsWith ls c := by
  cases ls with
  | nil => rfl
  | cons l rest => exact l.settle_is marks

theorem endsWith_settle (ls : List Lexeme) {c : Char} (marks : c ∈ special) :
    endsWith (ls.map Lexeme.settle) c = endsWith ls c := by
  rw [endsWith, endsWith, List.getLast?_map]
  cases ls.getLast? with
  | none => rfl
  | some l => exact l.settle_is marks

theorem count_settle (ls : List Lexeme) {c : Char} (marks : c ∈ special) :
    count (ls.map Lexeme.settle) c = count ls c := by
  simp [count, List.countP_map, Function.comp_def, Lexeme.settle_is _ marks]

theorem splitAt_settle (ls : List Lexeme) {c : Char} (marks : c ∈ special) :
    splitAt c (ls.map Lexeme.settle) = (splitAt c ls).map (List.map Lexeme.settle) := by
  induction ls with
  | nil => rfl
  | cons l rest ih =>
    simp only [List.map_cons, splitAt, l.settle_is marks, ih]
    split
    · rfl
    · cases splitAt c rest <;> rfl

/-- Whether the digits in front go on with an escaped digit. -/
def GoesOn : List Lexeme → Prop
  | [] => False
  | l :: rest => isDigit l.char = true ∧ (l.escaped = true ∨ GoesOn rest)

/-- In front of some lexemes is no escaped digit. -/
theorem isPlainDigit_of_goesOn {l : Lexeme} {rest : List Lexeme} (ends : ¬GoesOn (l :: rest)) :
    isPlainDigit l = isDigit l.char := by
  by_cases digit : isDigit l.char = true
  · have plain : l.escaped = false := by
      by_contra escaped
      exact ends ⟨digit, .inl (by simpa using escaped)⟩
    simp [isPlainDigit, plain]
  · simp [isPlainDigit, digit]

theorem goesOn_rest {l : Lexeme} {rest : List Lexeme} (ends : ¬GoesOn (l :: rest))
    (digit : isPlainDigit l = true) : ¬GoesOn rest := by
  intro on
  rw [isPlainDigit_of_goesOn ends] at digit
  exact ends ⟨digit, .inr on⟩

theorem all_takeWhile_goesOn (p : Lexeme → Bool) (ends : ¬GoesOn ls) :
    (ls.takeWhile p).all (fun l => isDigit l.char) = (ls.takeWhile p).all isPlainDigit := by
  induction ls with
  | nil => rfl
  | cons l rest ih =>
    rw [List.takeWhile_cons]
    by_cases taken : p l = true
    · rw [if_pos taken, List.all_cons, List.all_cons, ← isPlainDigit_of_goesOn ends]
      by_cases digit : isPlainDigit l = true
      · rw [ih (goesOn_rest ends digit)]
      · rw [Bool.not_eq_true] at digit
        rw [digit, Bool.false_and, Bool.false_and]
    · rw [if_neg taken]
      rfl

/-- Whether an escaped digit comes after the digits of a reference. -/
def Continues (ls : List Lexeme) : Prop :=
  ∃ before after, ls = before ++ .plain '&' :: after ∧ GoesOn after

theorem continues_nil : ¬Continues [] := by
  rintro ⟨before, after, split, _⟩
  simp at split

theorem continues_cons {l : Lexeme} {rest : List Lexeme} :
    Continues (l :: rest) ↔ l = .plain '&' ∧ GoesOn rest ∨ Continues rest := by
  constructor
  · rintro ⟨before, after, split, on⟩
    cases before with
    | nil =>
      cases split
      exact .inl ⟨rfl, on⟩
    | cons first before =>
      cases split
      exact .inr ⟨before, after, rfl, on⟩
  · rintro (⟨rfl, on⟩ | ⟨before, after, rfl, on⟩)
    · exact ⟨[], rest, rfl, on⟩
    · exact ⟨l :: before, after, rfl, on⟩

private theorem addText_settle (current : List Lexeme) :
    addText (current.map Lexeme.settle) = addText current := by
  funext later
  simp only [addText, List.isEmpty_map, unescape_settle]

private theorem pieceOf_settle (body : List Lexeme) :
    pieceOf (body.map Lexeme.settle) = pieceOf body := by
  rw [pieceOf, pieceOf, unescapeChars_settle]

/-- A scan does not miss the escapes if none of them ends the digits of a reference. -/
theorem scanTemplate_settle {mode : TemplateMode} (kept : ¬Continues ls)
    (ends : mode = .mark ∨ mode = .digits → ¬GoesOn ls) :
    scanTemplate mode (current.map Lexeme.settle) (ls.map Lexeme.settle) =
      scanTemplate mode current ls := by
  induction ls generalizing mode current with
  | nil => cases mode <;> simp only [List.map_nil, scanTemplate, addText_settle, pieceOf_settle]
  | cons l rest ih =>
    have later : ¬Continues rest := fun further => kept (continues_cons.mpr (.inr further))
    have text (current : List Lexeme) := @ih current .text later (by simp)
    have fresh : scanTemplate .text [] (rest.map Lexeme.settle) = scanTemplate .text [] rest :=
      text []
    have single : scanTemplate .text [l.settle] (rest.map Lexeme.settle) =
        scanTemplate .text [l] rest := text [l]
    have group (depth : Nat) (current : List Lexeme) := @ih current (.group depth) later (by simp)
    have first : scanTemplate (.group 1) [l.settle] (rest.map Lexeme.settle) =
        scanTemplate (.group 1) [l] rest := group 1 [l]
    have marked (is : l.is '&' = true) : scanTemplate .mark [] (rest.map Lexeme.settle) =
        scanTemplate .mark [] rest :=
      @ih [] .mark later fun _ on => kept (continues_cons.mpr (.inl ⟨is_eq_true is, on⟩))
    have added : current.map Lexeme.settle ++ [l.settle] = (current ++ [l]).map Lexeme.settle := by
      rw [List.map_append, List.map_singleton]
    have ampersand := l.settle_is (c := '&') (by decide)
    have opening := l.settle_is (c := '(') (by decide)
    have closing := l.settle_is (c := ')') (by decide)
    cases mode with
    | text =>
      simp only [List.map_cons, scanTemplate, added, text, ampersand]
      split
      · rename_i is
        rw [marked is, addText_settle]
      · rfl
    | group depth =>
      simp only [List.map_cons, scanTemplate, added, group, opening, closing, pieceOf_settle, fresh]
    | mark | digits =>
      have ends := ends (by simp)
      have digit : isPlainDigit l.settle = isPlainDigit l := by
        rw [isPlainDigit_settle, isPlainDigit_of_goesOn ends]
      simp only [List.map_cons, scanTemplate, added, first, ampersand, opening, pieceOf_settle,
        digit, single]
      split
      · rfl
      split
      · rename_i digit
        exact ih later fun _ => goesOn_rest ends digit
      split
      · rename_i is
        rw [marked is]
      · rfl

theorem lookupBody_settle (ls : List Lexeme) :
    lookupBody (ls.map Lexeme.settle) = (lookupBody ls).map (List.map Lexeme.settle) := by
  simp only [lookupBody, contains_settle ls (c := '@') (by decide),
    contains_settle ls (c := '*') (by decide), startsWith_settle ls (c := '(') (by decide),
    endsWith_settle ls (c := ')') (by decide), List.length_map, ← List.map_drop,
    ← List.map_dropLast, List.isEmpty_map]
  repeat' split
  all_goals rfl

private theorem takeWhile_settle (ls : List Lexeme) :
    (ls.map Lexeme.settle).takeWhile (fun l => !l.is ',') =
      (ls.takeWhile fun l => !l.is ',').map Lexeme.settle := by
  rw [List.takeWhile_map]
  congr 2
  funext l
  rw [Function.comp_apply, l.settle_is (c := ',') (by decide)]

/-- A level ends where it did if no escaped digit ends it. -/
theorem splitLevel_settle (ends : ¬GoesOn body) : splitLevel (body.map Lexeme.settle) =
    (splitLevel body).map fun (level, rest) => (level, rest.map Lexeme.settle) := by
  cases body with
  | nil => rfl
  | cons l rest =>
    have digit : isPlainDigit l.settle = isPlainDigit l := by
      rw [isPlainDigit_settle, isPlainDigit_of_goesOn ends]
    have digits : (((l :: rest).takeWhile fun l => !l.is ',').map Lexeme.settle).all isPlainDigit =
        ((l :: rest).takeWhile fun l => !l.is ',').all isPlainDigit := by
      rw [← all_takeWhile_goesOn _ ends, List.all_map]
      exact congrArg (List.all _) (funext isPlainDigit_settle)
    simp only [List.map_cons, splitLevel, digit]
    rw [← List.map_cons, takeWhile_settle, digits, unescapeChars_settle, List.length_map,
      ← List.map_drop]
    split
    · split
      · cases readWord (unescapeChars ((l :: rest).takeWhile fun l => !l.is ',')) <;> rfl
      · rfl
    · rfl

variable {key other : String}

theorem located_both {α : Type} (key other : String) (result : Except Fault α) :
    Both Eq (located other result) (located key result) := by
  cases result with
  | error fault => exact .failed _ _
  | ok value => exact .done rfl

theorem parseConstant_settle (ls : List Lexeme) :
    parseConstant (ls.map Lexeme.settle) = parseConstant ls := by
  simp only [parseConstant, startsWith_settle ls (c := '(') (by decide),
    endsWith_settle ls (c := ')') (by decide), List.length_map, ← List.map_drop,
    ← List.map_dropLast]
  split <;> simp only [List.isEmpty_map, unescape_settle]

private theorem parseIndexBody_settle (lookup : String → Except GrammarError Lookup)
    (key other : String) (body : List Lexeme) :
    Both Eq (parseIndexBody lookup other (body.map Lexeme.settle))
      (parseIndexBody lookup key body) := by
  simp only [parseIndexBody, unescapeChars_settle, List.isEmpty_map, reescape_settle,
    startsWith_settle body (c := '&') (by decide), startsWith_settle body (c := '#') (by decide),
    startsWith_settle body (c := '@') (by decide)]
  refine .ite (fun _ => .done rfl) fun _ => .ite (fun _ => located_both key other _) fun _ =>
    .ite (fun _ => located_both key other _) fun _ => .ite (fun _ => .of_eq (fun _ => rfl) rfl)
      fun _ => .ite (fun _ => .failed _ _) fun _ => ?_
  cases readIndexChars (unescapeChars body) with
  | none => exact .failed _ _
  | some index => exact .done rfl

private theorem parseIndex_settle (lookup : String → Except GrammarError Lookup)
    (key other : String) (ls : List Lexeme) :
    Both Eq (parseIndex lookup other (ls.map Lexeme.settle)) (parseIndex lookup key ls) := by
  simp only [parseIndex, count_settle ls (c := '[') (by decide),
    count_settle ls (c := ']') (by decide), endsWith_settle ls (c := ']') (by decide),
    ← List.map_drop, ← List.map_dropLast]
  exact .ite (fun _ => .failed _ _) fun _ => parseIndexBody_settle lookup key other _

/-- A lookup is read as before if no escaped digit ends its level. -/
theorem Lookup.parse_settle (settled : lex other = (lex key).map Lexeme.settle)
    (ends : ∀ mark inner body, lex key = mark :: inner → lookupBody inner = .ok body →
      ¬GoesOn body) : Both Eq (Lookup.parse other) (Lookup.parse key) := by
  unfold Lookup.parse
  rw [settled]
  cases read : lex key with
  | nil => exact .failed _ _
  | cons mark inner =>
    simp only [List.map_cons, mark.settle_is (c := '@') (by decide), List.isEmpty_map,
      lookupBody_settle]
    refine .ite (fun _ => .failed _ _) fun _ => .ite (fun _ => .done rfl) fun _ => ?_
    cases found : lookupBody inner with
    | error fault => exact .failed _ _
    | ok body =>
      simp only [Except.map, located, ok_bind, splitLevel_settle (ends mark inner body read found)]
      cases splitLevel body with
      | error fault => exact .failed _ _
      | ok split =>
        obtain ⟨level, rest⟩ := split
        simp only [ok_bind, List.isEmpty_map, reescape_settle]
        refine .ite (fun _ => .done rfl) fun _ => ?_
        cases parseStepsWith refuseLookup (reescape rest) with
        | error e => exact .failed _ _
        | ok steps => exact (located_both key other _).bind fun same => .done (by rw [same])

/-- A key is read as before if its lookup is and no escaped digit ends the digits of a
reference. -/
theorem parseKeyWith_settle {lookup : String → Except GrammarError Lookup}
    (settled : lex other = (lex key).map Lexeme.settle)
    (lookups : startsWith (lex key) '@' = true → Both Eq (lookup other) (lookup key))
    (kept : startsWith (lex key) '@' = false → startsWith (lex key) '[' = false →
      startsWith (lex key) '$' = false → ¬Continues (lex key)) :
    Both Eq (parseKeyWith lookup other) (parseKeyWith lookup key) := by
  have contained (c : Char) (marks : c ∈ special) := contains_settle (lex key) marks
  have started (c : Char) (marks : c ∈ special) := startsWith_settle (lex key) marks
  simp only [parseKeyWith, settled, settle_eq_plain_iff (c := '@') (by decide),
    settle_eq_plain_iff (c := '*') (by decide), contained '@' (by decide),
    contained '$' (by decide), contained '[' (by decide), contained ']' (by decide),
    contained '&' (by decide), contained '*' (by decide), contained '#' (by decide),
    started '[' (by decide), started '@' (by decide), started '$' (by decide),
    started '#' (by decide), ← List.map_drop, unescapeChars_settle, parseConstant_settle,
    splitAt_settle (lex key) (c := '*') (by decide), List.map_map, Function.comp_def,
    unescape_settle]
  refine .ite (fun _ => .done rfl) fun _ => .ite (fun _ => .done rfl) fun _ =>
    .ite (fun _ => (parseIndex_settle lookup key other _).map_eq _) fun bracket =>
    .ite (fun look => (lookups look).map_eq _) fun look => .ite (fun _ => .failed _ _) fun _ =>
    .ite (fun _ => .ite (fun _ => located_both key other _) fun _ => .failed _ _) fun dollar =>
    .ite (fun _ => .failed _ _) fun _ =>
    .ite (fun _ => .ite (fun _ => .failed _ _) fun _ => ?_) fun _ =>
    .ite (fun _ => .done rfl) fun _ =>
    .ite (fun _ => .ite (fun _ => located_both key other _) fun _ => .failed _ _) fun _ => .done rfl
  -- A template is what is left: none of its references goes on.
  rw [Bool.not_eq_true] at bracket look dollar
  have read := @scanTemplate_settle (lex key) [] .text
    (kept look bracket (startsWith_of_contains dollar)) (by simp)
  rw [List.map_nil] at read
  rw [read]
  exact located_both key other _

end Reshape.Key
