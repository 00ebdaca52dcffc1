import Reshape.Proofs.Key.Spelling

namespace Reshape.Key

open Decimal Outcome

theorem splitCommas_of_not_mem {cs : List Char} (free : ',' ∉ cs) : splitCommas cs = [cs] := by
  induction cs with
  | nil => rfl
  | cons c rest ih =>
    simp only [List.mem_cons, not_or] at free
    rw [splitCommas, if_neg (Ne.symm free.1), ih free.2]

theorem splitCommas_append {cs : List Char} (free : ',' ∉ cs) (ds : List Char) :
    splitCommas (cs ++ ',' :: ds) = cs :: splitCommas ds := by
  induction cs with
  | nil => simp [splitCommas]
  | cons c rest ih =>
    simp only [List.mem_cons, not_or] at free
    rw [List.cons_append, splitCommas, if_neg (Ne.symm free.1), ih free.2]

private theorem unwrap?_parentheses (cs : List Char) :
    unwrap? ('(' :: (cs ++ [')'])) = some cs := by
  simp [unwrap?]

theorem readLevel_natChars {n : Nat} (fits : n < wordBound) : readLevel (natChars n) = .ok n := by
  have trimmed : Text.trimChars (natChars n) = natChars n :=
    Text.trimChars_of_not_blank fun c member => isBlank_of_isDigit (isDigit_of_mem_natChars member)
  have unsigned : (natChars n).head? ≠ some '-' := fun first =>
    not_mem_natChars (by decide) n (List.mem_of_mem_head? first)
  simp only [readLevel, trimmed, unsigned, if_false, readNat_natChars, fits, if_true]

theorem Reference.parse_body {r : Reference} (fits : r.Fits) (token : Char) :
    Reference.parse token r.body = .ok r := by
  have free (n : Nat) : ',' ∉ natChars n := not_mem_natChars (by decide) n
  simp only [Reference.parse, body, numbers, List.isEmpty_cons, Bool.false_eq_true, if_false,
    unwrap?_parentheses, splitCommas_append (free _), splitCommas_of_not_mem (free _),
    readLevel_natChars fits.1, readLevel_natChars fits.2, ok_bind]

theorem parseCounter_chars {level : Nat} (fits : level < wordBound) :
    parseCounter ((counterChars level).drop 1) = .ok level := by
  simp [parseCounter, counterChars, unwrap?, readLevel_natChars fits]

theorem scanTemplate_text {ls : List Lexeme} (free : contains ls '&' = false)
    (current rest : List Lexeme) :
    scanTemplate .text current (ls ++ rest) = scanTemplate .text (current ++ ls) rest := by
  induction ls generalizing current with
  | nil => simp
  | cons l more ih =>
    rw [contains_cons, Bool.or_eq_false_iff] at free
    rw [List.cons_append, scanTemplate]
    simp [free.1, ih free.2]

private theorem scanTemplate_group {ls : List Lexeme} (opens : contains ls '(' = false)
    (closes : contains ls ')' = false) (current rest : List Lexeme) :
    scanTemplate (.group 1) current (ls ++ rest) =
      scanTemplate (.group 1) (current ++ ls) rest := by
  induction ls generalizing current with
  | nil => simp
  | cons l more ih =>
    rw [contains_cons, Bool.or_eq_false_iff] at opens closes
    rw [List.cons_append, scanTemplate]
    simp [opens.1, closes.1, ih opens.2 closes.2]

/-- A reference ends the literal text before it, and new text starts after it. -/
theorem scanTemplate_captured {r : Reference} (fits : r.Fits) (current rest : List Lexeme) :
    scanTemplate .text current ((Piece.captured r).lexemes ++ rest) =
      (scanTemplate .text [] rest).map fun later => addText current (.captured r :: later) := by
  have free {c : Char} (digit : isDigit c = false) (comma : c ≠ ',') :
      contains (r.numbers.map .plain) c = false := by
    rw [contains_plain]
    simpa using r.not_mem_numbers digit comma
  have read : pieceOf (r.body.map .plain) = .ok (.captured r) := by
    rw [pieceOf, unescapeChars_plain, Reference.parse_body fits]
    rfl
  have opened (rest : List Lexeme) : scanTemplate .text current (.plain '&' :: .plain '(' :: rest) =
      (scanTemplate (.group 1) [.plain '('] rest).map (addText current) := rfl
  have closed (current : List Lexeme) : scanTemplate (.group 1) current (.plain ')' :: rest) =
      (do
        let piece ← pieceOf (current ++ [.plain ')'])
        (scanTemplate .text [] rest).map (piece :: ·)) := rfl
  have spread : (Piece.captured r).lexemes ++ rest = .plain '&' :: .plain '(' ::
      (r.numbers.map .plain ++ .plain ')' :: rest) := by
    simp [Piece.lexemes, Reference.chars_eq, Reference.body]
  have gathered : Lexeme.plain '(' :: (r.numbers.map .plain ++ [.plain ')']) =
      r.body.map .plain := by
    simp [Reference.body]
  rw [spread, opened, scanTemplate_group (free (by decide) (by decide))
    (free (by decide) (by decide)), closed, List.cons_append, List.nil_append, List.cons_append,
    gathered, read, ok_bind]
  cases scanTemplate .text [] rest <;> rfl

theorem scanTemplate_pieces {pieces : Template} (alternates : pieces.Alternates) :
    scanTemplate .text [] (pieces.flatMap Piece.lexemes) = .ok pieces := by
  induction pieces with
  | nil => rfl
  | cons p rest ih =>
    cases p with
    | captured r =>
      rw [List.flatMap_cons, scanTemplate_captured alternates.1, ih alternates.2]
      rfl
    | text value =>
      obtain ⟨filled, lone, alternates⟩ := alternates
      have read := scanTemplate_text (contains_quoted value.toList (d := '&') (by decide)) []
      have nonempty : (value.toList.map quoted).isEmpty = false := by simpa using filled
      have kept (later : Template) :
          addText (value.toList.map quoted) later = .text value :: later := by
        rw [addText, nonempty, unescape, unescapeChars_quoted, String.ofList_toList]
        rfl
      rw [List.flatMap_cons, Piece.lexemes, read, List.nil_append]
      cases rest with
      | nil => rw [List.flatMap_nil, scanTemplate, kept]
      | cons next later =>
        cases next with
        | text other => exact absurd rfl (lone other later)
        | captured r =>
          have tail := ih alternates
          rw [List.flatMap_cons, scanTemplate_captured alternates.1] at tail ⊢
          obtain ⟨found, scanned, same⟩ := map_eq_ok.mp tail
          rw [scanned, Except.map, kept]
          exact congrArg (fun pieces => Except.ok (.text value :: pieces)) same

variable {lookup : String → Except GrammarError Lookup} {key : String}

/-- A key without the markers that are looked for first is a template, a wildcard, a
constant or a literal. -/
theorem parseKeyWith_of_contains (more : lex key ≠ [.plain '*'])
    (looks : contains (lex key) '@' = false) (dollar : contains (lex key) '$' = false)
    (opening : contains (lex key) '[' = false) (closing : contains (lex key) ']' = false) :
    parseKeyWith lookup key =
      if contains (lex key) '&' then
        if contains (lex key) '*' then .error ⟨key, .mixedTemplate⟩
        else located key ((scanTemplate .text [] (lex key)).map .template)
      else if contains (lex key) '*' then
        .ok (.star (.ofParts ((splitAt '*' (lex key)).map unescape)))
      else if contains (lex key) '#' then
        if startsWith (lex key) '#' then located key (parseConstant ((lex key).drop 1))
        else .error ⟨key, .misplacedHash⟩
      else .ok (.literal (unescape (lex key))) := by
  simp only [parseKeyWith, if_neg (ne_of_contains looks), if_neg more,
    startsWith_of_contains opening, startsWith_of_contains looks, looks, dollar, opening, closing,
    Bool.false_eq_true, if_false, Bool.or_false]

theorem parseKeyWith_literal {text : String} (lexed : lex key = text.toList.map quoted) :
    parseKeyWith lookup key = .ok (.literal text) := by
  have free {c : Char} (held : c ∈ reserved) : contains (lex key) c = false := by
    rw [lexed]
    exact contains_quoted _ held
  have same : unescape (lex key) = text := by
    rw [lexed, unescape, unescapeChars_quoted, String.ofList_toList]
  rw [parseKeyWith_of_contains (ne_of_contains (free (by decide))) (free (by decide))
    (free (by decide)) (free (by decide)) (free (by decide))]
  simp only [free (c := '&') (by decide), free (c := '*') (by decide),
    free (c := '#') (by decide), Bool.false_eq_true, if_false, same]

theorem parseKeyWith_template {pieces : Template} (wellFormed : pieces.WellFormed)
    (lexed : lex key = pieces.flatMap Piece.lexemes) :
    parseKeyWith lookup key = .ok (.template pieces) := by
  have free {c : Char} (unused : Unused c) : contains (lex key) c = false := by
    rw [lexed]
    exact contains_pieces unused pieces
  have marked : contains (lex key) '&' = true := by
    rw [lexed]
    exact contains_ampersand wellFormed.captures
  have scanned : scanTemplate .text [] (lex key) = .ok pieces := by
    rw [lexed]
    exact scanTemplate_pieces wellFormed.alternates
  rw [parseKeyWith_of_contains (ne_of_contains (free (by decide))) (free (by decide))
    (free (by decide)) (free (by decide)) (free (by decide))]
  simp only [marked, if_true, free (c := '*') (by decide), Bool.false_eq_true, if_false, scanned]
  rfl

private theorem splitAt_of_contains {c : Char} {ls : List Lexeme} (free : contains ls c = false) :
    splitAt c ls = [ls] := by
  induction ls with
  | nil => rfl
  | cons l rest ih =>
    rw [contains_cons, Bool.or_eq_false_iff] at free
    simp [splitAt, free.1, ih free.2]

private theorem splitAt_append {c : Char} {ls : List Lexeme} (free : contains ls c = false)
    (rest : List Lexeme) : splitAt c (ls ++ .plain c :: rest) = ls :: splitAt c rest := by
  induction ls with
  | nil => simp [splitAt]
  | cons l more ih =>
    rw [contains_cons, Bool.or_eq_false_iff] at free
    simp [splitAt, free.1, ih free.2]

theorem splitAt_joined {c : Char} {parts : List (List Lexeme)} (filled : parts ≠ [])
    (free : ∀ part ∈ parts, contains part c = false) : splitAt c (joined c parts) = parts := by
  induction parts with
  | nil => exact absurd rfl filled
  | cons part rest ih =>
    have first := free part (by simp)
    cases rest with
    | nil => exact splitAt_of_contains first
    | cons next rest =>
      have later := ih (by simp) fun other member => free other (by simp [member])
      rw [joined_cons_cons, splitAt_append first, later]

theorem Star.ofParts_parts {pattern : Star} (wellFormed : pattern.WellFormed)
    (more : pattern ≠ .any) : Star.ofParts pattern.parts = pattern := by
  cases pattern with
  | any => exact absurd rfl more
  | single before after => rfl
  | double before middle after =>
    have filled : middle.isEmpty = false := by simpa [Star.WellFormed] using wellFormed
    simp [parts, ofParts, filled]
  | many parts =>
    obtain ⟨several, bare⟩ := wellFormed
    rcases parts with _ | ⟨before, _ | ⟨middle, _ | ⟨after, _ | ⟨further, rest⟩⟩⟩⟩
    · exact absurd several (by decide)
    · exact absurd several (by simp)
    · exact absurd several (by simp)
    · have empty : middle = "" := bare before middle after rfl
      simp [Star.parts, ofParts, empty]
    · rfl

theorem Star.two_le_length_parts {pattern : Star} (wellFormed : pattern.WellFormed) :
    2 ≤ pattern.parts.length := by
  cases pattern with
  | any | single _ _ | double _ _ _ => simp [parts]
  | many parts => exact Nat.le_trans (by decide) wellFormed.1

private theorem Star.splitAt_lexemes {pattern : Star} (wellFormed : pattern.WellFormed) :
    (splitAt '*' pattern.lexemes).map unescape = pattern.parts := by
  have filled : pattern.parts ≠ [] := by
    have several := two_le_length_parts wellFormed
    intro empty
    simp [empty] at several
  rw [lexemes, splitAt_joined (by simpa using filled)]
  · simp [Function.comp_def, unescape]
  · intro part member
    obtain ⟨text, _, rfl⟩ := List.mem_map.mp member
    exact contains_quoted _ (by decide)

theorem parseKeyWith_star {pattern : Star} (wellFormed : pattern.WellFormed)
    (lexed : lex key = pattern.lexemes) : parseKeyWith lookup key = .ok (.star pattern) := by
  have free {c : Char} (held : c ∈ reserved) (star : c ≠ '*') : contains (lex key) c = false := by
    rw [lexed]
    exact pattern.contains_lexemes held star
  by_cases alone : pattern = .any
  · subst alone
    have single : lex key = [.plain '*'] := lexed
    simp [parseKeyWith, single, Lexeme.plain]
  · have read : Star.ofParts ((splitAt '*' (lex key)).map unescape) = pattern := by
      rw [lexed, Star.splitAt_lexemes wellFormed, Star.ofParts_parts wellFormed alone]
    have more : lex key ≠ [.plain '*'] := by
      intro single
      have bare : Star.single "" "" = pattern := by rw [← read, single]; rfl
      rw [← bare] at wellFormed
      simp [Star.WellFormed] at wellFormed
    have marked : contains (lex key) '*' = true := by
      rw [lexed]
      exact contains_joined_mark (by simpa using Star.two_le_length_parts wellFormed)
    rw [parseKeyWith_of_contains more (free (by decide) (by decide)) (free (by decide) (by decide))
      (free (by decide) (by decide)) (free (by decide) (by decide))]
    simp only [free (c := '&') (by decide) (by decide), marked, if_true, read,
      Bool.false_eq_true, if_false]

theorem endsWith_enclosed (first l : Lexeme) (ls : List Lexeme) (c : Char) :
    endsWith (first :: (ls ++ [l])) c = l.is c := by
  simp [endsWith, List.getLast?_cons]

theorem body_enclosed (first l : Lexeme) (ls : List Lexeme) :
    ((first :: (ls ++ [l])).drop 1).dropLast = ls := by
  simp

private theorem parseConstant_enclosed {text : String} (filled : text ≠ "") :
    parseConstant (.plain '(' :: (text.toList.map quoted ++ [.plain ')'])) =
      .ok (.constant text) := by
  have kept : (text.toList.map quoted).isEmpty = false := by simpa using filled
  simp only [parseConstant, startsWith, plain_is, endsWith_enclosed, body_enclosed,
    beq_self_eq_true, Bool.and_self, List.length_cons, List.length_append, List.length_nil,
    Nat.reduceAdd, Nat.le_add_left, decide_true, if_true, kept, Bool.false_eq_true, if_false,
    unescape, unescapeChars_quoted, String.ofList_toList]

theorem parseKeyWith_constant {text : String} (filled : text ≠ "")
    (lexed : lex key = .plain '#' :: .plain '(' :: (text.toList.map quoted ++ [.plain ')'])) :
    parseKeyWith lookup key = .ok (.constant text) := by
  have free {c : Char} (held : c ∈ reserved) (other : c ∉ ['#', '(', ')']) :
      contains (lex key) c = false := by
    simp only [List.mem_cons, List.not_mem_nil, or_false, not_or] at other
    simp [lexed, contains_quoted _ held, Ne.symm other.1, Ne.symm other.2.1, Ne.symm other.2.2]
  have marked : contains (lex key) '#' = true := by simp [lexed]
  have first : startsWith (lex key) '#' = true := by simp [lexed, startsWith]
  have read : parseConstant ((lex key).drop 1) = .ok (.constant text) := by
    rw [lexed, List.drop_one, List.tail_cons, parseConstant_enclosed filled]
  rw [parseKeyWith_of_contains (ne_of_contains (free (by decide) (by decide)))
    (free (by decide) (by decide)) (free (by decide) (by decide)) (free (by decide) (by decide))
    (free (by decide) (by decide))]
  simp only [free (c := '&') (by decide) (by decide), free (c := '*') (by decide) (by decide),
    marked, first, read, located, if_true, Bool.false_eq_true, if_false]

theorem parseKeyWith_captured {r : Reference} (fits : r.Fits)
    (lexed : lex key = (r.chars '$').map .plain) :
    parseKeyWith lookup key = .ok (.captured r) := by
  have free {c : Char} (unused : Unused c) (dollar : c ≠ '$') : contains (lex key) c = false := by
    rw [lexed]
    exact contains_plain_eq_false (r.not_mem_chars unused dollar)
  have marked : contains (lex key) '$' = true := by simp [lexed, Reference.chars_eq]
  have first : startsWith (lex key) '$' = true := by
    simp [lexed, Reference.chars_eq, startsWith]
  have read : Reference.parse '$' (unescapeChars ((lex key).drop 1)) = .ok r := by
    rw [lexed, Reference.chars_eq, List.map_cons, List.drop_one, List.tail_cons,
      unescapeChars_plain, Reference.parse_body fits]
  simp only [parseKeyWith, if_neg (ne_of_contains (free (c := '@') (by decide) (by decide))),
    if_neg (ne_of_contains (free (c := '*') (by decide) (by decide))),
    startsWith_of_contains (free (c := '[') (by decide) (by decide)),
    startsWith_of_contains (free (c := '@') (by decide) (by decide)),
    free (c := '@') (by decide) (by decide), marked, first, read, if_true,
    Bool.false_eq_true, if_false]
  rfl

/-- A key in brackets is read by what stands between them. -/
theorem parseKeyWith_brackets (body : List Lexeme)
    (lexed : lex key = .plain '[' :: (body ++ [.plain ']']))
    (opening : contains body '[' = false) (closing : contains body ']' = false) :
    parseKeyWith lookup key = (parseIndexBody lookup key body).map .step := by
  have first : startsWith (lex key) '[' = true := by simp [lexed, startsWith]
  have last : endsWith (lex key) ']' = true := by rw [lexed, endsWith_enclosed]; rfl
  have opens : count (lex key) '[' = 1 := by
    have further := count_eq_zero.mpr opening
    simp only [count] at further
    simp [lexed, count, further]
  have closes : count (lex key) ']' = 1 := by
    have further := count_eq_zero.mpr closing
    simp only [count] at further
    simp [lexed, count, further]
  have shape : (decide (count (lex key) '[' ≠ 1) || decide (count (lex key) ']' ≠ 1) ||
      !endsWith (lex key) ']') = false := by
    simp [opens, closes, last]
  have alone {c : Char} : lex key ≠ [.plain c] := by simp [lexed]
  simp only [parseKeyWith, if_neg alone, first, if_true, parseIndex, shape, Bool.false_eq_true,
    if_false]
  rw [lexed, body_enclosed]

theorem parseIndexBody_item {index : Nat} (fits : index < wordBound) :
    parseIndexBody lookup key ((natChars index).map .plain) = .ok (.plain (.item index)) := by
  have free {c : Char} (digit : isDigit c = false) :
      startsWith ((natChars index).map .plain) c = false :=
    startsWith_of_contains (contains_plain_eq_false (not_mem_natChars digit index))
  have filled : ((natChars index).map Lexeme.plain).isEmpty = false := by
    simp [natChars_ne_nil]
  have unsigned : (natChars index).head? ≠ some '-' := fun first =>
    not_mem_natChars (by decide) index (List.mem_of_mem_head? first)
  simp only [parseIndexBody, filled, free (c := '&') (by decide), free (c := '#') (by decide),
    free (c := '@') (by decide), unescapeChars_plain, unsigned, readIndexChars_natChars fits,
    Bool.false_eq_true, if_false]

private theorem parseIndexBody_counter {level : Nat} (fits : level < wordBound) :
    parseIndexBody lookup key ((counterChars level).map .plain) = .ok (.plain (.counter level)) := by
  have read := parseCounter_chars fits
  have first : counterChars level = '#' :: (counterChars level).drop 1 := rfl
  rw [first, List.map_cons]
  simp only [parseIndexBody, List.isEmpty_cons, startsWith, plain_is, unescapeChars, List.map_cons,
    List.drop_succ_cons, List.drop_zero]
  rw [← unescapeChars, unescapeChars_plain, read]
  rfl

private theorem parseIndexBody_captured {r : Reference} (fits : r.Fits) :
    parseIndexBody lookup key ((r.chars '&').map .plain) = .ok (.plain (.captured r)) := by
  rw [Reference.chars_eq, List.map_cons]
  simp only [parseIndexBody, List.isEmpty_cons, startsWith, plain_is, unescapeChars, List.map_cons,
    List.drop_succ_cons, List.drop_zero]
  rw [← unescapeChars, unescapeChars_plain, Reference.parse_body fits]
  rfl

/-- A step without lookups is read from its canonical form, whatever reads the lookups. -/
theorem parseKeyWith_plain {s : PlainStep} (wellFormed : s.WellFormed)
    (lexed : lex key = s.lexemes) : parseKeyWith lookup key = .ok (.step (.plain s)) := by
  cases s with
  | key text => exact parseKeyWith_literal lexed
  | template pieces => exact parseKeyWith_template wellFormed lexed
  | item index =>
    have free {c : Char} (digit : isDigit c = false) :
        contains ((natChars index).map .plain) c = false :=
      contains_plain_eq_false (not_mem_natChars digit index)
    rw [parseKeyWith_brackets ((natChars index).map .plain)
      (by simp [lexed, PlainStep.lexemes, PlainStep.chars]) (free (by decide)) (free (by decide)),
      parseIndexBody_item wellFormed]
    rfl
  | counter level =>
    have free {c : Char} (digit : isDigit c = false) (other : c ∉ ['#', '(', ')']) :
        contains ((counterChars level).map .plain) c = false := by
      simp only [List.mem_cons, List.not_mem_nil, or_false, not_or] at other
      apply contains_plain_eq_false
      simp [counterChars, not_mem_natChars digit, other]
    rw [parseKeyWith_brackets ((counterChars level).map .plain)
      (by simp [lexed, PlainStep.lexemes, PlainStep.chars]) (free (by decide) (by decide))
      (free (by decide) (by decide)), parseIndexBody_counter wellFormed]
    rfl
  | captured r =>
    have free {c : Char} (unused : Unused c) : contains ((r.chars '&').map .plain) c = false :=
      contains_plain_eq_false (r.not_mem_chars unused unused.ne_ampersand)
    rw [parseKeyWith_brackets ((r.chars '&').map .plain)
      (by simp [lexed, PlainStep.lexemes, PlainStep.chars]) (free (by decide)) (free (by decide)),
      parseIndexBody_captured wellFormed]
    rfl

end Reshape.Key
