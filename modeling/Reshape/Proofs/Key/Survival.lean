import Reshape.Proofs.Key.Enclosures

/-! Which paths survive their canonical form. A sealed lookup is read back. One that is not
sealed either ends at a point inside its path, and what is read is a shorter lookup; or it
goes on past its end, and what is read has a parenthesis too many in one of its keys. So a
path comes back as it was if and only if its lookups are sealed. -/

namespace Reshape.Key

open Decimal Outcome

variable {lookup : String → Except GrammarError Lookup} {key : String}

/-- Lexemes that are read again as they are written out. -/
def Settled (ls : List Lexeme) : Prop :=
  contains ls '\\' = false ∧ ∀ l ∈ ls, l.settle = l

theorem Settled.lex_reescape {ls : List Lexeme} (settled : Settled ls) :
    lex (reescape ls) = ls := by
  rw [Key.lex_reescape settled.1]
  exact (List.map_congr_left settled.2).trans (List.map_id ls)

theorem Settled.of_subset {ls ms : List Lexeme} (settled : Settled ms) (subset : ls ⊆ ms) :
    Settled ls :=
  ⟨contains_of_subset settled.1 subset, fun l member => settled.2 l (subset member)⟩

theorem settled_lex_reescape {ls : List Lexeme} (read : contains ls '\\' = false) :
    Settled (lex (reescape ls)) := by
  refine ⟨contains_lexChars_backslash _, fun l member => ?_⟩
  rw [Key.lex_reescape read] at member
  obtain ⟨source, -, rfl⟩ := List.mem_map.mp member
  simp [Lexeme.settle]

theorem Spells.settled {cs : List Char} {ls : List Lexeme} (spelled : Spells cs ls) :
    Settled ls := by
  have slashes : contains ls '\\' = false := by
    rw [← spelled.lexChars_eq]
    exact contains_lexChars_backslash cs
  have same := settled_lex_reescape slashes
  rwa [spelled.lex_reescape_eq] at same

/-- What is read of a segment already stays in front. -/
theorem splitSegments_starts {mode : SegmentMode} {current ls : List Lexeme}
    {parts : List (List Lexeme)} (read : splitSegments mode current ls = .ok parts)
    (filled : current ≠ []) : ∃ more later, parts = (current ++ more) :: later := by
  have kept (more : List Lexeme) (later : List (List Lexeme)) :
      addSegment (current ++ more) later = (current ++ more) :: later := by
    simp [addSegment, filled]
  induction ls generalizing mode current with
  | nil =>
    cases mode with
    | plain | «at» =>
      cases read
      exact ⟨[], [], by simpa using kept [] []⟩
    | group depth => cases read
    | bare =>
      cases read
      exact ⟨[.plain ')'], [], kept _ _⟩
  | cons l rest ih =>
    have extended {added : List Lexeme} {mode : SegmentMode}
        (read : splitSegments mode (current ++ added) rest = .ok parts) :
        ∃ more later, parts = (current ++ more) :: later := by
      obtain ⟨more, later, same⟩ := ih read (by simp [filled]) (by simp [addSegment, filled])
      exact ⟨added ++ more, later, by rw [same, List.append_assoc]⟩
    have flushed (added : List Lexeme)
        (read : (splitSegments .plain [] rest).map (addSegment (current ++ added)) = .ok parts) :
        ∃ more later, parts = (current ++ more) :: later := by
      obtain ⟨later, -, rfl⟩ := map_eq_ok.mp read
      exact ⟨added, later, kept added later⟩
    cases mode with
    | plain =>
      simp only [splitSegments] at read
      split at read
      · exact flushed [] (by simpa using read)
      · split at read <;> exact extended read
    | «at» =>
      simp only [splitSegments] at read
      split at read
      · exact extended read
      · split at read
        · cases read
        · split at read <;> exact extended read
    | group depth =>
      simp only [splitSegments] at read
      split at read
      · exact extended read
      · split at read
        · split at read <;> exact extended read
        · exact extended read
    | bare =>
      simp only [splitSegments] at read
      split at read
      · exact flushed _ read
      · split at read
        · exact extended read
        · exact extended read

/-- The first point of some lexemes. -/
theorem exists_point {ls : List Lexeme} (marked : contains ls '.' = true) :
    ∃ before after, ls = before ++ .plain '.' :: after ∧ contains before '.' = false := by
  induction ls with
  | nil => cases marked
  | cons l rest ih =>
    by_cases point : l.is '.' = true
    · exact ⟨[], rest, by rw [is_eq_true point]; rfl, rfl⟩
    · rw [contains_cons, Bool.or_eq_true] at marked
      obtain ⟨before, after, rfl, free⟩ := ih (marked.resolve_left point)
      exact ⟨l :: before, after, rfl, by simp [point, free]⟩

/-- How the first segment of a path goes wrong: it ends at a point of the lookup, or goes on
past its end. -/
inductive Strays (l : Lookup) (front tail : List Lexeme) : List Lexeme → Prop where
  | early {short rest : List Lexeme}
      (whole : l.inner ++ [.plain ')'] = short ++ .plain '.' :: rest) :
      Strays l front tail (front ++ .plain '@' :: .plain '(' :: short)
  | late {past rest more : List Lexeme} (whole : tail = past ++ [.plain ')'] ++ rest) :
      Strays l front tail (front ++ l.lexemes ++ (past ++ [.plain ')'] ++ more))

/-- A lookup that is not sealed does not keep to its segment. -/
theorem strays_of_split {l : Lookup} (unsealed : l.isSealed = false) {front tail : List Lexeme}
    {parts : List (List Lexeme)}
    (read : splitSegments .plain front (l.lexemes ++ tail) = .ok parts) :
    ∃ part later, parts = part :: later ∧ Strays l front tail part := by
  have spread : l.inner ++ .plain ')' :: tail = l.inner ++ [.plain ')'] ++ tail := by simp
  rw [splitSegments_lookup, spread, splitSegments_group] at read
  cases closed : closing 1 (l.inner ++ [.plain ')']) with
  | some found =>
    obtain ⟨inner, after⟩ := found
    have marked : contains after '.' = true := by
      simpa [Lookup.isSealed, closed] using unsealed
    obtain ⟨before, rest, rfl, free⟩ := exists_point marked
    have whole := (closing_spec closed).1
    have looks : contains before '@' = false := by
      have absent : contains (l.inner ++ [.plain ')']) '@' = false := by
        simp [l.contains_inner_at]
      rw [whole, contains_append, contains_append, Bool.or_eq_false_iff, Bool.or_eq_false_iff]
        at absent
      exact absent.2.1
    rw [closing_append closed] at read
    dsimp only at read
    rw [List.append_assoc before, splitSegments_of_contains free looks] at read
    simp only [List.cons_append, splitSegments, plain_is, beq_self_eq_true, if_true] at read
    obtain ⟨later, -, rfl⟩ := map_eq_ok.mp read
    have split : l.inner ++ [.plain ')'] = inner ++ before ++ .plain '.' :: rest := by simp [whole]
    refine ⟨_, later, ?_, .early split⟩
    simp [addSegment]
  | none =>
    obtain ⟨inside, further⟩ := closing_open closed
    rw [further] at read
    cases found : closing inside tail with
    | none =>
      rw [found] at read
      cases read
    | some pair =>
      obtain ⟨past, rest⟩ := pair
      rw [found] at read
      obtain ⟨whole, within, rfl⟩ := closing_spec found
      obtain ⟨more, later, rfl⟩ := splitSegments_starts read (by simp)
      refine ⟨_, later, ?_, @Strays.late l front tail within rest more whole⟩
      simp [Lookup.lexemes]

theorem count_append (ls ms : List Lexeme) (c : Char) :
    count (ls ++ ms) c = count ls c + count ms c :=
  List.countP_append

theorem length_splitSegments {ls current : List Lexeme} {parts : List (List Lexeme)}
    (looks : contains ls '@' = false) (read : splitSegments .plain current ls = .ok parts) :
    parts.length ≤ count ls '.' + 1 := by
  have bound (segment : List Lexeme) (later : List (List Lexeme)) :
      (addSegment segment later).length ≤ later.length + 1 := by
    unfold addSegment
    split <;> simp
  induction ls generalizing current parts with
  | nil =>
    cases read
    exact bound current []
  | cons l rest ih =>
    rw [contains_cons, Bool.or_eq_false_iff] at looks
    simp only [splitSegments, looks.1, Bool.false_eq_true, if_false] at read
    split at read
    · rename_i point
      obtain ⟨later, found, rfl⟩ := map_eq_ok.mp read
      have shorter := ih looks.2 found
      have longer := bound current later
      simp only [count, List.countP_cons, point, if_true] at shorter ⊢
      omega
    · rename_i point
      have same := ih looks.2 read
      simpa [count, List.countP_cons, point] using same

theorem count_pathLexemes (path : List PlainStep) :
    count (pathLexemes path) '.' + 1 ≤ max path.length 1 := by
  have free (s : PlainStep) : count s.lexemes '.' = 0 :=
    count_eq_zero.mpr (s.contains_lexemes (by decide) (by decide))
  induction path with
  | nil => simp [pathLexemes, joined, count]
  | cons s rest ih =>
    cases rest with
    | nil => simp [pathLexemes, joined, free]
    | cons next rest =>
      have whole : pathLexemes (s :: next :: rest) =
          s.lexemes ++ .plain '.' :: pathLexemes (next :: rest) := rfl
      have point : count (.plain '.' :: pathLexemes (next :: rest)) '.' =
          count (pathLexemes (next :: rest)) '.' + 1 := by
        simp [count]
      rw [whole, count_append, free, point]
      simp only [List.length_cons] at ih ⊢
      omega

/-- What stands in parentheses has no at sign and ends before the last of them. -/
theorem lookupBody_eq_ok {ls body : List Lexeme} (read : lookupBody (.plain '(' :: ls) = .ok body) :
    ls = body ++ [.plain ')'] ∧ contains body '@' = false := by
  simp only [lookupBody] at read
  split at read
  · cases read
  rename_i looks
  split at read
  · cases read
  rw [if_pos (by rfl)] at read
  split at read
  · cases read
  rename_i shape
  split at read
  · cases read
  cases read
  obtain rfl | ⟨inner, l, rfl⟩ := List.eq_nil_or_concat ls
  · simp at shape
  rw [List.concat_eq_append] at shape looks ⊢
  rw [endsWith_enclosed] at shape
  have ends : l.is ')' = true := by
    by_contra other
    simp [other] at shape
  obtain rfl := is_eq_true ends
  rw [body_enclosed]
  simp only [contains_cons, contains_append, Bool.not_eq_true, Bool.or_eq_false_iff] at looks
  exact ⟨rfl, looks.2.1⟩

/-- What is known of a lookup that was read from parentheses. -/
theorem Lookup.parse_enclosed {l : Lookup} {ls : List Lexeme}
    (lexed : lex key = .plain '@' :: .plain '(' :: ls) (read : Lookup.parse key = .ok l) :
    ∃ body, ls = body ++ [.plain ')'] ∧ contains body '@' = false ∧
      ∃ rest, splitLevel body = .ok (l.level, rest) ∧
        (rest = [] ∧ l.path = [] ∨
          parseStepsWith refuseLookup (reescape rest) = .ok (l.path.map .plain)) := by
  obtain ⟨alone, -⟩ | ⟨ls', body, rest, lexed', inner, leveled, path⟩ := parse_spec read
  · cases lexed.symm.trans alone
  · cases lexed.symm.trans lexed'
    obtain ⟨whole, looks⟩ := lookupBody_eq_ok inner
    exact ⟨body, whole, looks, rest, leveled, path⟩

/-- A point is added in front of a bracket at most, whatever comes after it. -/
theorem spreadBrackets_cons (depth : Nat) (before : Option Lexeme) (l : Lexeme) :
    (∀ rest, spreadBrackets depth before (l :: rest) =
      l :: spreadBrackets (depthAfter depth l) (some l) rest) ∨
    l = .plain '[' ∧ ∀ rest, spreadBrackets depth before (l :: rest) =
      .plain '.' :: l :: spreadBrackets (depthAfter depth l) (some l) rest := by
  cases before with
  | none => exact .inl fun rest => by simp [spreadBrackets, depthAfter]
  | some b =>
    by_cases bracket : (l.is '[' && depth == 0 && !(b.is '.' || b.is '@')) = true
    · refine .inr ⟨?_, fun rest => by simp only [spreadBrackets, depthAfter, if_pos bracket]⟩
      simp only [Bool.and_eq_true] at bracket
      exact is_eq_true bracket.1.1
    · exact .inl fun rest => by simp only [spreadBrackets, depthAfter, if_neg bracket]

/-- Where no points are added to some lexemes, none are added to their beginning. -/
theorem spreadBrackets_of_append {ls ms : List Lexeme} {depth : Nat} {before : Option Lexeme}
    (kept : spreadBrackets depth before (ls ++ ms) = ls ++ ms) :
    spreadBrackets depth before ls = ls := by
  induction ls generalizing depth before with
  | nil => rfl
  | cons l rest ih =>
    rw [List.cons_append] at kept
    rcases spreadBrackets_cons depth before l with same | ⟨rfl, same⟩
    · rw [same] at kept ⊢
      rw [ih (List.cons.inj kept).2]
    · rw [same] at kept
      cases (List.cons.inj kept).1

/-- What is read of a lookup that ends at a point of its path. -/
theorem Lookup.split_inner {l : Lookup} {body rest : List Lexeme}
    (whole : l.inner ++ [.plain ')'] = body ++ [.plain ')'] ++ .plain '.' :: rest) :
    ∃ path cut, body = (natChars l.level).map .plain ++ .plain ',' :: path ∧
      pathLexemes l.path = path ++ .plain ')' :: .plain '.' :: cut := by
  obtain rfl | ⟨cut, last, rfl⟩ := List.eq_nil_or_concat rest
  · have ends := congrArg List.getLast? whole
    simp [Lexeme.plain] at ends
  · have shorter : l.inner = body ++ .plain ')' :: .plain '.' :: cut := by
      have split : l.inner ++ [.plain ')'] = body ++ .plain ')' :: .plain '.' :: cut ++ [last] := by
        simpa using whole
      exact (List.append_inj' split rfl).1
    rw [inner] at shorter
    rcases List.append_eq_append_iff.mp shorter with ⟨more, same, later⟩ | ⟨more, same, later⟩
    · cases more with
      | nil => cases later
      | cons comma path =>
        rw [List.cons_append] at later
        obtain ⟨rfl, tail⟩ := List.cons.inj later
        exact ⟨path, cut, same, tail⟩
    · cases more with
      | nil => cases later
      | cons closing more =>
        obtain ⟨rfl, -⟩ := List.cons.inj later
        have member : Lexeme.plain ')' ∈ (natChars l.level).map Lexeme.plain := by simp [same]
        exact absurd (isPlainDigit_of_mem _ member) (by decide)

/-- A lookup that ends at a point of its path is read with a shorter path. -/
theorem Lookup.parse_early {l : Lookup} (wellFormed : l.WellFormed) {short rest : List Lexeme}
    (whole : l.inner ++ [.plain ')'] = short ++ .plain '.' :: rest)
    (lexed : lex key = .plain '@' :: .plain '(' :: short) : Lookup.parse key ≠ .ok l := by
  intro read
  obtain ⟨body, rfl, -, path, leveled, steps⟩ := parse_enclosed lexed read
  obtain ⟨written, cut, rfl, same⟩ := split_inner whole
  rw [splitLevel_natChars wellFormed.fits] at leveled
  cases leveled
  have spread : spreadBrackets 0 none path = path := by
    have kept : spreadBrackets 0 none (path ++ .plain ')' :: .plain '.' :: cut) =
        path ++ .plain ')' :: .plain '.' :: cut := by
      rw [← same]
      exact (pathLexemes_kept l.path (.inl (.inl rfl))).spreadBrackets_eq
    exact spreadBrackets_of_append kept
  have settled : Settled path := (PlainStep.spells_path l.path).settled.of_subset (by simp [same])
  rcases steps with ⟨rfl, bare⟩ | found
  · rw [bare] at same
    cases same
  · obtain ⟨parts, split, related⟩ := parseStepsWith_eq_ok.mp found
    rw [settled.lex_reescape, spread] at split
    have looks : contains path '@' = false := by
      have absent : contains (joined '.' (l.path.map PlainStep.lexemes)) '@' = false :=
        contains_joined (by decide)
          (by simpa using fun s _ => s.contains_lexemes (by decide) (by decide))
      rw [← pathLexemes, same] at absent
      exact contains_of_subset absent (by simp)
    have fewer := length_splitSegments looks split
    have points := count_pathLexemes l.path
    have lengths := related.length_eq
    rw [same, count_append] at points
    simp [count] at fewer points lengths
    omega

def Template.followed (value : String) : Template → Template
  | [] => [.text value]
  | [.text before] => [.text (before ++ value)]
  | p :: rest => p :: followed value rest

namespace Template

variable {pieces : Template} {value : String}

theorem lexemes_followed (value : String) (pieces : Template) :
    (pieces.followed value).flatMap Piece.lexemes =
      pieces.flatMap Piece.lexemes ++ value.toList.map quoted := by
  fun_induction followed value pieces with
  | case1 => simp [Piece.lexemes]
  | case2 before => simp [Piece.lexemes]
  | case3 p rest other ih => simp [ih]

theorem followed_ne (filled : value ≠ "") (pieces : Template) : pieces.followed value ≠ pieces := by
  fun_induction followed value pieces with
  | case1 => simp
  | case2 before => simpa using filled
  | case3 p rest other ih => simpa using ih

private theorem alternates_followed (filled : value ≠ "") (alternates : pieces.Alternates) :
    (pieces.followed value).Alternates := by
  fun_induction followed value pieces with
  | case1 => exact ⟨filled, by simp, trivial⟩
  | case2 before => exact ⟨by simp [filled], by simp, trivial⟩
  | case3 p rest other ih =>
    cases p with
    | captured r => exact ⟨alternates.1, ih alternates.2⟩
    | text before =>
      obtain ⟨kept, lone, alternates⟩ := alternates
      refine ⟨kept, ?_, ih alternates⟩
      intro text later same
      match rest, lone, other with
      | [], _, other => exact other before rfl rfl
      | .text next :: rest, lone, _ => exact lone next rest rfl
      | .captured r :: rest, _, _ => simp [followed] at same

theorem wellFormed_followed (filled : value ≠ "") (wellFormed : pieces.WellFormed) :
    (pieces.followed value).WellFormed where
  alternates := alternates_followed filled wellFormed.alternates
  captures := by
    obtain ⟨r, member⟩ := wellFormed.captures
    refine ⟨r, ?_⟩
    clear wellFormed
    fun_induction followed value pieces with
    | case1 => cases member
    | case2 before => simp at member
    | case3 p rest other ih =>
      rcases List.mem_cons.mp member with rfl | member
      · simp
      · simp [ih member]

end Template

/-- A key that starts with a bracket and is a step has one closing bracket, at its end. -/
theorem bracketed_of_parse {s : Step} (read : parseKeyWith lookup key = .ok (.step s))
    (opened : startsWith (lex key) '[' = true) :
    count (lex key) ']' = 1 ∧ endsWith (lex key) ']' = true := by
  have other {c : Char} (free : c ≠ '[') : lex key ≠ [.plain c] := by
    intro alone
    simp [alone, startsWith, free] at opened
  simp only [parseKeyWith, if_neg (other (c := '@') (by decide)),
    if_neg (other (c := '*') (by decide)), opened, if_true] at read
  obtain ⟨found, read, -⟩ := map_eq_ok.mp read
  unfold parseIndex at read
  split at read
  · cases read
  · rename_i shape
    simp only [Bool.or_eq_true, not_or, decide_eq_true_eq, not_not, Bool.not_eq_true,
      Bool.not_eq_false'] at shape
    exact ⟨shape.1.2, shape.2⟩

theorem endsWith_append_singleton (ls : List Lexeme) (l : Lexeme) (c : Char) :
    endsWith (ls ++ [l]) c = l.is c := by
  simp [endsWith]

theorem contains_of_endsWith {ls ms : List Lexeme} {c : Char} (filled : ms ≠ [])
    (ends : endsWith (ls ++ ms) c = true) : contains ms c = true := by
  obtain rfl | ⟨init, l, rfl⟩ := List.eq_nil_or_concat ms
  · exact absurd rfl filled
  · rw [List.concat_eq_append, ← List.append_assoc, endsWith_append_singleton] at ends
    simp [ends]

/-- With a parenthesis after it a step is not read as it was. -/
theorem parseKeyWith_followed {s : PlainStep} (wellFormed : s.WellFormed)
    (lexed : lex key = s.lexemes ++ [.plain ')']) :
    parseKeyWith lookup key ≠ .ok (.step (.plain s)) := by
  have closing : (")" : String).toList.map quoted = [.plain ')'] := rfl
  have bracket (body : List Char) (shape : s.lexemes = .plain '[' :: (body ++ [']']).map .plain) :
      parseKeyWith lookup key ≠ .ok (.step (.plain s)) := by
    intro read
    have opened : startsWith (lex key) '[' = true := by rw [lexed, shape]; rfl
    have ends := (bracketed_of_parse read opened).2
    rw [lexed, endsWith_append_singleton] at ends
    simp at ends
  cases s with
  | key text =>
    have longer : lex key = (text ++ ")").toList.map quoted := by
      rw [lexed, String.toList_append, List.map_append, closing]
      rfl
    rw [parseKeyWith_literal longer]
    intro same
    simp at same
  | template pieces =>
    have longer : lex key = (pieces.followed ")").flatMap Piece.lexemes := by
      rw [lexed, Template.lexemes_followed, closing]
      rfl
    rw [parseKeyWith_template (Template.wellFormed_followed (by decide) wellFormed) longer]
    intro same
    simp only [Except.ok.injEq, Element.step.injEq, Step.plain.injEq, PlainStep.template.injEq]
      at same
    exact Template.followed_ne (by decide) pieces same
  | item index => exact bracket (natChars index) (by simp [PlainStep.lexemes, PlainStep.chars])
  | counter level => exact bracket (counterChars level) (by simp [PlainStep.lexemes, PlainStep.chars])
  | captured r => exact bracket (r.chars '&') (by simp [PlainStep.lexemes, PlainStep.chars])

/-- The segments of a path with a parenthesis after its last step. -/
theorem splitSegments_followed {path : List PlainStep} {s : PlainStep}
    (wellFormed : ∀ t ∈ path ++ [s], t.WellFormed) (named : ∀ t ∈ path ++ [s], t ≠ .key "")
    (rest : List Lexeme) :
    splitSegments .plain [] (pathLexemes (path ++ [s]) ++ .plain ')' :: .plain '.' :: rest) =
      (splitSegments .plain [] rest).map fun later =>
        path.map PlainStep.lexemes ++ (s.lexemes ++ [.plain ')']) :: later := by
  have through (t : PlainStep) (rest : List Lexeme) :
      splitSegments .plain [] (t.lexemes ++ rest) = splitSegments .plain t.lexemes rest :=
    splitSegments_of_contains (t.contains_lexemes (by decide) (by decide))
      (t.contains_lexemes (by decide) (by decide)) [] rest
  induction path with
  | nil =>
    have kept (later : List (List Lexeme)) :
        addSegment (s.lexemes ++ [.plain ')']) later = (s.lexemes ++ [.plain ')']) :: later := by
      simp [addSegment]
    rw [List.nil_append, pathLexemes, List.map_singleton, joined, through]
    simp only [splitSegments, plain_is]
    rw [funext kept]
    rfl
  | cons t path ih =>
    have later := ih (fun u member => wellFormed u (by simp [member]))
      (fun u member => named u (by simp [member]))
    have filled : t.lexemes.isEmpty = false := by
      simpa using t.lexemes_ne_nil (wellFormed t (by simp)) (named t (by simp))
    have whole : pathLexemes (t :: path ++ [s]) =
        t.lexemes ++ .plain '.' :: pathLexemes (path ++ [s]) := by
      cases path <;> rfl
    rw [whole, List.append_assoc, through]
    simp only [List.cons_append, splitSegments, plain_is, beq_self_eq_true, if_true, later]
    cases splitSegments .plain [] rest with
    | error fault => rfl
    | ok found => simp [Except.map, addSegment, filled]

/-- What is read of a lookup that goes on past its end. -/
theorem Lookup.split_past {l : Lookup} {body rest : List Lexeme}
    (whole : l.inner ++ .plain ')' :: .plain '.' :: rest = body ++ [.plain ')']) :
    ∃ past, body = (natChars l.level).map .plain ++
      .plain ',' :: (pathLexemes l.path ++ .plain ')' :: .plain '.' :: past) := by
  obtain rfl | ⟨past, last, rfl⟩ := List.eq_nil_or_concat rest
  · have ends := congrArg List.getLast? whole
    simp [Lexeme.plain] at ends
  · have split : l.inner ++ .plain ')' :: .plain '.' :: past ++ [last] = body ++ [.plain ')'] := by
      simpa using whole
    refine ⟨past, ?_⟩
    rw [← (List.append_inj' split rfl).1, inner]
    simp

/-- No point is added to a path with a parenthesis after its last step. -/
theorem spreadBrackets_followed (path : List PlainStep) (past : List Lexeme) :
    ∃ depth before, spreadBrackets 0 none (pathLexemes path ++ .plain ')' :: .plain '.' :: past) =
      pathLexemes path ++ .plain ')' :: .plain '.' :: spreadBrackets depth before past := by
  have first : Kept 0 none (pathLexemes path) := pathLexemes_kept path (.inl (.inl rfl))
  have kept : Kept 0 none (pathLexemes path ++ [.plain ')', .plain '.']) :=
    first.append fun _ _ => .of_contains rfl
  obtain ⟨depth, before, same⟩ := kept past
  exact ⟨depth, before, by simpa using same⟩

/-- A lookup that goes on past its end is not read as it was. -/
theorem Lookup.parse_late {l : Lookup} (wellFormed : l.WellFormed) (filled : l.path ≠ [])
    {rest : List Lexeme} (settled : Settled (lex key))
    (lexed : lex key = l.lexemes ++ .plain '.' :: rest) : Lookup.parse key ≠ .ok l := by
  intro read
  have spread : lex key = .plain '@' :: .plain '(' :: (l.inner ++ .plain ')' :: .plain '.' :: rest) := by
    rw [lexed]
    simp [lexemes]
  obtain ⟨body, whole, -, path, leveled, steps⟩ := parse_enclosed spread read
  obtain ⟨past, rfl⟩ := split_past whole
  rw [splitLevel_natChars wellFormed.fits] at leveled
  cases leveled
  obtain ⟨init, s, same⟩ : ∃ init s, l.path = init ++ [s] := by
    obtain empty | ⟨init, s, same⟩ := List.eq_nil_or_concat l.path
    · exact absurd empty filled
    · exact ⟨init, s, by rw [same, List.concat_eq_append]⟩
  rcases steps with ⟨-, bare⟩ | found
  · exact filled bare
  obtain ⟨parts, split, related⟩ := parseStepsWith_eq_ok.mp found
  have subset : pathLexemes l.path ++ .plain ')' :: .plain '.' :: past ⊆ lex key := by
    rw [spread, whole]
    exact fun d member => List.mem_cons_of_mem _ (List.mem_cons_of_mem _
      (List.mem_append_left _ (List.mem_append_right _ (List.mem_cons_of_mem _ member))))
  obtain ⟨depth, before, kept⟩ := spreadBrackets_followed l.path past
  rw [(settled.of_subset subset).lex_reescape, kept, same,
    splitSegments_followed (same ▸ wellFormed.steps) (same ▸ wellFormed.named)] at split
  obtain ⟨later, -, rfl⟩ := map_eq_ok.mp split
  rw [same, List.map_append] at related
  have last := List.forall₂_drop_append _ _ _ related
  rw [List.length_map, ← List.length_map (f := PlainStep.lexemes), List.drop_left] at last
  cases last with
  | cons read _ =>
    refine parseKeyWith_followed (wellFormed.steps s (by simp [same])) ?_ read
    exact (s.spells.append (.plain (show '\\' ∉ [')'] by decide))).lex_reescape_eq

/-- What comes after a step in the canonical text of a path. -/
def Follows (tail : List Lexeme) : Prop :=
  tail = [] ∨ ∃ rest, tail = .plain '.' :: rest

private theorem Lookup.path_ne_nil {l : Lookup} (unsealed : l.isSealed = false) : l.path ≠ [] := by
  intro empty
  have holds := l.isSealed_of_neutral (neutral_inner (by simp [empty]))
  simp [unsealed] at holds

/-- A key with the lexemes of a lookup is read as one. -/
theorem parse_lookup_of_lexed {l : Lookup} {ls : List Lexeme}
    (lexed : lex key = .plain '@' :: .plain '(' :: ls)
    (read : Element.parse key = .ok (.step (.lookup l))) : Lookup.parse key = .ok l := by
  simp only [Element.parse, parseKeyWith, lexed] at read
  rw [if_neg (by simp), if_neg (by simp), if_neg (by simp [startsWith]),
    if_pos (by simp [startsWith])] at read
  obtain ⟨found, read, same⟩ := map_eq_ok.mp read
  cases same
  exact read

/-- A lookup that is not sealed is not read back. -/
theorem not_yields_lookup {l : Lookup} (wellFormed : l.WellFormed) (unsealed : l.isSealed = false)
    {tail : List Lexeme} (follows : Follows tail) (clean : contains tail '\\' = false)
    (path : Path) : ¬ Yields (l.lexemes ++ tail) (.lookup l :: path) := by
  rintro ⟨parts, split, related⟩
  have settled := l.spells.settled
  have slashes := splitSegments_spec (c := '\\') (by decide) (by decide) split rfl
    (by simp [settled.1, clean])
  obtain ⟨part, later, rfl, strays⟩ := strays_of_split unsealed split
  have free := (slashes part (by simp)).2
  have again := settled_lex_reescape free
  cases related with
  | cons read _ =>
  cases strays with
  | @early short rest whole =>
    rw [List.nil_append] at read
    have lexed : lex (reescape (.plain '@' :: .plain '(' :: short)) =
        .plain '@' :: .plain '(' :: short := by
      refine (settled.of_subset ?_).lex_reescape
      rw [Lookup.lexemes, whole]
      exact List.cons_subset_cons _ (List.cons_subset_cons _ (List.subset_append_left _ _))
    exact Lookup.parse_early wellFormed whole lexed (parse_lookup_of_lexed lexed read)
  | @late past rest more whole =>
    obtain ⟨within, rfl⟩ : ∃ within, past = .plain '.' :: within := by
      rcases follows with rfl | ⟨rest', rfl⟩
      · simp at whole
      · cases past with
        | nil => cases whole
        | cons l within => exact ⟨within, by rw [(List.cons.inj whole).1]⟩
    rw [List.nil_append] at read free again
    have lexed := lex_reescape free
    rw [List.map_append, List.map_congr_left settled.2, List.map_id'] at lexed
    exact Lookup.parse_late wellFormed (Lookup.path_ne_nil unsealed) again lexed
      (parse_lookup_of_lexed (by rw [lexed, Lookup.lexemes]; rfl) read)

/-- An index with a lookup that is not sealed is not read back: its closing bracket is left
out, or it is not the last lexeme. -/
theorem not_yields_itemLookup {l : Lookup} (members : ∀ s ∈ l.path, s.IsMember)
    (unsealed : l.isSealed = false) {tail : List Lexeme} (clean : contains tail '\\' = false)
    (path : Path) :
    ¬ Yields (.plain '[' :: (l.lexemes ++ .plain ']' :: tail)) (.itemLookup l :: path) := by
  rintro ⟨parts, split, related⟩
  have settled := l.spells.settled
  have bare : contains l.lexemes ']' = false :=
    Lookup.contains_lexemes (by decide) (by decide) members
  have opened : splitSegments .plain [] (.plain '[' :: (l.lexemes ++ .plain ']' :: tail)) =
      splitSegments .plain [.plain '['] (l.lexemes ++ .plain ']' :: tail) := rfl
  rw [opened] at split
  have slashes := splitSegments_spec (c := '\\') (by decide) (by decide) split rfl
    (by simp [settled.1, clean])
  obtain ⟨part, later, rfl, strays⟩ := strays_of_split unsealed split
  have free := (slashes part (by simp)).2
  have lexed := lex_reescape free
  cases related with
  | cons read _ =>
  have starts : startsWith (lex (reescape part)) '[' = true := by
    rw [lexed]
    cases strays <;> rfl
  obtain ⟨once, ends⟩ := bracketed_of_parse read starts
  cases strays with
  | @early short rest whole =>
    have none : contains short ']' = false := by
      rw [Lookup.lexemes, whole] at bare
      simp only [contains_cons, contains_append, Bool.or_eq_false_iff] at bare
      exact bare.2.2.1
    have absent : contains ([.plain '['] ++ .plain '@' :: .plain '(' :: short) ']' = false := by
      simp [none]
    rw [lexed, count_eq_zero.mpr ((contains_settle _ (by decide)).trans absent)] at once
    cases once
  | @late past rest more whole =>
    obtain ⟨within, rfl⟩ : ∃ within, past = .plain ']' :: within := by
      cases past with
      | nil => cases whole
      | cons l within => exact ⟨within, by rw [(List.cons.inj whole).1]⟩
    -- the bracket of the lookup is the only one, but something comes after it
    have shape : lex (reescape ([Lexeme.plain '['] ++ l.lexemes ++
          (.plain ']' :: within ++ [.plain ')'] ++ more))) =
        ([Lexeme.plain '['] ++ l.lexemes).map Lexeme.settle ++
          .plain ']' :: (within ++ [Lexeme.plain ')'] ++ more).map Lexeme.settle := by
      rw [lexed, List.map_append]
      rfl
    have further : count ((within ++ [Lexeme.plain ')'] ++ more).map Lexeme.settle) ']' = 0 := by
      rw [shape, count_append] at once
      simp only [count, List.countP_cons, plain_is, beq_self_eq_true, if_true] at once ⊢
      omega
    rw [shape, List.append_cons] at ends
    have last := contains_of_endsWith (by simp) ends
    rw [count_eq_zero.mp further] at last
    cases last

theorem Step.not_yields {s : Step} (wellFormed : s.WellFormed) (unsealed : s.isSealed = false)
    {tail : List Lexeme} (follows : Follows tail) (clean : contains tail '\\' = false)
    (path : Path) : ¬ Yields (s.lexemes ++ tail) (s :: path) := by
  cases s with
  | plain s => cases unsealed
  | lookup l => exact not_yields_lookup wellFormed unsealed follows clean path
  | append => cases unsealed
  | itemLookup l =>
    have whole : (Step.itemLookup l).lexemes ++ tail =
        .plain '[' :: (l.lexemes ++ .plain ']' :: tail) := by
      simp [lexemes]
    rw [whole]
    exact not_yields_itemLookup wellFormed.2 unsealed clean path

private theorem Step.lexemes_ne_nil {s : Step} (wellFormed : s.WellFormed)
    (named : s ≠ .plain (.key "")) : s.lexemes ≠ [] := by
  cases s with
  | plain s => exact s.lexemes_ne_nil wellFormed fun same => named (by rw [same])
  | lookup l | append | itemLookup l => simp [lexemes, Lookup.lexemes]

/-- A sealed step is read back, and the steps after it are read by themselves. -/
theorem Step.yields {s : Step} (wellFormed : s.WellFormed) (named : s ≠ .plain (.key ""))
    (holds : s.isSealed = true) :
    Yields s.lexemes [s] ∧ ∀ rest path,
      Yields (s.lexemes ++ .plain '.' :: rest) (s :: path) ↔ Yields rest path := by
  have filled := s.lexemes_ne_nil wellFormed named
  have read : Element.parse (reescape s.lexemes) = .ok (.step s) :=
    s.parse_of_lexed wellFormed s.spells.lex_reescape_eq
  have kept (later : List (List Lexeme)) : addSegment s.lexemes later = s.lexemes :: later := by
    simp [addSegment, filled]
  constructor
  · have whole := s.splitSegments_sealed holds []
    rw [List.append_nil, splitSegments, kept] at whole
    exact ⟨[s.lexemes], whole, .cons read .nil⟩
  · intro rest path
    unfold Yields
    rw [s.splitSegments_sealed holds]
    simp only [splitSegments, plain_is, beq_self_eq_true, if_true, map_eq_ok, kept]
    constructor
    · rintro ⟨parts, ⟨later, split, rfl⟩, related⟩
      cases related with
      | cons _ related => exact ⟨later, split, related⟩
    · rintro ⟨later, split, related⟩
      exact ⟨_, ⟨later, split, rfl⟩, .cons read related⟩

private theorem Path.yields_iff {path : Path} (wellFormed : ∀ s ∈ path, s.WellFormed)
    (named : ∀ s ∈ path, s ≠ .plain (.key "")) :
    Yields (Path.lexemes path) path ↔ ∀ s ∈ path, s.isSealed = true := by
  induction path with
  | nil => exact ⟨fun _ => by simp, fun _ => ⟨[], rfl, .nil⟩⟩
  | cons s rest ih =>
    have first := wellFormed s (by simp)
    have filled := named s (by simp)
    have later := ih (fun t member => wellFormed t (by simp [member]))
      (fun t member => named t (by simp [member]))
    have clean := (spells_joinDots Step.spells rest).settled.1
    have whole : ∃ tail, Path.lexemes (s :: rest) = s.lexemes ++ tail ∧
        (rest = [] ∧ tail = [] ∨ rest ≠ [] ∧ tail = .plain '.' :: Path.lexemes rest) := by
      cases rest with
      | nil => exact ⟨[], by simp [Path.lexemes, joined], .inl ⟨rfl, rfl⟩⟩
      | cons next rest => exact ⟨_, rfl, .inr ⟨by simp, rfl⟩⟩
    obtain ⟨tail, whole, cases⟩ := whole
    rw [whole, List.forall_mem_cons]
    cases holds : s.isSealed with
    | false =>
      have follows : Follows tail := cases.imp (·.2) fun more => ⟨_, more.2⟩
      have tidy : contains tail '\\' = false := by
        rcases cases with ⟨-, rfl⟩ | ⟨-, rfl⟩
        · rfl
        · simpa [Path.lexemes] using clean
      simp [s.not_yields first holds follows tidy rest]
    | true =>
      obtain ⟨single, more⟩ := s.yields first filled holds
      rcases cases with ⟨rfl, rfl⟩ | ⟨-, rfl⟩
      · simpa using single
      · rw [more, later]
        simp

/-- What is known of the steps of a path that was read. -/
theorem Path.parse_spec {text : String} {path : Path} (read : Path.parse text = .ok path) :
    (∀ s ∈ path, s.WellFormed) ∧ ∀ s ∈ path, s ≠ .plain (.key "") := by
  have spec (s : Step) (member : s ∈ path) :
      (Element.step s).WellFormed ∧ Element.step s ≠ .literal "" := by
    obtain ⟨segment, found, filled, -⟩ := parseStepsWith_spec read s member
    obtain ⟨wellFormed, named, -⟩ := parseKeyWith_spec .parse found
    exact ⟨wellFormed, named filled⟩
  exact ⟨fun s member => (spec s member).1,
    fun s member same => (spec s member).2 (by rw [same])⟩

/-- A path that was read comes back from its canonical form if and only if the lookups in it
are sealed: no parenthesis in one of their keys moves their end. -/
theorem Path.survives_iff_sealed {text : String} {path : Path} (read : Path.parse text = .ok path) :
    Path.parse (Path.canonical path) = .ok path ↔ ∀ s ∈ path, s.isSealed = true := by
  obtain ⟨wellFormed, named⟩ := Path.parse_spec read
  rw [Path.parse_canonical_iff, Path.yields_iff wellFormed named]

/-- The closing parenthesis in the first key of this lookup has no escape in the canonical
form, where it closes the lookup. -/
theorem Path.not_survives_parenthesis :
    Path.parse "@(0,a\\).b)" = .ok [.lookup ⟨0, [.key "a)", .key "b"]⟩] ∧
      Path.canonical [.lookup ⟨0, [.key "a)", .key "b"]⟩] = "@(0,a).b)" ∧
      Path.parse "@(0,a).b)" ≠ .ok [.lookup ⟨0, [.key "a)", .key "b"]⟩] := by
  have read : Path.parse "@(0,a\\).b)" = .ok [.lookup ⟨0, [.key "a)", .key "b"]⟩] := by rfl
  have written : Path.canonical [.lookup ⟨0, [.key "a)", .key "b"]⟩] = "@(0,a).b)" := by rfl
  refine ⟨read, written, fun again => ?_⟩
  rw [← written] at again
  have holds := (Path.survives_iff_sealed read).mp again
  revert holds
  decide

end Reshape.Key
