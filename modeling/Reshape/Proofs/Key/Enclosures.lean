import Reshape.Proofs.Key.Canonical

/-! How far a lookup goes in the canonical text of a path. Parentheses are not escaped in
literals, so those in the keys of a lookup are counted with the ones around it. A lookup is
sealed if the one that closes it comes in its last segment or at its end; then the lookup is
part of one segment of the path. -/

namespace Reshape.Key

open Decimal Outcome

/-- How many parentheses are open after a lexeme that does not close the last of them. -/
def depthAfter (depth : Nat) (l : Lexeme) : Nat :=
  if l.is '(' then depth + 1 else if l.is ')' then depth - 1 else depth

theorem closing_cons (depth : Nat) (l : Lexeme) (rest : List Lexeme) :
    closing depth (l :: rest) =
      if l.is ')' = true ∧ depth ≤ 1 then some ([l], rest)
      else (closing (depthAfter depth l) rest).map fun (inner, after) => (l :: inner, after) := by
  simp only [closing, depthAfter]
  by_cases opens : l.is '(' = true
  · have other : l.is ')' = false := by rw [is_eq_true opens]; rfl
    simp [opens, other]
  · by_cases closes : l.is ')' = true
    · simp [opens, closes]
    · simp [opens, closes]

private theorem splitSegments_group_cons (depth : Nat) (current : List Lexeme) (l : Lexeme)
    (rest : List Lexeme) :
    splitSegments (.group depth) current (l :: rest) =
      if l.is ')' = true ∧ depth ≤ 1 then splitSegments .plain (current ++ [l]) rest
      else splitSegments (.group (depthAfter depth l)) (current ++ [l]) rest := by
  simp only [splitSegments, depthAfter]
  by_cases opens : l.is '(' = true
  · have other : l.is ')' = false := by rw [is_eq_true opens]; rfl
    simp [opens, other]
  · by_cases closes : l.is ')' = true
    · simp [opens, closes]
    · simp [opens, closes]

/-- The split of a path goes on after the parenthesis that closes a lookup. -/
theorem splitSegments_group (ls : List Lexeme) (depth : Nat) (current : List Lexeme) :
    splitSegments (.group depth) current ls =
      match closing depth ls with
      | some (inner, after) => splitSegments .plain (current ++ inner) after
      | none => .error .openLookupInPath := by
  induction ls generalizing depth current with
  | nil => rfl
  | cons l rest ih =>
    rw [splitSegments_group_cons, closing_cons]
    split
    · rfl
    · rw [ih]
      cases closing (depthAfter depth l) rest with
      | none => rfl
      | some found => simp

theorem closing_append {ls inner after : List Lexeme} {depth : Nat}
    (closed : closing depth ls = some (inner, after)) (ms : List Lexeme) :
    closing depth (ls ++ ms) = some (inner, after ++ ms) := by
  induction ls generalizing depth inner after with
  | nil => cases closed
  | cons l rest ih =>
    rw [closing_cons] at closed
    rw [List.cons_append, closing_cons]
    split at closed
    · rename_i last
      cases closed
      rw [if_pos last]
    · rename_i last
      obtain ⟨⟨inner, after⟩, found, same⟩ := Option.map_eq_some_iff.mp closed
      cases same
      rw [if_neg last, ih found]
      rfl

/-- Where parentheses stay open, what comes later closes them. -/
theorem closing_open {ls : List Lexeme} {depth : Nat} (opened : closing depth ls = none) :
    ∃ inside, ∀ ms, closing depth (ls ++ ms) =
      (closing inside ms).map fun (inner, after) => (ls ++ inner, after) := by
  induction ls generalizing depth with
  | nil => exact ⟨depth, fun ms => by simp⟩
  | cons l rest ih =>
    rw [closing_cons] at opened
    split at opened
    · cases opened
    · rename_i last
      obtain ⟨inside, further⟩ := ih (Option.map_eq_none_iff.mp opened)
      refine ⟨inside, fun ms => ?_⟩
      rw [List.cons_append, closing_cons, if_neg last, further ms, Option.map_map]
      rfl

/-- What closes ends with a parenthesis. -/
theorem closing_spec {ls inner after : List Lexeme} {depth : Nat}
    (closed : closing depth ls = some (inner, after)) :
    ls = inner ++ after ∧ ∃ within, inner = within ++ [.plain ')'] := by
  induction ls generalizing depth inner after with
  | nil => cases closed
  | cons l rest ih =>
    rw [closing_cons] at closed
    split at closed
    · rename_i last
      cases closed
      exact ⟨rfl, [], by rw [is_eq_true last.1]; rfl⟩
    · obtain ⟨⟨inner, after⟩, found, same⟩ := Option.map_eq_some_iff.mp closed
      cases same
      obtain ⟨whole, within, ends⟩ := ih found
      exact ⟨by rw [whole]; rfl, l :: within, by rw [ends]; rfl⟩

/-- Lexemes whose parentheses stand in pairs: what closes those around them comes later. -/
def Neutral (ls : List Lexeme) : Prop :=
  ∀ depth rest, 1 ≤ depth → closing depth (ls ++ rest) =
    (closing depth rest).map fun (inner, after) => (ls ++ inner, after)

namespace Neutral

variable {ls ms : List Lexeme}

theorem nil : Neutral [] := fun depth rest _ => by simp

theorem append (first : Neutral ls) (second : Neutral ms) : Neutral (ls ++ ms) := by
  intro depth rest inside
  rw [List.append_assoc, first depth _ inside, second depth rest inside, Option.map_map]
  congr 1
  funext pair
  simp

theorem of_contains (opens : contains ls '(' = false) (closes : contains ls ')' = false) :
    Neutral ls := by
  induction ls with
  | nil => exact nil
  | cons l rest ih =>
    rw [contains_cons, Bool.or_eq_false_iff] at opens closes
    intro depth more inside
    have same : depthAfter depth l = depth := by simp [depthAfter, opens.1, closes.1]
    rw [List.cons_append, closing_cons, if_neg (by simp [closes.1]), same,
      ih opens.2 closes.2 depth more inside, Option.map_map]
    rfl

theorem joined {mark : Char} (opens : mark ≠ '(') (closes : mark ≠ ')')
    {segments : List (List Lexeme)} (each : ∀ segment ∈ segments, Neutral segment) :
    Neutral (joined mark segments) := by
  have point : Neutral [.plain mark] :=
    of_contains (by simp [opens]) (by simp [closes])
  induction segments with
  | nil => exact nil
  | cons segment rest ih =>
    have first := each segment (by simp)
    have later := ih fun other member => each other (by simp [member])
    cases rest with
    | nil => exact first
    | cons next rest => exact first.append (point.append later)

end Neutral

/-- Whether the parenthesis that closes a lookup in its canonical form comes in the last
segment of its path or at its end. -/
def Lookup.isSealed (l : Lookup) : Bool :=
  match closing 1 (l.inner ++ [.plain ')']) with
  | some (_, after) => !contains after '.'
  | none => false

def Step.isSealed : Step → Bool
  | .lookup l => l.isSealed
  | .itemLookup l => l.isSealed
  | _ => true

theorem Lookup.isSealed_iff {l : Lookup} : l.isSealed = true ↔
    ∃ inner after, closing 1 (l.inner ++ [.plain ')']) = some (inner, after) ∧
      contains after '.' = false := by
  unfold isSealed
  split
  · rename_i inner after closed
    simp [closed]
  · rename_i opened
    simp [opened]

theorem Lookup.isSealed_of_neutral {l : Lookup} (neutral : Neutral l.inner) :
    l.isSealed = true := by
  refine isSealed_iff.mpr ⟨l.inner ++ [.plain ')'], [], ?_, rfl⟩
  rw [neutral 1 _ (Nat.le_refl 1)]
  rfl

theorem Lookup.neutral_inner {l : Lookup} (steps : ∀ s ∈ l.path, Neutral s.lexemes) :
    Neutral l.inner := by
  have level : Neutral ((natChars l.level).map .plain ++ [.plain ',']) := by
    have free {c : Char} (digit : isDigit c = false) :=
      contains_plain_eq_false (not_mem_natChars digit l.level)
    exact .of_contains (by simp [free (c := '(') (by decide)]) (by simp [free (c := ')') (by decide)])
  have path : Neutral (pathLexemes l.path) :=
    .joined (by decide) (by decide) (by simpa using steps)
  simpa [inner] using level.append path

/-- No step of a lookup has an at sign. -/
theorem Lookup.contains_inner_at (l : Lookup) : contains l.inner '@' = false :=
  Lookup.contains_inner (by decide) (by decide) fun s _ =>
    s.contains_lexemes (by decide) (by decide)

/-- A lookup is read up to its closing parenthesis. -/
theorem splitSegments_lookup (l : Lookup) (current rest : List Lexeme) :
    splitSegments .plain current (l.lexemes ++ rest) =
      splitSegments (.group 1) (current ++ [.plain '@', .plain '(']) (l.inner ++ .plain ')' :: rest) := by
  simp [Lookup.lexemes, splitSegments]

private theorem splitSegments_sealed {l : Lookup} (holds : l.isSealed = true)
    (current rest : List Lexeme) :
    splitSegments .plain current (l.lexemes ++ rest) =
      splitSegments .plain (current ++ l.lexemes) rest := by
  obtain ⟨inner, after, closed, free⟩ := Lookup.isSealed_iff.mp holds
  have whole := (closing_spec closed).1
  have looks : contains after '@' = false := by
    have absent : contains (l.inner ++ [.plain ')']) '@' = false := by
      simp [l.contains_inner_at]
    rw [whole, contains_append, Bool.or_eq_false_iff] at absent
    exact absent.2
  have spread : l.inner ++ .plain ')' :: rest = l.inner ++ [.plain ')'] ++ rest := by simp
  rw [splitSegments_lookup, spread, splitSegments_group, closing_append closed]
  dsimp only
  rw [splitSegments_of_contains free looks]
  simp [Lookup.lexemes, whole]

/-- A sealed step is part of one segment. -/
theorem Step.splitSegments_sealed {s : Step} (holds : s.isSealed = true) (rest : List Lexeme) :
    splitSegments .plain [] (s.lexemes ++ rest) = splitSegments .plain s.lexemes rest := by
  cases s with
  | plain s =>
    exact splitSegments_of_contains (s.contains_lexemes (by decide) (by decide))
      (s.contains_lexemes (by decide) (by decide)) [] rest
  | lookup l => exact Key.splitSegments_sealed holds [] rest
  | append => rfl
  | itemLookup l =>
    have inside := Key.splitSegments_sealed holds [.plain '['] (.plain ']' :: rest)
    simpa [lexemes, splitSegments] using inside

/-- Lexemes to which no points are added, whatever comes after them. -/
def Kept (depth : Nat) (before : Option Lexeme) (ls : List Lexeme) : Prop :=
  ∀ rest, ∃ inner last, spreadBrackets depth before (ls ++ rest) =
    ls ++ spreadBrackets inner last rest

namespace Kept

variable {ls ms : List Lexeme} {depth : Nat} {before : Option Lexeme}

theorem of_contains (free : contains ls '[' = false) : Kept depth before ls :=
  spreadBrackets_of_contains free depth before

theorem append (first : Kept depth before ls) (second : ∀ depth before, Kept depth before ms) :
    Kept depth before (ls ++ ms) := by
  intro rest
  obtain ⟨depth', before', same⟩ := first (ms ++ rest)
  obtain ⟨inner, last, further⟩ := second depth' before' rest
  exact ⟨inner, last, by rw [List.append_assoc, same, further, List.append_assoc]⟩

theorem cons {l : Lexeme} (starts : l.is '[' = false ∨ Starts before ∨ depth ≠ 0)
    (later : ∀ depth, Kept depth (some l) ls) : Kept depth before (l :: ls) := by
  intro rest
  obtain ⟨inner, last, same⟩ := later
    (if l.is '(' then depth + 1 else if l.is ')' then depth - 1 else depth) rest
  refine ⟨inner, last, ?_⟩
  rcases starts with free | (rfl | rfl) | inside
  · simp [spreadBrackets, free, same]
  · simp [spreadBrackets, same]
  · simp [spreadBrackets, same]
  · cases before <;> simp [spreadBrackets, inside, same]

/-- Inside parentheses no point is added. -/
theorem cons_of_open {l : Lexeme} (opens : l.is '(' = true)
    (later : Kept (depth + 1) (some l) ls) : Kept depth before (l :: ls) := by
  intro rest
  obtain ⟨inner, last, same⟩ := later rest
  refine ⟨inner, last, ?_⟩
  obtain rfl := is_eq_true opens
  simp [spreadBrackets, same]

theorem append_of_digits {cs : List Char} (digits : ∀ c ∈ cs, Decimal.isDigit c = true)
    (later : ∀ before, Kept depth before ms) : Kept depth before (cs.map .plain ++ ms) := by
  induction cs generalizing before with
  | nil => exact later before
  | cons c rest ih =>
    have digit := digits c (by simp)
    have other {d : Char} (sign : Decimal.isDigit d = false) : (c == d) = false :=
      beq_false_of_ne fun same => by simp [same, sign] at digit
    intro more
    have further : Kept depth (some (.plain c)) (rest.map .plain ++ ms) :=
      ih fun d member => digits d (by simp [member])
    obtain ⟨inner, last, same⟩ := further more
    refine ⟨inner, last, ?_⟩
    simp only [List.map_cons, List.cons_append, spreadBrackets, plain_is,
      other (d := '(') (by decide), other (d := ')') (by decide), other (d := '[') (by decide),
      Bool.false_and, Bool.false_eq_true, if_false, same]

theorem joined {segments : List (List Lexeme)}
    (first : ∀ segment, segments.head? = some segment → Kept depth before segment)
    (later : ∀ segment ∈ segments, ∀ depth, Kept depth (some (.plain '.')) segment) :
    Kept depth before (joined '.' segments) := by
  induction segments generalizing depth before with
  | nil => exact fun rest => ⟨depth, before, rfl⟩
  | cons segment rest ih =>
    cases rest with
    | nil => exact first segment rfl
    | cons next rest =>
      refine (first segment rfl).append fun depth' before' => cons (.inl rfl) fun inner => ih ?_ ?_
      · intro other same
        exact later other (List.mem_cons_of_mem _ (List.mem_of_head? same)) inner
      · exact fun other member => later other (List.mem_cons_of_mem _ member)

theorem spreadBrackets_eq (kept : Kept depth before ls) : spreadBrackets depth before ls = ls := by
  obtain ⟨inner, last, same⟩ := kept []
  simpa [spreadBrackets] using same

end Kept

theorem PlainStep.kept (s : PlainStep) {depth : Nat} {before : Option Lexeme}
    (starts : Starts before ∨ depth ≠ 0) : Kept depth before s.lexemes := by
  rcases s.bracketed with free | ⟨body, same, free⟩
  · exact .of_contains free
  · rw [same]
    exact .cons (.inr starts) fun _ => .of_contains free

theorem pathLexemes_kept (path : List PlainStep) {depth : Nat} {before : Option Lexeme}
    (starts : Starts before ∨ depth ≠ 0) : Kept depth before (pathLexemes path) := by
  apply Kept.joined
  · intro segment same
    obtain ⟨s, -, rfl⟩ := List.mem_map.mp (List.mem_of_head? same)
    exact s.kept starts
  · intro segment member depth'
    obtain ⟨s, -, rfl⟩ := List.mem_map.mp member
    exact s.kept (.inl (.inr rfl))

private theorem Lookup.kept (l : Lookup) (depth : Nat) (before : Option Lexeme) :
    Kept depth before l.lexemes := by
  refine .cons (.inl rfl) fun depth' => .cons_of_open rfl ?_
  rw [inner, List.append_assoc]
  refine .append_of_digits (fun c member => Decimal.isDigit_of_mem_natChars member) fun _ => ?_
  intro rest
  have path : Kept (depth' + 1) (some (.plain ',')) (pathLexemes l.path) :=
    pathLexemes_kept l.path (.inr (by simp))
  have closed : Kept (depth' + 1) (some (.plain ',')) (pathLexemes l.path ++ [.plain ')']) :=
    path.append fun _ _ => .of_contains rfl
  obtain ⟨inner, last, same⟩ := closed rest
  exact ⟨inner, last, by simpa [spreadBrackets] using same⟩

private theorem Step.kept (s : Step) {depth : Nat} {before : Option Lexeme}
    (starts : Starts before) : Kept depth before s.lexemes := by
  cases s with
  | plain s => exact s.kept (.inl starts)
  | lookup l => exact l.kept depth before
  | append => exact .cons (.inr (.inl starts)) fun _ => .of_contains rfl
  | itemLookup l =>
    exact .cons (.inr (.inl starts)) fun depth' =>
      (l.kept depth' _).append fun _ _ => .of_contains rfl

def Path.lexemes (path : Path) : List Lexeme :=
  joined '.' (path.map Step.lexemes)

theorem Path.spreadBrackets_lexemes (path : Path) :
    spreadBrackets 0 none (Path.lexemes path) = Path.lexemes path := by
  apply Kept.spreadBrackets_eq
  apply Kept.joined
  · intro segment same
    obtain ⟨s, -, rfl⟩ := List.mem_map.mp (List.mem_of_head? same)
    exact s.kept (.inl rfl)
  · intro segment member depth
    obtain ⟨s, -, rfl⟩ := List.mem_map.mp member
    exact s.kept (.inr rfl)

private theorem Path.lex_canonical (path : Path) : lex (Path.canonical path) = Path.lexemes path :=
  (spells_joinDots Step.spells path).lex_eq

/-- A path is read if it can be split into segments and each of them is a step. -/
theorem parseStepsWith_eq_ok {lookup : String → Except GrammarError Lookup} {path : String}
    {steps : List Step} : parseStepsWith lookup path = .ok steps ↔
      ∃ parts, splitSegments .plain [] (spreadBrackets 0 none (lex path)) = .ok parts ∧
        List.Forall₂ (fun part s => parseKeyWith lookup (reescape part) = .ok (.step s))
          parts steps := by
  rw [parseStepsWith, segments]
  cases split : splitSegments .plain [] (spreadBrackets 0 none (lex path)) with
  | error fault =>
    constructor
    · intro same
      cases same
    · rintro ⟨parts, found, -⟩
      cases found
  | ok parts =>
    dsimp only
    rw [ok_bind, mapM_eq_ok, List.forall₂_map_left_iff]
    constructor
    · refine fun related => ⟨parts, rfl, related.imp fun part s same => ?_⟩
      obtain ⟨e, found, same⟩ := bind_eq_ok.mp same
      cases e with
      | step t =>
        cases same
        exact found
      | _ => cases same
    · rintro ⟨parts', found, related⟩
      cases found
      refine related.imp fun part s found => ?_
      rw [found]
      rfl

/-- Some lexemes are split into segments that are read as the steps of a path. -/
def Yields (ls : List Lexeme) (path : Path) : Prop :=
  ∃ parts, splitSegments .plain [] ls = .ok parts ∧
    List.Forall₂ (fun part s => Element.parse (reescape part) = .ok (.step s)) parts path

theorem Path.parse_canonical_iff (path : Path) :
    Path.parse (Path.canonical path) = .ok path ↔ Yields (Path.lexemes path) path := by
  rw [Path.parse, parseStepsWith_eq_ok, lex_canonical, spreadBrackets_lexemes]
  rfl

end Reshape.Key
