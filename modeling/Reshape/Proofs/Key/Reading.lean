import Reshape.Proofs.Key.Forms

namespace Reshape.Key

open Decimal Outcome

/-- The points that set brackets apart are the only lexemes that are added. -/
theorem contains_spreadBrackets {c : Char} (other : c ≠ '.') (depth : Nat)
    (before : Option Lexeme) (ls : List Lexeme) :
    contains (spreadBrackets depth before ls) c = contains ls c := by
  induction ls generalizing depth before with
  | nil => rfl
  | cons l rest ih =>
    have point : ('.' == c) = false := beq_false_of_ne other.symm
    cases before with
    | none => simp [spreadBrackets, ih]
    | some b =>
      simp only [spreadBrackets]
      split <;> simp [ih, point]

private theorem mem_addSegment {current part : List Lexeme} {later : List (List Lexeme)}
    (member : part ∈ addSegment current later) : part = current ∧ current ≠ [] ∨ part ∈ later := by
  unfold addSegment at member
  split at member
  · exact .inr member
  · rename_i filled
    rcases List.mem_cons.mp member with same | member
    · exact .inl ⟨same, by simpa using filled⟩
    · exact .inr member

/-- A segment is not empty, and all that is added to its lexemes are parentheses. -/
theorem splitSegments_spec {c : Char} (opening : c ≠ '(') (closing : c ≠ ')')
    {mode : SegmentMode} {current ls : List Lexeme} {parts : List (List Lexeme)}
    (read : splitSegments mode current ls = .ok parts) (free : contains current c = false)
    (absent : contains ls c = false) : ∀ part ∈ parts, part ≠ [] ∧ contains part c = false := by
  have opens : ('(' == c) = false := beq_false_of_ne opening.symm
  have closes : (')' == c) = false := beq_false_of_ne closing.symm
  induction ls generalizing mode current parts with
  | nil =>
    intro part member
    cases mode with
    | plain | «at» =>
      cases read
      rcases mem_addSegment member with ⟨rfl, filled⟩ | later
      · exact ⟨filled, free⟩
      · cases later
    | group depth => cases read
    | bare =>
      cases read
      rcases mem_addSegment member with ⟨rfl, filled⟩ | later
      · exact ⟨filled, by simp [free, closes]⟩
      · cases later
  | cons l rest ih =>
    rw [contains_cons, Bool.or_eq_false_iff] at absent
    obtain ⟨first, absent⟩ := absent
    have flushed {segment : List Lexeme} (clear : contains segment c = false)
        (read : (splitSegments .plain [] rest).map (addSegment segment) = .ok parts) :
        ∀ part ∈ parts, part ≠ [] ∧ contains part c = false := by
      intro part member
      obtain ⟨later, found, rfl⟩ := map_eq_ok.mp read
      rcases mem_addSegment member with ⟨rfl, filled⟩ | member
      · exact ⟨filled, clear⟩
      · exact ih found rfl absent part member
    cases mode with
    | plain =>
      simp only [splitSegments] at read
      split at read
      · exact flushed free read
      · split at read <;> exact ih read (by simp [free, first]) absent
    | «at» =>
      simp only [splitSegments] at read
      split at read
      · exact ih read (by simp [free, first]) absent
      · split at read
        · cases read
        · split at read <;> exact ih read (by simp [free, first, opens]) absent
    | group depth =>
      simp only [splitSegments] at read
      split at read
      · exact ih read (by simp [free, first]) absent
      · split at read
        · split at read <;> exact ih read (by simp [free, first]) absent
        · exact ih read (by simp [free, first]) absent
    | bare =>
      simp only [splitSegments] at read
      split at read
      · exact flushed (by simp [free, closes]) read
      · split at read <;> exact ih read (by simp [free, first, closes]) absent

/-- A marker that a path does not have stands in none of its segments either. -/
theorem segments_spec {c : Char} (marks : c ∈ special) (opening : c ≠ '(') (closing : c ≠ ')')
    (point : c ≠ '.') {path : String} {parts : List String} (read : segments path = .ok parts)
    (absent : contains (lex path) c = false) :
    ∀ part ∈ parts, lex part ≠ [] ∧ contains (lex part) c = false := by
  unfold segments at read
  split at read
  · rename_i found split
    cases read
    intro part member
    obtain ⟨ls, present, rfl⟩ := List.mem_map.mp member
    have spread {d : Char} (other : d ≠ '.') (free : contains (lex path) d = false) :=
      (contains_spreadBrackets other 0 none (lex path)).trans free
    have clear := splitSegments_spec opening closing split rfl (spread point absent) ls present
    have slashes := splitSegments_spec (by decide) (by decide) split rfl
      (spread (by decide) (contains_lexChars_backslash _)) ls present
    rw [lex_reescape slashes.2, contains_settle ls marks]
    exact ⟨by simpa using clear.1, clear.2⟩
  · cases read

/-- What is known of a reader of the lookups in keys: they are well formed, and without
an opening bracket in the text their path has no index in it. -/
structure LookupReader (lookup : String → Except GrammarError Lookup) : Prop where
  wellFormed : ∀ {key l}, lookup key = .ok l → l.WellFormed
  members : ∀ {key l}, lookup key = .ok l → contains (lex key) '[' = false →
    ∀ s ∈ l.path, s.IsMember

theorem LookupReader.refuse : LookupReader refuseLookup where
  wellFormed read := by cases read
  members read := by cases read

variable {lookup : String → Except GrammarError Lookup}

theorem located_eq_ok {α : Type} {key : String} {result : Except Fault α} {value : α} :
    located key result = .ok value ↔ result = .ok value := by
  cases result with
  | ok found => simp [located]
  | error fault => simp [located]

private theorem parseIndexBody_wellFormed (reader : LookupReader lookup) {key : String}
    {body : List Lexeme} {s : Step} (read : parseIndexBody lookup key body = .ok s)
    (slashes : contains body '\\' = false) (single : contains body '[' = false) :
    s.WellFormed := by
  simp only [parseIndexBody] at read
  split at read
  · cases read
    trivial
  split at read
  · obtain ⟨r, found, rfl⟩ := map_eq_ok.mp (located_eq_ok.mp read)
    exact Reference.parse_fits found
  split at read
  · obtain ⟨level, found, rfl⟩ := map_eq_ok.mp (located_eq_ok.mp read)
    exact parseCounter_bounded found
  split at read
  · obtain ⟨l, found, rfl⟩ := map_eq_ok.mp read
    refine ⟨reader.wellFormed found, reader.members found ?_⟩
    rw [lex_reescape slashes, contains_settle _ (by decide)]
    exact single
  split at read
  · cases read
  split at read
  · rename_i index found
    cases read
    exact readIndexChars_bounded found
  · cases read

theorem parseIndex_eq_ok {key : String} {ls : List Lexeme} {s : Step}
    (read : parseIndex lookup key ls = .ok s) :
    count ls '[' = 1 ∧ parseIndexBody lookup key (ls.drop 1).dropLast = .ok s := by
  unfold parseIndex at read
  split at read
  · cases read
  · rename_i shape
    simp only [Bool.or_eq_true, not_or, decide_eq_true_eq, not_not] at shape
    exact ⟨shape.1.1, read⟩

theorem parseIndex_wellFormed (reader : LookupReader lookup) {key : String} {s : Step}
    (read : parseIndex lookup key (lex key) = .ok s) (opened : startsWith (lex key) '[' = true) :
    s.WellFormed := by
  obtain ⟨once, read⟩ := parseIndex_eq_ok read
  apply parseIndexBody_wellFormed reader read
  · exact contains_of_subset (contains_lexChars_backslash _)
      fun l member => List.drop_subset _ _ (List.dropLast_subset _ member)
  -- The bracket that opens the segment is the only one of its kind.
  · match ls : lex key, opened, once with
    | l :: rest, opened, once =>
      have first : l.is '[' = true := opened
      have further : count rest '[' = 0 := by
        simpa [count, List.countP_cons, first] using once
      exact contains_of_subset (count_eq_zero.mp further)
        fun l member => List.dropLast_subset _ member

theorem parseConstant_wellFormed {ls : List Lexeme} {e : Element}
    (read : parseConstant ls = .ok e) : e.WellFormed := by
  unfold parseConstant at read
  simp only at read
  generalize (if startsWith ls '(' && endsWith ls ')' && 2 ≤ ls.length
    then (ls.drop 1).dropLast else ls) = body at read
  split at read
  · cases read
  · rename_i filled
    cases read
    exact unescape_ne_empty (by simpa using filled)

private theorem parseConstant_ne_step {ls : List Lexeme} {s : Step} :
    parseConstant ls ≠ .ok (.step s) := by
  intro read
  simp only [parseConstant] at read
  repeat' split at read
  all_goals cases read

/-- A bracketed segment is no member. -/
theorem parseIndex_ne_key {key text : String} {ls : List Lexeme} :
    parseIndex lookup key ls ≠ .ok (.plain (.key text)) := by
  intro read
  obtain ⟨_, read⟩ := parseIndex_eq_ok read
  simp only [parseIndexBody] at read
  split at read
  · cases read
  split at read
  · obtain ⟨r, _, same⟩ := map_eq_ok.mp (located_eq_ok.mp read)
    cases same
  split at read
  · obtain ⟨level, _, same⟩ := map_eq_ok.mp (located_eq_ok.mp read)
    cases same
  split at read
  · obtain ⟨l, _, same⟩ := map_eq_ok.mp read
    cases same
  split at read
  · cases read
  split at read <;> cases read

/-- What is read from a key is well formed. A literal is not empty unless the key is,
and only an opening bracket makes a step that is no member. -/
theorem parseKeyWith_spec (reader : LookupReader lookup) {key : String} {e : Element}
    (read : parseKeyWith lookup key = .ok e) :
    e.WellFormed ∧ (lex key ≠ [] → e ≠ .literal "") ∧
      (contains (lex key) '[' = false → ∀ s, e = .step (.plain s) → s.IsMember) := by
  simp only [parseKeyWith] at read
  by_cases alone : lex key = [.plain '@']
  · rw [if_pos alone] at read
    cases read
    exact ⟨trivial, by simp, by simp⟩
  rw [if_neg alone] at read
  by_cases star : lex key = [.plain '*']
  · rw [if_pos star] at read
    cases read
    exact ⟨trivial, by simp, by simp⟩
  rw [if_neg star] at read
  by_cases opened : startsWith (lex key) '[' = true
  · rw [if_pos opened] at read
    obtain ⟨s, found, rfl⟩ := map_eq_ok.mp read
    refine ⟨parseIndex_wellFormed reader found opened, ?_, fun absent => ?_⟩
    · intro _ same
      cases same
      exact parseIndex_ne_key found
    · rw [startsWith_of_contains absent] at opened
      cases opened
  rw [if_neg opened] at read
  by_cases looks : startsWith (lex key) '@' = true
  · rw [if_pos looks] at read
    obtain ⟨l, found, rfl⟩ := map_eq_ok.mp read
    exact ⟨reader.wellFormed found, by simp, by simp⟩
  rw [if_neg looks] at read
  by_cases misplaced : contains (lex key) '@' = true
  · rw [if_pos misplaced] at read
    cases read
  rw [if_neg misplaced] at read
  by_cases dollar : contains (lex key) '$' = true
  · rw [if_pos dollar] at read
    split at read
    · obtain ⟨r, found, rfl⟩ := map_eq_ok.mp (located_eq_ok.mp read)
      exact ⟨Reference.parse_fits found, by simp, by simp⟩
    · cases read
  rw [if_neg dollar] at read
  by_cases bracket : (contains (lex key) '[' || contains (lex key) ']') = true
  · rw [if_pos bracket] at read
    cases read
  rw [if_neg bracket] at read
  by_cases marked : contains (lex key) '&' = true
  · rw [if_pos marked] at read
    split at read
    · cases read
    · obtain ⟨pieces, found, rfl⟩ := map_eq_ok.mp (located_eq_ok.mp read)
      refine ⟨scanTemplate_wellFormed found marked, by simp, ?_⟩
      rintro _ s same
      cases same
      trivial
  rw [if_neg marked] at read
  by_cases starred : contains (lex key) '*' = true
  · rw [if_pos starred] at read
    cases read
    exact ⟨star_wellFormed starred star, by simp, by simp⟩
  rw [if_neg starred] at read
  by_cases hash : contains (lex key) '#' = true
  · rw [if_pos hash] at read
    split at read
    · have found := located_eq_ok.mp read
      refine ⟨parseConstant_wellFormed found, ?_, ?_⟩
      · rintro _ rfl
        exact parseConstant_ne_step found
      · rintro _ s rfl
        exact absurd found parseConstant_ne_step
    · cases read
  rw [if_neg hash] at read
  cases read
  refine ⟨trivial, ?_, ?_⟩
  · intro filled same
    simp only [Element.step.injEq, Step.plain.injEq, PlainStep.key.injEq] at same
    exact unescape_ne_empty filled same
  · rintro _ s same
    cases same
    trivial

/-- Every step of a path is read from a segment, which is not empty and has no bracket
that the path does not have. -/
theorem parseStepsWith_spec {path : String} {steps : List Step}
    (read : parseStepsWith lookup path = .ok steps) :
    ∀ s ∈ steps, ∃ segment, parseKeyWith lookup segment = .ok (.step s) ∧ lex segment ≠ [] ∧
      (contains (lex path) '[' = false → contains (lex segment) '[' = false) := by
  intro s member
  obtain ⟨parts, split, read⟩ := bind_eq_ok.mp read
  obtain ⟨segment, present, read⟩ := exists_of_mapM read member
  obtain ⟨e, found, read⟩ := bind_eq_ok.mp read
  cases e with
  | step t =>
    cases read
    refine ⟨segment, found, ?_, fun absent => ?_⟩
    · have slashes := contains_lexChars_backslash path.toList
      exact (segments_spec (c := '\\') (by decide) (by decide) (by decide) (by decide) split
        slashes segment present).1
    · exact (segments_spec (by decide) (by decide) (by decide) (by decide) split absent
        segment present).2
  | _ => cases read

theorem plainSteps_eq_ok {steps : List Step} {path : List PlainStep} :
    plainSteps steps = .ok path ↔ steps = path.map .plain := by
  induction steps generalizing path with
  | nil => cases path <;> simp [plainSteps]
  | cons s rest ih =>
    cases s with
    | plain s =>
      rw [plainSteps, map_eq_ok]
      constructor
      · rintro ⟨later, found, rfl⟩
        rw [List.map_cons, ih.mp found]
      · intro same
        cases path with
        | nil => cases same
        | cons t later =>
          rw [List.map_cons, List.cons.injEq, Step.plain.injEq] at same
          exact ⟨later, ih.mpr same.2, by rw [same.1]⟩
    | lookup l | append | itemLookup l => cases path <;> simp [plainSteps]

theorem lookupBody_subset {ls body : List Lexeme} (read : lookupBody ls = .ok body) :
    body ⊆ ls := by
  simp only [lookupBody] at read
  split at read
  · cases read
  split at read
  · cases read
  split at read
  · split at read
    · cases read
    split at read
    · cases read
    · cases read
      exact fun l member => List.drop_subset _ _ (List.dropLast_subset _ member)
  · cases read
    exact fun l member => member

private theorem splitLevel_spec {body rest : List Lexeme} {level : Nat}
    (read : splitLevel body = .ok (level, rest)) : level < wordBound ∧ rest ⊆ body := by
  unfold splitLevel at read
  split at read
  · split at read
    · simp only at read
      split at read
      · split at read
        · rename_i found
          cases read
          exact ⟨readWord_bounded found, List.drop_subset _ _⟩
        · cases read
      · cases read
    · cases read
      exact ⟨by decide, fun l member => member⟩
  · cases read
    exact ⟨by decide, fun l member => member⟩

/-- A lookup is an at sign alone, or what stands in it has a level and, unless that is all, a
path that was read from the rest. -/
theorem Lookup.parse_spec {key : String} {l : Lookup} (read : Lookup.parse key = .ok l) :
    lex key = [.plain '@'] ∧ l = ⟨0, []⟩ ∨
      ∃ ls body rest, lex key = .plain '@' :: ls ∧ lookupBody ls = .ok body ∧
        splitLevel body = .ok (l.level, rest) ∧
        (rest = [] ∧ l.path = [] ∨
          parseStepsWith refuseLookup (reescape rest) = .ok (l.path.map .plain)) := by
  unfold Lookup.parse at read
  split at read
  · cases read
  rename_i mark ls lexed
  by_cases marked : mark.is '@' = true
  · obtain rfl := is_eq_true marked
    rw [if_neg (by simp)] at read
    by_cases alone : ls.isEmpty = true
    · rw [if_pos alone] at read
      cases read
      rw [List.isEmpty_iff.mp alone] at lexed
      exact .inl ⟨lexed, rfl⟩
    rw [if_neg alone] at read
    obtain ⟨body, inner, read⟩ := bind_eq_ok.mp read
    obtain ⟨⟨level, rest⟩, leveled, read⟩ := bind_eq_ok.mp read
    have inside := located_eq_ok.mp inner
    have leveled := located_eq_ok.mp leveled
    dsimp only at read
    by_cases short : rest.isEmpty = true
    · rw [if_pos short] at read
      cases read
      exact .inr ⟨ls, body, rest, lexed, inside, leveled, .inl ⟨List.isEmpty_iff.mp short, rfl⟩⟩
    rw [if_neg short] at read
    split at read
    · rename_i steps found
      obtain ⟨path, plain, read⟩ := bind_eq_ok.mp read
      cases read
      have whole : steps = path.map .plain := plainSteps_eq_ok.mp (located_eq_ok.mp plain)
      exact .inr ⟨ls, body, rest, lexed, inside, leveled, .inr (whole ▸ found)⟩
    · cases read
  · rw [if_pos (by simp [marked])] at read
    cases read

/-- A lookup that was read has a level that fits and no path, or a path that was read
from some of its lexemes. -/
theorem Lookup.parse_cases {key : String} {l : Lookup} (read : Lookup.parse key = .ok l) :
    l.level < wordBound ∧ (l.path = [] ∨ ∃ rest, rest ⊆ lex key ∧
      parseStepsWith refuseLookup (reescape rest) = .ok (l.path.map .plain)) := by
  obtain ⟨-, rfl⟩ | ⟨ls, body, rest, lexed, inner, leveled, path⟩ := parse_spec read
  · exact ⟨by decide, .inl rfl⟩
  obtain ⟨fits, within⟩ := splitLevel_spec leveled
  rcases path with ⟨-, bare⟩ | found
  · exact ⟨fits, .inl bare⟩
  · refine ⟨fits, .inr ⟨rest, fun l member => ?_, found⟩⟩
    rw [lexed]
    exact List.mem_cons_of_mem _ (lookupBody_subset inner (within member))

/-- A step of a lookup is well formed and has a name, and without an opening bracket in
the text of the lookup it goes to a member. -/
theorem Lookup.parse_step {key : String} {l : Lookup} (read : Lookup.parse key = .ok l)
    {s : PlainStep} (member : s ∈ l.path) :
    s.WellFormed ∧ s ≠ .key "" ∧ (contains (lex key) '[' = false → s.IsMember) := by
  obtain ⟨_, empty | ⟨rest, below, found⟩⟩ := parse_cases read
  · simp [empty] at member
  obtain ⟨segment, keyed, filled, free⟩ := parseStepsWith_spec found (.plain s)
    (List.mem_map_of_mem member)
  obtain ⟨wellFormed, named, members⟩ := parseKeyWith_spec .refuse keyed
  refine ⟨wellFormed, fun same => named filled (by rw [same]), fun absent => ?_⟩
  refine members (free ?_) s rfl
  have slashes := contains_of_subset (contains_lexChars_backslash _) below
  rw [lex_reescape slashes, contains_settle _ (by decide)]
  exact contains_of_subset absent below

theorem LookupReader.parse : LookupReader Lookup.parse where
  wellFormed read :=
    ⟨(Lookup.parse_cases read).1, fun _ member => (Lookup.parse_step read member).1,
      fun _ member => (Lookup.parse_step read member).2.1⟩
  members read absent _ member := (Lookup.parse_step read member).2.2 absent

/-- Every element that is read from a key is well formed. -/
theorem Element.parse_wellFormed {key : String} {e : Element}
    (read : Element.parse key = .ok e) : e.WellFormed :=
  (parseKeyWith_spec .parse read).1

end Reshape.Key
