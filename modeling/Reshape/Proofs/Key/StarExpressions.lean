import Reshape.Key.Star
import Reshape.Proofs.Regex.Matching

/-! The regular expression of a wildcard of the general form: literal parts in which what has
a meaning in expressions is escaped, and a lazy group of at least one character for each star.
Its leftmost-first match captures what the search of the wildcard finds. -/

namespace Reshape.Key.Star

open Regex (Pattern Reader Subject)

/-- A character, escaped if it has a meaning in expressions. -/
def quote (c : Char) : List Char :=
  if Regex.metaChars.contains c then ['\\', c] else [c]

/-- The expression of the stars that stand before some literal parts, to its end. -/
def laterExpression : List (List Char) → List Char
  | [] => ['$']
  | part :: parts =>
    ['(', '.', '+', '?', ')'] ++ (part.flatMap quote ++ laterExpression parts)

/-- The regular expression that describes a wildcard of the general form. -/
def expression (first : String) (rest : List String) : String :=
  String.ofList ('^' :: (first.toList.flatMap quote ++ laterExpression (rest.map String.toList)))

def literal (c : Char) : Pattern := .set (.single c)

/-- Matches at least one character that is no end of a line, and captures it. -/
def gap : Pattern := .group (.rep (.set (Regex.CharSet.single '\n').complement) 1 none false)

/-- The parts of the pattern of the stars that stand before some literal parts, to its end. -/
def laterParts : List (List Char) → List Pattern
  | [] => [.look .textEnd false]
  | part :: parts => gap :: (part.map literal ++ laterParts parts)

/-- The parts of the pattern of a wildcard of the general form. -/
def patternParts (first : String) (rest : List String) : List Pattern :=
  .look .textStart false :: (first.toList.map literal ++ laterParts (rest.map String.toList))

/-- The reader of an expression without open groups, after some parts, newest first. -/
def readerAfter (parts : List Regex.Part) : Reader := ⟨⟨.initial, false, [], parts⟩, [], []⟩

def partOf (height : Nat) (pattern : Pattern) : Regex.Part := ⟨pattern, height, true⟩

theorem readEscape_metaChar {c : Char} (special : c ∈ Regex.metaChars) (rest : List Char) :
    Regex.readEscape .initial (c :: rest) = .ok (.literal c false, rest) := by
  have noDigits : (Regex.metaChars.all fun c => !Decimal.isDigit c) = true := rfl
  have noDigit : Decimal.isDigit c = false := by
    simpa using List.all_eq_true.mp noDigits c special
  simp [Regex.readEscape, noDigit, special]

private theorem step_plain {c : Char} (plain : c ∉ Regex.metaChars) (parts : List Regex.Part)
    (rest : List Char) :
    (readerAfter parts).step c rest = .ok (readerAfter (partOf 0 (literal c) :: parts), rest) := by
  unfold Reader.step
  split
  all_goals first | exact absurd (by decide) plain | rfl

/-- A step that leaves no group open and no flag changed is the first one of a run. -/
theorem run_cons {c : Char} {parts later : List Regex.Part} {rest after : List Char} (fuel : Nat)
    (stepped : (readerAfter parts).step c rest = .ok (readerAfter later, after)) :
    Reader.run (fuel + 1) (readerAfter parts) (c :: rest) =
      Reader.run fuel (readerAfter later) after := by
  have unskipped : Regex.skip (readerAfter parts).current.flags (c :: rest) = c :: rest := rfl
  rw [Reader.run, unskipped]
  simp only [stepped]
  rfl

private theorem run_quote (c : Char) (fuel : Nat) (parts : List Regex.Part) (rest : List Char) :
    Reader.run (fuel + 1) (readerAfter parts) (quote c ++ rest) =
      Reader.run fuel (readerAfter (partOf 0 (literal c) :: parts)) rest := by
  by_cases special : c ∈ Regex.metaChars
  · have quoted : quote c ++ rest = '\\' :: c :: rest := by simp [quote, special]
    have stepped : (readerAfter parts).step '\\' (c :: rest) =
        .ok (readerAfter (partOf 0 (literal c) :: parts), rest) := by
      have escaped := readEscape_metaChar special rest
      simp only [Reader.step, readerAfter, escaped]
      rfl
    rw [quoted, run_cons fuel stepped]
  · have quoted : quote c ++ rest = c :: rest := by simp [quote, special]
    rw [quoted, run_cons fuel (step_plain special parts rest)]

theorem run_literals (cs : List Char) (fuel : Nat) (parts : List Regex.Part) (rest : List Char) :
    Reader.run (fuel + cs.length) (readerAfter parts) (cs.flatMap quote ++ rest) =
      Reader.run fuel
        (readerAfter ((cs.map fun c => partOf 0 (literal c)).reverse ++ parts)) rest := by
  induction cs generalizing parts with
  | nil => rfl
  | cons c cs ih =>
    rw [List.flatMap_cons, List.append_assoc, List.length_cons, ← Nat.add_assoc, run_quote, ih]
    simp

theorem run_gap (fuel : Nat) (parts : List Regex.Part) (rest : List Char) :
    Reader.run (fuel + 4) (readerAfter parts) ('(' :: '.' :: '+' :: '?' :: ')' :: rest) =
      Reader.run fuel (readerAfter (partOf 2 gap :: parts)) rest := rfl

def readParts (patterns : List Pattern) : List Regex.Part :=
  patterns.map fun pattern => partOf (if pattern.isGroup then 2 else 0) pattern

theorem readParts_append (some others : List Pattern) :
    readParts (some ++ others) = readParts some ++ readParts others :=
  List.map_append

theorem readParts_gap (patterns : List Pattern) :
    readParts (gap :: patterns) = partOf 2 gap :: readParts patterns :=
  rfl

private theorem readParts_literals (cs : List Char) :
    readParts (cs.map literal) = cs.map fun c => partOf 0 (literal c) := by
  simp [readParts, literal, Pattern.isGroup]

private theorem length_le_length_quoted (cs : List Char) :
    cs.length ≤ (cs.flatMap quote).length := by
  induction cs with
  | nil => exact Nat.le_refl 0
  | cons c cs ih =>
    have one : 1 ≤ (quote c).length := by rw [quote]; split <;> simp
    rw [List.flatMap_cons, List.length_append, List.length_cons]
    omega

/-- Reading literal characters and then the later stars takes their parts, one after the
other. -/
theorem run_later (cs : List Char) (later : List (List Char)) (parts : List Regex.Part) {fuel : Nat}
    (enough : (cs.flatMap quote ++ laterExpression later).length < fuel) :
    Reader.run fuel (readerAfter parts) (cs.flatMap quote ++ laterExpression later) =
      .ok (readerAfter
        ((readParts (cs.map literal ++ laterParts later)).reverse ++ parts)).current.body := by
  induction later generalizing cs parts fuel with
  | nil =>
    have short := length_le_length_quoted cs
    rw [List.length_append] at enough
    obtain ⟨more, rfl⟩ : ∃ more, fuel = more + 2 + cs.length :=
      ⟨fuel - cs.length - 2, by simp only [laterExpression, List.length_singleton] at enough; omega⟩
    rw [run_literals, readParts_append, readParts_literals, List.reverse_append, List.append_assoc]
    rfl
  | cons part later ih =>
    have short := length_le_length_quoted cs
    simp only [laterExpression, List.length_append, List.length_cons, List.length_nil] at enough
    obtain ⟨more, rfl⟩ : ∃ more, fuel = more + 4 + cs.length := ⟨fuel - cs.length - 4, by omega⟩
    rw [run_literals]
    simp only [laterExpression, List.cons_append, List.nil_append]
    rw [run_gap, ih part _ (by rw [List.length_append]; omega)]
    simp only [laterParts, readParts_append, readParts_gap, readParts_literals, List.reverse_append,
      List.reverse_cons, List.append_assoc, List.cons_append, List.nil_append]

theorem maxHeight_readParts (patterns : List Pattern) :
    Regex.maxHeight (readParts patterns) ≤ 2 := by
  suffices later : ∀ start ≤ 2, ((readParts patterns).map (·.height)).foldl max start ≤ 2 from
    later 0 (Nat.zero_le 2)
  induction patterns with
  | nil => exact fun start low => low
  | cons pattern patterns ih =>
    intro start low
    refine ih _ (Nat.max_le.mpr ⟨low, ?_⟩)
    simp only [partOf]
    split <;> decide

private theorem body_readParts (first second : Pattern) (rest : List Pattern) :
    (readerAfter (readParts (first :: second :: rest)).reverse).current.body =
      partOf (1 + Regex.maxHeight (readParts (first :: second :: rest)))
        (Regex.sequence (first :: second :: rest)) := by
  have patterns :
      (readParts (first :: second :: rest)).map (·.pattern) = first :: second :: rest := by
    simp [readParts, partOf, Function.comp_def]
  simp only [readerAfter, Regex.OpenGroup.body, Regex.OpenGroup.branch, List.reverse_reverse,
    patterns]
  rfl

private theorem laterParts_ne_nil (later : List (List Char)) : laterParts later ≠ [] := by
  cases later <;> exact List.cons_ne_nil _ _

/-- The expression is read as the pattern with its parts. -/
theorem readExpression_expression (first : String) (rest : List String) :
    Regex.readExpression (expression first rest) =
      .ok (Regex.sequence (patternParts first rest)) := by
  have caret (fuel : Nat) (cs : List Char) : Reader.run (fuel + 1) (readerAfter []) ('^' :: cs) =
      Reader.run fuel (readerAfter [partOf 0 (.look .textStart false)]) cs := rfl
  have opening (patterns : List Pattern) : readParts (.look .textStart false :: patterns) =
      partOf 0 (.look .textStart false) :: readParts patterns := rfl
  have later := run_later first.toList (rest.map String.toList)
    [partOf 0 (.look .textStart false)] (Nat.lt_succ_self _)
  have whole : Reader.run ((expression first rest).toList.length + 1) (readerAfter [])
      (expression first rest).toList =
        .ok (readerAfter (readParts (patternParts first rest)).reverse).current.body := by
    rw [expression, String.toList_ofList, List.length_cons, caret, later, patternParts, opening,
      List.reverse_cons]
  obtain ⟨second, others, several⟩ : ∃ second others,
      first.toList.map literal ++ laterParts (rest.map String.toList) = second :: others :=
    List.exists_cons_of_ne_nil fun empty => laterParts_ne_nil _ (List.append_eq_nil_iff.mp empty).2
  rw [patternParts, several] at whole ⊢
  rw [body_readParts] at whole
  have low := maxHeight_readParts (.look .textStart false :: second :: others)
  have shallow : ¬ Regex.nestLimit <
      1 + Regex.maxHeight (readParts (.look .textStart false :: second :: others)) := by
    rw [Regex.nestLimit]
    omega
  show (Reader.run _ (readerAfter []) _ >>= _) = _
  rw [whole]
  exact if_neg shallow

/-- The wildcard `a.*b**`. -/
example : expression "a." ["b", "", ""] = "^a\\.(.+?)b(.+?)(.+?)$" := rfl

theorem contains_single (c d : Char) : (Regex.CharSet.single c).contains d = (c == d) := by
  rw [Bool.eq_iff_iff, beq_iff_eq, ← Char.toNat_inj]
  simp only [Regex.CharSet.single, Text.CodeRanges.contains, Text.CodeRanges.containsCode,
    Text.covers, List.any_cons, List.any_nil, Bool.or_false, Bool.and_eq_true, decide_eq_true_eq]
  omega

theorem contains_notLineEnd (c : Char) :
    (Regex.CharSet.single '\n').complement.contains c = ('\n' != c) := by
  have valid : c.toNat ≤ Text.lastCode := by
    have range : c.toNat < 0xd800 ∨ 0xdfff < c.toNat ∧ c.toNat < 0x110000 := c.valid
    rw [Text.lastCode]
    omega
  rw [Text.CodeRanges.contains, Text.CodeRanges.containsCode_complement _ valid,
    ← Text.CodeRanges.contains, contains_single]
  rfl

section Places

variable {text before after : List Char}

theorem charIs_here {c : Char} (whole : text = before ++ c :: after) (test : Char → Bool) :
    Regex.Look.charIs text.toArray test before.length = test c := by
  subst whole
  simp [Regex.Look.charIs]

theorem charIs_end (test : Char → Bool) :
    Regex.Look.charIs text.toArray test text.length = false := by
  simp [Regex.Look.charIs]

theorem slice_between {taken : List Char} (whole : text = before ++ (taken ++ after)) :
    Pattern.slice text.toArray before.length (before.length + taken.length) =
      String.ofList taken := by
  subst whole
  simp [Pattern.slice]

/-- Literal characters match where they come first. -/
theorem captures?_literals (whole : text = before ++ after) (cs : List Char)
    (parts : List Pattern) :
    Pattern.captures? text.toArray (cs.map literal ++ parts) before.length =
      (afterPrefix? cs after).bind fun _ =>
        Pattern.captures? text.toArray parts (before.length + cs.length) := by
  induction cs generalizing before after with
  | nil => rfl
  | cons p cs ih =>
    cases after with
    | nil =>
      rw [List.append_nil] at whole
      subst whole
      simp [Pattern.captures?, literal, Pattern.ends, charIs_end, afterPrefix?]
    | cons c rest =>
      have later := @ih (before ++ [c]) rest (by simp [whole])
      rw [List.length_append, List.length_singleton] at later
      rw [List.map_cons, List.cons_append, Pattern.captures?, literal, Pattern.ends,
        charIs_here whole, contains_single, afterPrefix?]
      by_cases same : p = c
      · have counted : before.length + (cs.length + 1) = before.length + 1 + cs.length := by omega
        simp [same, later, Pattern.isGroup, counted]
      · simp [same]

/-- The captures of a search that starts after some characters of the first one. -/
def resume (taken : List Char) : List (List Char) → List String
  | [] => []
  | capture :: captures => String.ofList (taken ++ capture) :: captures.map String.ofList

private theorem gap?_ne_nil {part cs : List Char} {next : List Char → Option (List (List Char))} :
    gap? part next cs ≠ some [] := by
  cases cs with
  | nil => simp [gap?]
  | cons c rest =>
    rw [gap?]
    split
    · simp
    · split
      · simp
      · split <;> simp

/-- Trying one end of a repetition after the other is the search for a gap, where what is
tried after each of them is what comes after the gap. -/
theorem findSome?_gap {taken part : List Char} {next : List Char → Option (List (List Char))}
    {tail : Nat → Option (List String)} {fuel : Nat} (whole : text = before ++ (taken ++ after))
    (agrees : ∀ {earlier rest}, text = earlier ++ rest →
      tail earlier.length = ((afterPrefix? part rest).bind next).map (·.map String.ofList))
    (enough : after.length < fuel) :
    (List.range' (before.length + taken.length + 1)
        (Regex.runLength text.toArray (Regex.CharSet.single '\n').complement.contains fuel
          (before.length + taken.length))).findSome?
        (fun stop => (tail stop).map fun later =>
          Pattern.slice text.toArray before.length stop :: later) =
      (gap? part next after).map (resume taken) := by
  obtain ⟨more, rfl⟩ : ∃ more, fuel = more + 1 := ⟨fuel - 1, by omega⟩
  induction after generalizing taken more with
  | nil =>
    have stop : text.length = before.length + taken.length := by simp [whole]
    simp [Regex.runLength, ← stop, charIs_end, gap?]
  | cons c rest ih =>
    have split : text = (before ++ taken) ++ c :: rest := by simp [whole]
    have here := charIs_here split (Regex.CharSet.single '\n').complement.contains
    rw [List.length_append, contains_notLineEnd] at here
    rw [Regex.runLength, here, gap?]
    by_cases lineEnd : c = '\n'
    · simp [lineEnd]
    · obtain ⟨fuel, rfl⟩ : ∃ fuel, more = fuel + 1 :=
        ⟨more - 1, by simp only [List.length_cons] at enough; omega⟩
      have first := @agrees (before ++ (taken ++ [c])) rest (by simp [whole])
      rw [List.length_append, List.length_append, List.length_singleton, ← Nat.add_assoc] at first
      have captured := @slice_between text before rest (taken ++ [c]) (by simp [whole])
      rw [List.length_append, List.length_singleton, ← Nat.add_assoc] at captured
      have later := @ih (taken ++ [c]) (by simp [whole]) fuel (by simpa using enough)
      rw [List.length_append, List.length_singleton, ← Nat.add_assoc] at later
      simp only [bne_iff_ne, ne_eq, Ne.symm lineEnd, not_false_eq_true, if_true, lineEnd, if_false,
        List.range'_succ, List.findSome?_cons, first, captured]
      cases found : (afterPrefix? part rest).bind next with
      | some captures => simp [resume]
      | none =>
        simp only [Option.map_none]
        rw [later]
        cases answer : gap? part next rest with
        | none => rfl
        | some captures =>
          cases captures with
          | nil => exact absurd answer gap?_ne_nil
          | cons capture captures => simp [resume]

/-- Going through the parts of the later stars finds what the search of the wildcard finds. -/
theorem captures?_laterParts (whole : text = before ++ after) (later : List (List Char)) :
    Pattern.captures? text.toArray (laterParts later) before.length =
      (fill? later after).map (·.map String.ofList) := by
  induction later generalizing before after with
  | nil =>
    subst whole
    cases after <;> simp [laterParts, Pattern.captures?, Pattern.ends, Regex.Look.holds, fill?,
      Pattern.isGroup]
  | cons part later ih =>
    have agrees {earlier rest : List Char} (split : text = earlier ++ rest) :
        Pattern.captures? text.toArray (part.map literal ++ laterParts later) earlier.length =
          ((afterPrefix? part rest).bind (fill? later)).map (·.map String.ofList) := by
      rw [captures?_literals split]
      cases found : afterPrefix? part rest with
      | none => rfl
      | some left =>
        obtain rfl := afterPrefix?_eq_some.mp found
        have continued := @ih (earlier ++ part) left (by simp [split])
        rwa [List.length_append] at continued
    have enough : after.length < text.toArray.size + 2 := by
      simp only [whole, List.size_toArray, List.length_append]
      omega
    have searched := @findSome?_gap text before after [] part (fill? later) _ _
      (by simpa using whole) agrees enough
    simp only [List.length_nil, Nat.add_zero] at searched
    rw [laterParts, Pattern.captures?, gap, Pattern.ends, Regex.ends_lazySet]
    simp only [Pattern.isGroup, if_true]
    rw [searched, fill?]
    cases gap? part (fill? later) after with
    | none => rfl
    | some captures => cases captures <;> simp [resume]

end Places

private theorem captures?_afterStart (first key : String) (rest : List String) :
    Pattern.captures? key.toList.toArray
        (first.toList.map literal ++ laterParts (rest.map String.toList)) 0 =
      (many (first :: rest)).captures? key := by
  have literals := @captures?_literals key.toList [] key.toList rfl first.toList
    (laterParts (rest.map String.toList))
  simp only [List.length_nil, Nat.zero_add] at literals
  rw [literals, captures?, captureChars?_many]
  cases found : afterPrefix? first.toList key.toList with
  | none => rfl
  | some after => exact captures?_laterParts (afterPrefix?_eq_some.mp found) _

/-- A wildcard of the general form matches what its expression matches, and captures what the
groups of the expression capture. -/
theorem expression_captures (first key : String) (rest : List String) :
    ∃ parts, Regex.readExpression (expression first rest) = .ok (Regex.sequence parts) ∧
      (Regex.sequence parts).isMatch key = ((many (first :: rest)).captures? key).isSome ∧
      Pattern.captures? key.toList.toArray parts 0 = (many (first :: rest)).captures? key := by
  refine ⟨patternParts first rest, readExpression_expression first rest, ?_, ?_⟩
  · rw [patternParts, Regex.Pattern.isMatch_sequence_textStart, captures?_afterStart]
  · rw [← captures?_afterStart]
    simp [patternParts, Pattern.captures?, Pattern.ends, Regex.Look.holds, Pattern.isGroup]

end Reshape.Key.Star
