import Mathlib.Algebra.Ring.Nat
import Mathlib.Data.List.Lex
import Reshape.Proofs.Key.StarExpressions
import Reshape.Proofs.Key.Wildcards

/-! What wildcards of the general form match. Of all ways to fill the stars it finds the
shortest, the first star first, like the wildcards with one and with two stars; but no
capture of it has the end of a line. All ways to fill the stars of one key take the same
ends of lines, so that either each of them will do or none. -/

namespace Reshape.Key.Star

/-- A text in which a star stands before each literal part, and what fills the stars. -/
inductive Fills : List (List Char) → List Char → List (List Char) → Prop where
  | nil : Fills [] [] []
  | cons {capture part rest : List Char} {parts captures : List (List Char)}
      (filled : capture ≠ []) (later : Fills parts rest captures) :
      Fills (part :: parts) (capture ++ (part ++ rest)) (capture :: captures)

/-- Whether the first of two captures that differ in length is the shorter one in `some`. -/
def Before (some other : List (List Char)) : Prop :=
  List.Lex (· < ·) (some.map List.length) (other.map List.length)

def LineFree (captures : List (List Char)) : Prop :=
  ∀ capture ∈ captures, '\n' ∉ capture

/-- A way to fill the stars before which there is no other. -/
structure FirstFill (parts : List (List Char)) (cs : List Char) (captures : List (List Char)) :
    Prop where
  fills : Fills parts cs captures
  least : ∀ {other}, Fills parts cs other → ¬ Before other captures

theorem before_cons {c d : List Char} {cs ds : List (List Char)} :
    Before (c :: cs) (d :: ds) ↔
      c.length < d.length ∨ c.length = d.length ∧ Before cs ds := by
  simp only [Before, List.map_cons]
  exact List.cons_lex_cons_iff

theorem fills_nil {cs : List Char} {captures : List (List Char)} :
    Fills [] cs captures ↔ cs = [] ∧ captures = [] := by
  constructor
  · rintro ⟨⟩
    exact ⟨rfl, rfl⟩
  · rintro ⟨rfl, rfl⟩
    exact .nil

theorem fills_cons {part : List Char} {parts : List (List Char)} {cs : List Char}
    {captures : List (List Char)} :
    Fills (part :: parts) cs captures ↔
      ∃ capture rest later, capture ≠ [] ∧ cs = capture ++ (part ++ rest) ∧
        captures = capture :: later ∧ Fills parts rest later := by
  constructor
  · rintro ⟨⟩
    rename_i filled later
    exact ⟨_, _, _, filled, rfl, rfl, later⟩
  · rintro ⟨capture, rest, later, filled, rfl, rfl, more⟩
    exact .cons filled more

/-- The first capture is one character, or it goes on into a filling of the rest. -/
theorem fills_cons_cons {part rest : List Char} {parts captures : List (List Char)} {c : Char} :
    Fills (part :: parts) (c :: rest) captures ↔
      (∃ after later, captures = [c] :: later ∧ rest = part ++ after ∧ Fills parts after later) ∨
      ∃ more later, captures = (c :: more) :: later ∧ Fills (part :: parts) rest (more :: later) := by
  constructor
  · intro fills
    obtain ⟨capture, after, later, filled, whole, rfl, further⟩ := fills_cons.mp fills
    cases capture with
    | nil => exact absurd rfl filled
    | cons d more =>
      obtain ⟨rfl, rfl⟩ := List.cons.inj whole
      cases more with
      | nil => exact .inl ⟨after, later, rfl, rfl, further⟩
      | cons e more => exact .inr ⟨e :: more, later, rfl, .cons (by simp) further⟩
  · rintro (⟨after, later, rfl, rfl, fills⟩ | ⟨more, later, rfl, fills⟩)
    · exact .cons (List.cons_ne_nil c []) fills
    · cases fills with
      | cons filled fills => exact .cons (List.cons_ne_nil c more) fills

private theorem before_trichotomy {parts captures others : List (List Char)} {cs : List Char}
    (fills : Fills parts cs captures) (also : Fills parts cs others) :
    Before captures others ∨ captures = others ∨ Before others captures := by
  induction fills generalizing others with
  | nil =>
    obtain ⟨-, rfl⟩ := fills_nil.mp also
    exact .inr (.inl rfl)
  | @cons capture part rest parts captures filled later ih =>
    obtain ⟨other, rest', others, -, whole, rfl, also⟩ := fills_cons.mp also
    rcases Nat.lt_trichotomy capture.length other.length with shorter | same | shorter
    · exact .inl (before_cons.mpr (.inl shorter))
    · obtain ⟨rfl, tail⟩ := List.append_inj whole same
      obtain rfl := List.append_cancel_left tail
      rcases ih also with before | rfl | before
      · exact .inl (before_cons.mpr (.inr ⟨rfl, before⟩))
      · exact .inr (.inl rfl)
      · exact .inr (.inr (before_cons.mpr (.inr ⟨rfl, before⟩)))
    · exact .inr (.inr (before_cons.mpr (.inl shorter)))

theorem firstFill_unique {parts captures others : List (List Char)} {cs : List Char}
    (first : FirstFill parts cs captures) (second : FirstFill parts cs others) :
    captures = others := by
  rcases before_trichotomy first.fills second.fills with before | same | before
  · exact absurd before (second.least first.fills)
  · exact same
  · exact absurd before (first.least second.fills)

def lineEnds (cs : List Char) : Nat := cs.count '\n'

private theorem lineFree_iff {captures : List (List Char)} :
    LineFree captures ↔ (captures.map lineEnds).sum = 0 := by
  induction captures with
  | nil => simp [LineFree]
  | cons capture captures ih =>
    simp only [LineFree, List.forall_mem_cons, List.map_cons, List.sum_cons, Nat.add_eq_zero_iff,
      lineEnds, List.count_eq_zero] at ih ⊢
    rw [ih]

/-- The captures have what ends of lines the literal parts leave. -/
theorem lineEnds_fills {parts captures : List (List Char)} {cs : List Char}
    (fills : Fills parts cs captures) :
    lineEnds cs = (parts.map lineEnds).sum + (captures.map lineEnds).sum := by
  induction fills with
  | nil => rfl
  | cons filled later ih =>
    simp only [lineEnds, List.count_append, List.map_cons, List.sum_cons] at ih ⊢
    omega

theorem lineFree_iff_of_fills {parts captures : List (List Char)} {cs : List Char}
    (fills : Fills parts cs captures) :
    LineFree captures ↔ lineEnds cs = (parts.map lineEnds).sum := by
  rw [lineFree_iff, lineEnds_fills fills]
  omega

/-- One way to fill the stars takes the ends of lines that another one takes. -/
theorem lineFree_congr {parts captures others : List (List Char)} {cs : List Char}
    (fills : Fills parts cs captures) (also : Fills parts cs others) :
    LineFree captures ↔ LineFree others :=
  (lineFree_iff_of_fills fills).trans (lineFree_iff_of_fills also).symm

/-- What a search of fillings has to find in a text. -/
def Answers (parts : List (List Char)) (cs : List Char) :
    Option (List (List Char)) → Prop
  | some captures => FirstFill parts cs captures ∧ LineFree captures
  | none => ∀ captures, Fills parts cs captures → ¬ LineFree captures

theorem answers_lineEnd (part rest : List Char) (parts : List (List Char)) :
    Answers (part :: parts) ('\n' :: rest) none := by
  intro captures fills free
  obtain ⟨capture, after, later, filled, whole, rfl, -⟩ := fills_cons.mp fills
  cases capture with
  | nil => exact filled rfl
  | cons d more =>
    obtain ⟨rfl, -⟩ := List.cons.inj whole
    exact free ('\n' :: more) (by simp) (by simp)

/-- The literal part comes after one character, and the rest can be filled. -/
theorem answers_here {part after : List Char} {parts captures : List (List Char)} {c : Char}
    (other : c ≠ '\n') (answers : Answers parts after (some captures)) :
    Answers (part :: parts) (c :: (part ++ after)) (some ([c] :: captures)) := by
  obtain ⟨⟨fills, least⟩, free⟩ := answers
  refine ⟨⟨.cons (List.cons_ne_nil c []) fills, ?_⟩, ?_⟩
  · intro others also before
    rcases fills_cons_cons.mp also with ⟨after', later, rfl, same, fills'⟩ | ⟨more, later, rfl, fills'⟩
    · obtain rfl := List.append_cancel_left same
      rcases before_cons.mp before with shorter | ⟨-, before⟩
      · exact absurd shorter (Nat.lt_irrefl _)
      · exact least fills' before
    · obtain ⟨capture, _, _, filled, -, same, -⟩ := fills_cons.mp fills'
      obtain ⟨rfl, rfl⟩ := List.cons.inj same
      have long := List.length_pos_iff.mpr filled
      rcases before_cons.mp before with shorter | ⟨same, -⟩
      · simp at shorter
      · simp only [List.length_cons, List.length_nil] at same
        omega
  · intro capture member
    rcases List.mem_cons.mp member with rfl | member
    · simpa using Ne.symm other
    · exact free capture member

section Later

variable {part rest : List Char} {parts : List (List Char)} {c : Char}

/-- The literal part does not come after one character, or what is left then can not be
filled, and neither can the rest. -/
theorem answers_none (missed : ∀ after, rest = part ++ after → Answers parts after none)
    (answers : Answers (part :: parts) rest none) : Answers (part :: parts) (c :: rest) none := by
  intro captures fills free
  rcases fills_cons_cons.mp fills with ⟨after, later, rfl, whole, further⟩ | ⟨more, later, rfl, further⟩
  · exact missed after whole later further fun capture member => free capture (by simp [member])
  · refine answers _ further fun capture member => ?_
    rcases List.mem_cons.mp member with rfl | member
    · have whole := free (c :: capture) (by simp)
      exact fun present => whole (by simp [present])
    · exact free capture (by simp [member])

private theorem answers_longer {capture : List Char} {captures : List (List Char)}
    (other : c ≠ '\n') (missed : ∀ after, rest = part ++ after → Answers parts after none)
    (answers : Answers (part :: parts) rest (some (capture :: captures))) :
    Answers (part :: parts) (c :: rest) (some ((c :: capture) :: captures)) := by
  obtain ⟨⟨fills, least⟩, free⟩ := answers
  have longer : Fills (part :: parts) (c :: rest) ((c :: capture) :: captures) :=
    fills_cons_cons.mpr (.inr ⟨capture, captures, rfl, fills⟩)
  have clean : LineFree ((c :: capture) :: captures) := by
    intro text member
    rcases List.mem_cons.mp member with rfl | member
    · simpa [Ne.symm other] using free capture (by simp)
    · exact free text (by simp [member])
  refine ⟨⟨longer, ?_⟩, clean⟩
  intro others also before
  rcases fills_cons_cons.mp also with ⟨after, later, rfl, whole, further⟩ | ⟨more, later, rfl, further⟩
  · -- this one would be free of line ends like the one that was found
    have free' := (lineFree_congr longer also).mp clean
    exact missed after whole later further fun text member => free' text (by simp [member])
  · refine least further (before_cons.mpr ?_)
    rcases before_cons.mp before with shorter | ⟨same, before⟩
    · exact .inl (by simpa using shorter)
    · exact .inr ⟨by simpa using same, before⟩

end Later

/-- Looking for one gap after the other finds the first way to fill the stars. -/
theorem fill?_answers (parts : List (List Char)) (cs : List Char) :
    Answers parts cs (fill? parts cs) := by
  induction parts generalizing cs with
  | nil =>
    cases cs with
    | nil =>
      refine ⟨⟨.nil, ?_⟩, by simp [LineFree]⟩
      intro others also before
      obtain ⟨-, rfl⟩ := fills_nil.mp also
      cases before
    | cons c rest =>
      intro captures fills
      cases (fills_nil.mp fills).1
  | cons part parts ih =>
    rw [fill?]
    induction cs with
    | nil =>
      intro captures fills
      obtain ⟨capture, after, later, filled, whole, -⟩ := fills_cons.mp fills
      exact absurd (List.append_eq_nil_iff.mp whole.symm).1 filled
    | cons c rest later =>
      rw [gap?]
      split
      · rename_i same
        subst same
        exact answers_lineEnd part rest parts
      · rename_i other
        cases found : (afterPrefix? part rest).bind (fill? parts) with
        | some captures =>
          obtain ⟨after, first, filled⟩ := Option.bind_eq_some_iff.mp found
          obtain rfl := afterPrefix?_eq_some.mp first
          have answers := ih after
          rw [filled] at answers
          exact answers_here other answers
        | none =>
          have missed : ∀ after, rest = part ++ after → Answers parts after none := by
            rintro after rfl
            have answers := ih after
            rwa [Option.bind_eq_none_iff.mp found after (afterPrefix?_eq_some.mpr rfl)] at answers
          dsimp only
          split
          · rename_i capture captures answer
            rw [answer] at later
            exact answers_longer other missed later
          · rename_i empty
            cases answer : gap? part (fill? parts) rest with
            | none =>
              rw [answer] at later
              exact answers_none missed later
            | some captures =>
              rw [answer] at later
              obtain ⟨capture, _, more, -, -, rfl, -⟩ := fills_cons.mp later.1.fills
              exact absurd answer (empty capture more)

theorem fill?_eq_some {parts captures : List (List Char)} {cs : List Char} :
    fill? parts cs = some captures ↔ FirstFill parts cs captures ∧ LineFree captures := by
  have answers := fill?_answers parts cs
  constructor
  · intro found
    rwa [found] at answers
  · rintro ⟨first, free⟩
    cases found : fill? parts cs with
    | none =>
      rw [found] at answers
      exact absurd free (answers captures first.fills)
    | some others =>
      rw [found] at answers
      rw [firstFill_unique answers.1 first]

/-- Literal parts with captures between them. -/
def weave : List String → List String → String
  | part :: parts, capture :: captures => part ++ capture ++ weave parts captures
  | [part], [] => part
  | _, _ => ""

/-- A way to take a key apart: there is a capture for each star, and none is empty. -/
structure Weaves (parts : List String) (key : String) (captures : List String) : Prop where
  counted : parts.length = captures.length + 1
  filled : ∀ capture ∈ captures, capture ≠ ""
  whole : key = weave parts captures

/-- The way to take a key apart whose captures are the shortest, the first one first. -/
structure FirstWeave (parts : List String) (key : String) (captures : List String) : Prop where
  weaves : Weaves parts key captures
  least : ∀ other, Weaves parts key other →
    ¬ List.Lex (· < ·) (other.map String.length) (captures.map String.length)

private theorem weaves_nil {part key : String} {captures : List String} :
    Weaves [part] key captures ↔ captures = [] ∧ key = part := by
  constructor
  · rintro ⟨counted, -, whole⟩
    obtain rfl : captures = [] := by simpa using counted
    exact ⟨rfl, whole⟩
  · rintro ⟨rfl, rfl⟩
    exact ⟨rfl, by simp, rfl⟩

private theorem weaves_cons {part next key : String} {parts captures : List String} :
    Weaves (part :: next :: parts) key captures ↔
      ∃ capture later rest, captures = capture :: later ∧ capture ≠ "" ∧
        key = part ++ capture ++ rest ∧ Weaves (next :: parts) rest later := by
  constructor
  · rintro ⟨counted, filled, whole⟩
    cases captures with
    | nil => simp at counted
    | cons capture later =>
      refine ⟨capture, later, _, rfl, filled capture (by simp), whole, ?_, ?_, rfl⟩
      · simpa using counted
      · exact fun other member => filled other (by simp [member])
  · rintro ⟨capture, later, rest, rfl, filled, rfl, weaves⟩
    refine ⟨?_, ?_, ?_⟩
    · simpa using weaves.counted
    · simpa [filled] using weaves.filled
    · rw [weaves.whole, weave]

theorem weaves_iff {part key : String} {parts captures : List String} :
    Weaves (part :: parts) key captures ↔
      ∃ rest, key.toList = part.toList ++ rest ∧
        Fills (parts.map String.toList) rest (captures.map String.toList) := by
  induction parts generalizing part key captures with
  | nil =>
    rw [weaves_nil]
    simp [fills_nil, String.toList_inj, and_comm]
  | cons next parts ih =>
    rw [weaves_cons, List.map_cons]
    constructor
    · rintro ⟨capture, later, rest, rfl, filled, rfl, weaves⟩
      obtain ⟨after, whole, fills⟩ := ih.mp weaves
      refine ⟨capture.toList ++ (next.toList ++ after), by simp [whole], ?_⟩
      exact .cons (by simpa using filled) fills
    · rintro ⟨rest, whole, fills⟩
      obtain ⟨capture, after, later, filled, rfl, same, fills⟩ := fills_cons.mp fills
      obtain ⟨text, texts, rfl, rfl, rfl⟩ := List.map_eq_cons_iff.mp same
      refine ⟨text, texts, next ++ String.ofList after, rfl, by simpa using filled, ?_, ?_⟩
      · exact String.toList_inj.mp (by simpa using whole)
      · exact ih.mpr ⟨after, by simp, fills⟩

private theorem before_texts {some other : List String} :
    Before (some.map String.toList) (other.map String.toList) ↔
      List.Lex (· < ·) (some.map String.length) (other.map String.length) := by
  simp only [Before, List.map_map, Function.comp_def, String.length_toList]

theorem firstWeave_iff {part key : String} {parts captures : List String} :
    FirstWeave (part :: parts) key captures ↔
      ∃ rest, key.toList = part.toList ++ rest ∧
        FirstFill (parts.map String.toList) rest (captures.map String.toList) := by
  constructor
  · rintro ⟨weaves, least⟩
    obtain ⟨rest, whole, fills⟩ := weaves_iff.mp weaves
    refine ⟨rest, whole, fills, ?_⟩
    intro other also before
    have same : (other.map String.ofList).map String.toList = other := by simp [Function.comp_def]
    rw [← same] at also before
    exact least _ (weaves_iff.mpr ⟨rest, whole, also⟩) (before_texts.mp before)
  · rintro ⟨rest, whole, fills, least⟩
    refine ⟨weaves_iff.mpr ⟨rest, whole, fills⟩, ?_⟩
    intro other also before
    obtain ⟨again, whole', fills'⟩ := weaves_iff.mp also
    obtain rfl := List.append_cancel_left (whole.symm.trans whole')
    exact least fills' (before_texts.mpr before)

theorem captures?_many {part key : String} {parts captures : List String} :
    (many (part :: parts)).captures? key = some captures ↔
      FirstWeave (part :: parts) key captures ∧ ∀ capture ∈ captures, '\n' ∉ capture.toList := by
  have free : LineFree (captures.map String.toList) ↔
      ∀ capture ∈ captures, '\n' ∉ capture.toList := by
    simp [LineFree]
  simp only [captures?_eq_some, captureChars?_many, Option.bind_eq_some_iff, afterPrefix?_eq_some,
    fill?_eq_some, firstWeave_iff, free]
  constructor
  · rintro ⟨rest, whole, first, clean⟩
    exact ⟨⟨rest, whole, first⟩, clean⟩
  · rintro ⟨⟨rest, whole, first⟩, clean⟩
    exact ⟨rest, whole, first, clean⟩

def partLineEnds (parts : List String) : Nat :=
  (parts.map fun part => lineEnds part.toList).sum

/-- A key is matched if it can be taken apart and its ends of lines are all in the literal
parts. -/
theorem captures?_many_isSome {part key : String} {parts : List String} :
    ((many (part :: parts)).captures? key).isSome ↔
      (∃ captures, Weaves (part :: parts) key captures) ∧
        lineEnds key.toList = partLineEnds (part :: parts) := by
  have balance {rest : List Char} (whole : key.toList = part.toList ++ rest) :
      lineEnds key.toList = partLineEnds (part :: parts) ↔
        lineEnds rest = ((parts.map String.toList).map lineEnds).sum := by
    rw [whole]
    simp [lineEnds, partLineEnds, Function.comp_def]
  rw [Option.isSome_iff_exists]
  constructor
  · rintro ⟨captures, found⟩
    obtain ⟨first, free⟩ := captures?_many.mp found
    obtain ⟨rest, whole, fills⟩ := weaves_iff.mp first.weaves
    have free : LineFree (captures.map String.toList) := by simpa [LineFree] using free
    exact ⟨⟨captures, first.weaves⟩, (balance whole).mpr ((lineFree_iff_of_fills fills).mp free)⟩
  · rintro ⟨⟨captures, weaves⟩, balanced⟩
    obtain ⟨rest, whole, fills⟩ := weaves_iff.mp weaves
    have free := (lineFree_iff_of_fills fills).mpr ((balance whole).mp balanced)
    have answers := fill?_answers (parts.map String.toList) rest
    cases found : fill? (parts.map String.toList) rest with
    | none =>
      rw [found] at answers
      exact absurd free (answers _ fills)
    | some others =>
      refine ⟨others.map String.ofList, ?_⟩
      rw [captures?_eq_some, captureChars?_many, whole, afterPrefix?_eq_some.mpr rfl]
      simp [found, Function.comp_def]

/-- Two stars around a literal take keys apart in the same way. -/
theorem captures?_double_iff {first middle last key : String} {captures : List String} :
    (double first middle last).captures? key = some captures ↔
      FirstWeave [first, middle, last] key captures := by
  have splits {before after : String} :
      Weaves [first, middle, last] key [before, after] ↔ Splits first middle last key before after := by
    constructor
    · rintro ⟨-, filled, whole⟩
      exact ⟨filled before (by simp), filled after (by simp),
        by simpa [weave, String.append_assoc] using whole⟩
    · rintro ⟨filled, left, whole⟩
      exact ⟨rfl, by simp [filled, left], by simpa [weave, String.append_assoc] using whole⟩
  have pair {others : List String} (weaves : Weaves [first, middle, last] key others) :
      ∃ before after, others = [before, after] :=
    List.length_eq_two.mp (by simpa using weaves.counted.symm)
  rw [captures?_double]
  constructor
  · rintro ⟨before, after, rfl, split, least⟩
    refine ⟨splits.mpr split, ?_⟩
    intro other weaves shorter
    obtain ⟨earlier, later, rfl⟩ := pair weaves
    have also := splits.mp weaves
    have longer := least earlier later also
    have total := congrArg String.length (split.whole.symm.trans also.whole)
    simp only [String.length_append] at total
    simp [List.cons_lex_cons_iff] at shorter
    omega
  · rintro ⟨weaves, least⟩
    obtain ⟨before, after, rfl⟩ := pair weaves
    refine ⟨before, after, rfl, splits.mp weaves, ?_⟩
    intro earlier later split
    by_contra shorter
    exact least [earlier, later] (splits.mpr split) (.rel (by omega))

theorem captures?_many_middle (first middle last key : String) :
    (many [first, middle, last]).captures? key =
      ((double first middle last).captures? key).filter
        fun captures => captures.all fun capture => !capture.toList.contains '\n' := by
  apply Option.ext
  intro captures
  rw [captures?_many, Option.filter_eq_some_iff,
    captures?_double_iff]
  simp

private theorem toList_intercalate_escape (parts : List String) :
    ("*".intercalate (parts.map escape)).toList =
      joinStars (parts.map fun part => escapeChars part.toList) := by
  induction parts with
  | nil => rfl
  | cons part rest ih =>
    cases rest with
    | nil => simp [joinStars, escape]
    | cons next rest =>
      simp only [List.map_cons] at ih
      simp only [List.map_cons, String.intercalate_cons_cons, String.toList_append, ih, joinStars]
      simp [escape]

private theorem parse_many_stars {parts : List String} (wellFormed : (many parts).WellFormed) :
    Element.parse ("*".intercalate (parts.map escape)) = .ok (.star (.many parts)) := by
  have spelled : "*".intercalate (parts.map escape) = (Element.star (.many parts)).canonical := by
    apply String.toList_inj.mp
    rw [toList_intercalate_escape, Element.canonical, String.toList_ofList]
    rfl
  rw [spelled]
  exact Element.parse_canonical wellFormed

/-- A wildcard of the general form, which captures what the groups of its regular expression
capture, takes a key apart in the first way there is, as two stars around a literal do,
provided that no capture has the end of a line: the ends of lines of the key have to be those
of the literal parts. The expression is read without the limit on its size. -/
theorem general_captures (first key : String) (rest : List String) :
    (∃ parts, Regex.readExpression (expression first rest) = .ok (Regex.sequence parts) ∧
      (Regex.sequence parts).isMatch key = ((many (first :: rest)).captures? key).isSome ∧
      Regex.Pattern.captures? key.toList.toArray parts 0 =
        (many (first :: rest)).captures? key) ∧
    (∀ captures, (many (first :: rest)).captures? key = some captures ↔
      FirstWeave (first :: rest) key captures ∧
        ∀ capture ∈ captures, '\n' ∉ capture.toList) ∧
    (((many (first :: rest)).captures? key).isSome ↔
      (∃ captures, Weaves (first :: rest) key captures) ∧
        lineEnds key.toList = partLineEnds (first :: rest)) ∧
    (∀ middle last captures, (double first middle last).captures? key = some captures ↔
      FirstWeave [first, middle, last] key captures) ∧
    (∀ middle last, (many [first, middle, last]).captures? key =
      ((double first middle last).captures? key).filter
        fun captures => captures.all fun capture => !capture.toList.contains '\n') ∧
    ((many (first :: rest)).WellFormed →
      Element.parse ("*".intercalate ((first :: rest).map escape)) =
        .ok (.star (.many (first :: rest)))) :=
  ⟨expression_captures first key rest, fun _ => captures?_many, captures?_many_isSome,
    fun _ _ _ => captures?_double_iff,
    fun middle last => captures?_many_middle first middle last key, parse_many_stars⟩

/-- Two stars side by side take nothing from a key with the end of a line, although there is a
way to take it apart. -/
theorem general_captures_lineEnd :
    Element.parse "**" = .ok (.star (.many ["", "", ""])) ∧
      Weaves ["", "", ""] "a\nb" ["a", "\nb"] ∧
      ((many ["", "", ""]).captures? "a\nb").isSome = false := by
  have weaves : Weaves ["", "", ""] "a\nb" ["a", "\nb"] := ⟨rfl, by decide, rfl⟩
  have wellFormed : (many ["", "", ""]).WellFormed :=
    ⟨by decide, fun before middle after same => by cases same; rfl⟩
  obtain ⟨-, -, matched, -, -, parsed⟩ := general_captures "" "a\nb" ["", ""]
  refine ⟨parsed wellFormed, weaves, Bool.eq_false_iff.mpr fun found => ?_⟩
  exact absurd (matched.mp found).2 (by decide)

end Reshape.Key.Star
