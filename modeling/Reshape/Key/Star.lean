import Reshape.Key.Lexeme

/-! Wildcards. Each star takes at least one character of the key and captures it.
With one star the capture is what stands between the literal parts; with two stars
the first capture ends at the leftmost possible place; with more stars, or with
stars side by side, every capture is as short as the ones before it allow, and no
capture crosses the end of a line. -/

namespace Reshape.Key

inductive Star where
  /-- A star alone: every key, without captures. -/
  | any
  /-- One star between two literal parts. -/
  | single (before after : String)
  /-- Two stars around a literal part that is not empty. -/
  | double (before middle after : String)
  /-- The literal parts around any number of stars. -/
  | many (parts : List String)
deriving DecidableEq, Repr

namespace Star

/-- The characters after a literal that must come first. -/
def afterPrefix? : List Char → List Char → Option (List Char)
  | [], cs => some cs
  | _ :: _, [] => none
  | p :: ps, c :: cs => if p = c then afterPrefix? ps cs else none

/-- The characters before a literal that must come last. -/
def beforeSuffix? (last cs : List Char) : Option (List Char) :=
  (afterPrefix? last.reverse cs.reverse).map List.reverse

/-- What stands between two literals that must come first and last. -/
def between? (first last cs : List Char) : Option (List Char) :=
  (afterPrefix? first cs).bind (beforeSuffix? last)

/-- Cuts a text at the leftmost occurrence of a literal that leaves at least one
character on both sides. -/
def cut? (middle : List Char) : List Char → Option (List Char × List Char)
  | [] => none
  | c :: rest =>
    match afterPrefix? middle rest with
    | some (d :: after) => some ([c], d :: after)
    | _ => (cut? middle rest).map fun (before, after) => (c :: before, after)

/-- The shortest capture of at least one character, without the end of a line, that
is followed by the literal `part` and then by what `next` accepts; `next` gives the
captures of the rest. -/
def gap? (part : List Char) (next : List Char → Option (List (List Char))) :
    List Char → Option (List (List Char))
  | [] => none
  | c :: rest =>
    if c = '\n' then none
    else
      match (afterPrefix? part rest).bind next with
      | some captures => some ([c] :: captures)
      | none =>
        match gap? part next rest with
        | some (capture :: captures) => some ((c :: capture) :: captures)
        | _ => none

/-- The captures of a text in which a star stands before each of the literal parts. -/
def fill? : List (List Char) → List Char → Option (List (List Char))
  | [], cs => if cs.isEmpty then some [] else none
  | part :: parts, cs => gap? part (fill? parts) cs

/-- The ends of a text, the longest first. -/
def suffixes : List Char → List (List Char)
  | [] => [[]]
  | c :: rest => (c :: rest) :: suffixes rest

/-- What `gap?` finds in each end of a text, where `answers` lists what `next` says
of each of them: every end is looked at once. -/
def gaps (part : List Char) :
    List Char → List (Option (List (List Char))) → List (Option (List (List Char)))
  | [], _ => [none]
  | c :: rest, answers =>
    let later := gaps part rest answers.tail
    let here :=
      if c = '\n' then none
      else
        match (afterPrefix? part rest).bind fun _ =>
            (answers.tail.drop part.length).headD none with
        | some captures => some ([c] :: captures)
        | none =>
          match later.headD none with
          | some (capture :: captures) => some ((c :: capture) :: captures)
          | _ => none
    here :: later

/-- What `fill?` finds in each end of a text. -/
def fills : List (List Char) → List Char → List (Option (List (List Char)))
  | [], cs => (suffixes cs).map (fill? [])
  | part :: parts, cs => gaps part cs (fills parts cs)

theorem afterPrefix?_eq_some {part cs rest : List Char} :
    afterPrefix? part cs = some rest ↔ cs = part ++ rest := by
  induction part generalizing cs with
  | nil => simp [afterPrefix?, eq_comm]
  | cons p ps ih =>
    cases cs with
    | nil => simp [afterPrefix?]
    | cons c cs =>
      by_cases h : p = c
      · simp [afterPrefix?, h, ih]
      · simp [afterPrefix?, h, Ne.symm h]

theorem headD_map_suffixes {α : Type} (f : List Char → α) (d : α) (cs : List Char) :
    ((suffixes cs).map f).headD d = f cs := by
  cases cs <;> rfl

private theorem drop_suffixes (part rest : List Char) :
    (suffixes (part ++ rest)).drop part.length = suffixes rest := by
  induction part with
  | nil => rfl
  | cons p ps ih => simpa [suffixes] using ih

private theorem gaps_map_suffixes (part cs : List Char)
    (next : List Char → Option (List (List Char))) :
    gaps part cs ((suffixes cs).map next) = (suffixes cs).map (gap? part next) := by
  induction cs with
  | nil => rfl
  | cons c rest ih =>
    have following :
        ((afterPrefix? part rest).bind fun _ =>
          (((suffixes rest).map next).drop part.length).headD none) =
        (afterPrefix? part rest).bind next := by
      cases found : afterPrefix? part rest with
      | none => rfl
      | some after =>
        obtain rfl := afterPrefix?_eq_some.1 found
        rw [← List.map_drop, drop_suffixes]
        exact headD_map_suffixes next none after
    simp only [gaps, suffixes, List.map_cons, List.tail_cons, ih, following,
      headD_map_suffixes, gap?]

private theorem fills_eq (parts : List (List Char)) (cs : List Char) :
    fills parts cs = (suffixes cs).map (fill? parts) := by
  induction parts with
  | nil => rfl
  | cons part parts ih => rw [fills, ih, gaps_map_suffixes]; rfl

def captureChars? : Star → List Char → Option (List (List Char))
  | any, _ => some []
  | single before after, cs =>
    match between? before.toList after.toList cs with
    | some (c :: rest) => some [c :: rest]
    | _ => none
  | double before middle after, cs =>
    ((between? before.toList after.toList cs).bind (cut? middle.toList)).map
      fun (first, second) => [first, second]
  | many [], cs => fill? [] cs
  | many (part :: parts), cs =>
    (afterPrefix? part.toList cs).bind fun rest =>
      (fills (parts.map String.toList) rest).headD none

/-- The table answers as the search does. -/
theorem captureChars?_many (part : String) (parts : List String) (cs : List Char) :
    (many (part :: parts)).captureChars? cs =
      (afterPrefix? part.toList cs).bind (fill? (parts.map String.toList)) := by
  simp only [captureChars?, fills_eq, headD_map_suffixes]

def captures? (star : Star) (key : String) : Option (List String) :=
  (star.captureChars? key.toList).map (·.map String.ofList)

/-- The wildcard with these literal parts around its stars; a star alone aside. There is one for
any number of parts: the limit on the size of a regular expression, which one of very many
stars would exceed, is left out. -/
def ofParts : List String → Star
  | [before, after] => single before after
  | [before, middle, after] =>
    if middle.isEmpty then many [before, middle, after] else double before middle after
  | parts => many parts

def parts : Star → List String
  | any => ["", ""]
  | single before after => [before, after]
  | double before middle after => [before, middle, after]
  | many parts => parts

/-- Joins characters with a star between neighbours. -/
def joinStars : List (List Char) → List Char
  | [] => []
  | [part] => part
  | part :: rest => part ++ '*' :: joinStars rest

/-- The canonical form of a wildcard. -/
def chars (star : Star) : List Char :=
  joinStars (star.parts.map fun part => escapeChars part.toList)

/-- Whether what the wildcard matches can be told apart from literal siblings: the
general form is not asked. -/
def isSimple : Star → Bool
  | many _ => false
  | _ => true

end Star

end Reshape.Key
