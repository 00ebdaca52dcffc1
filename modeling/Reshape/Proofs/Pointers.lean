import Reshape.Json
import Reshape.Pointer
import Reshape.Proofs.Numerals

namespace Reshape

open Decimal

namespace Pointer

/-- The characters that were escaped as these; none if a tilde begins no escape. -/
def unescapeChars? : List Char → Option (List Char)
  | [] => some []
  | '~' :: '0' :: rest => (unescapeChars? rest).map ('~' :: ·)
  | '~' :: '1' :: rest => (unescapeChars? rest).map ('/' :: ·)
  | '~' :: _ => none
  | c :: rest => (unescapeChars? rest).map (c :: ·)

def readSegment? (cs : List Char) : Option String :=
  (unescapeChars? cs).map String.ofList

/-- Reads the text of a pointer: the root `#`, and segments with a slash before each. -/
def read? (text : String) : Option Pointer :=
  match text.toList with
  | '#' :: rest =>
    match rest.splitOn '/' with
    | [] :: segments => segments.mapM readSegment?
    | _ => none
  | _ => none

private theorem unescapeChars?_cons {c : Char} (other : c ≠ '~') (rest : List Char) :
    unescapeChars? (c :: rest) = (unescapeChars? rest).map (c :: ·) := by
  rw [unescapeChars?]
  all_goals
    intros
    exact other ‹_›

/-- Escaping can be undone, also for text that looks like an escape. -/
theorem unescapeChars?_escapeChars (cs : List Char) : unescapeChars? (escapeChars cs) = some cs := by
  induction cs with
  | nil => rfl
  | cons c rest ih =>
    change unescapeChars? (escapeChar c ++ escapeChars rest) = some (c :: rest)
    by_cases tilde : c = '~'
    · subst tilde
      change (unescapeChars? (escapeChars rest)).map ('~' :: ·) = _
      rw [ih, Option.map_some]
    by_cases slash : c = '/'
    · subst slash
      change (unescapeChars? (escapeChars rest)).map ('/' :: ·) = _
      rw [ih, Option.map_some]
    · rw [escapeChar, if_neg tilde, if_neg slash, List.singleton_append, unescapeChars?_cons tilde,
        ih, Option.map_some]

theorem readSegment?_escapeChars (segment : String) :
    readSegment? (escapeChars segment.toList) = some segment := by
  rw [readSegment?, unescapeChars?_escapeChars, Option.map_some, String.ofList_toList]

/-- A slash always separates segments. -/
theorem slash_not_mem_escapeChars (cs : List Char) : '/' ∉ escapeChars cs := by
  intro present
  obtain ⟨c, -, present⟩ := List.mem_flatMap.mp present
  unfold escapeChar at present
  split at present
  · simp at present
  split at present
  · simp at present
  · rename_i other
    exact other (List.mem_singleton.mp present).symm

theorem splitOn_segments (front : List Char) (plain : '/' ∉ front) (segments : Pointer) :
    (front ++ segments.flatMap fun segment => '/' :: escapeChars segment.toList).splitOn '/' =
      front :: segments.map fun segment => escapeChars segment.toList := by
  induction segments generalizing front with
  | nil => rw [List.flatMap_nil, List.append_nil, List.map_nil, List.splitOn_eq_singleton plain]
  | cons segment rest ih =>
    rw [List.flatMap_cons, List.cons_append, List.splitOn_append_cons_self_of_not_mem plain,
      ih _ (slash_not_mem_escapeChars _), List.map_cons]

private theorem mapM_readSegment? (segments : Pointer) :
    (segments.map fun segment => escapeChars segment.toList).mapM readSegment? =
      some segments := by
  induction segments with
  | nil => rfl
  | cons segment rest ih =>
    rw [List.map_cons, List.mapM_cons, readSegment?_escapeChars, ih]
    rfl

/-- The text of a pointer is read as the pointer. -/
theorem read?_text (segments : Pointer) : read? (text segments) = some segments := by
  have written : (text segments).toList =
      '#' :: ([] ++ segments.flatMap fun segment => '/' :: escapeChars segment.toList) := by
    rw [text, render, String.toList_ofList, renderChars]
    rfl
  have split := splitOn_segments [] List.not_mem_nil segments
  simp only [read?, written, split, mapM_readSegment?]

/-- Replaces each tilde that has a digit after it, together with the digit, by a character. -/
def replacePair (digit replacement : Char) : List Char → List Char
  | c :: next :: rest =>
    if c = '~' ∧ next = digit then replacement :: replacePair digit replacement rest
    else c :: replacePair digit replacement (next :: rest)
  | cs => cs

/-- Undoes the escapes of slashes in a segment, and then those of tildes. -/
def unescape (cs : List Char) : String :=
  String.ofList (replacePair '0' '~' (replacePair '1' '/' cs))

/-- Reads what stands after the root of a pointer: it is split at its slashes, with nothing in
front of the first one, and the escapes of each piece are undone. -/
def readBelow? (below : List Char) : Option Pointer :=
  match below.splitOn '/' with
  | [] :: pieces => some (pieces.map unescape)
  | _ => none

/-- A segment with its tildes escaped and its slashes as they are. -/
def escapeTildes (cs : List Char) : List Char :=
  cs.flatMap fun c => if c = '~' then ['~', '0'] else [c]

theorem replacePair_cons {digit replacement c : Char} (other : c ≠ '~') (rest : List Char) :
    replacePair digit replacement (c :: rest) = c :: replacePair digit replacement rest := by
  cases rest with
  | nil => rfl
  | cons next rest => exact if_neg fun pair => other pair.1

/-- Escaping marks each tilde with a zero, so a tilde before a one comes from a slash. -/
theorem replacePair_escapeChars (cs : List Char) :
    replacePair '1' '/' (escapeChars cs) = escapeTildes cs := by
  induction cs with
  | nil => rfl
  | cons c rest ih =>
    rw [escapeTildes, List.flatMap_cons, ← escapeTildes, ← ih]
    change replacePair '1' '/' (escapeChar c ++ escapeChars rest) = _
    by_cases tilde : c = '~'
    · subst tilde
      change '~' :: replacePair '1' '/' ('0' :: escapeChars rest) = _
      rw [replacePair_cons (by decide)]
      rfl
    by_cases slash : c = '/'
    · subst slash
      rfl
    · rw [escapeChar, if_neg tilde, if_neg slash, if_neg tilde, List.singleton_append,
        replacePair_cons tilde, List.singleton_append]

private theorem replacePair_escapeTildes (cs : List Char) :
    replacePair '0' '~' (escapeTildes cs) = cs := by
  induction cs with
  | nil => rfl
  | cons c rest ih =>
    rw [escapeTildes, List.flatMap_cons, ← escapeTildes]
    by_cases tilde : c = '~'
    · subst tilde
      change '~' :: replacePair '0' '~' (escapeTildes rest) = _
      rw [ih]
    · rw [if_neg tilde, List.singleton_append, replacePair_cons tilde, ih]

private theorem unescape_escapeChars (segment : String) :
    unescape (escapeChars segment.toList) = segment := by
  rw [unescape, replacePair_escapeChars, replacePair_escapeTildes, String.ofList_toList]

private theorem readBelow?_segments (segments : Pointer) :
    readBelow? (segments.flatMap fun segment => '/' :: escapeChars segment.toList) =
      some segments := by
  have split := splitOn_segments [] List.not_mem_nil segments
  rw [List.nil_append] at split
  have undone : (segments.map fun segment => escapeChars segment.toList).map unescape =
      segments := by
    rw [List.map_map]
    exact List.map_id'' unescape_escapeChars segments
  simp only [readBelow?, split, undone]

/-- Pointers below one root have the same text only if they are the same, whatever their keys
are: what stands after the root tells the segments. -/
theorem render_identifies (root : String) (first second : Pointer) :
    (render root first = render root second ↔ first = second) ∧
      ∃ below, (render root first).toList = root.toList ++ below ∧
        readBelow? below = some first := by
  have written (segments : Pointer) : (render root segments).toList = root.toList ++
      segments.flatMap fun segment => '/' :: escapeChars segment.toList := by
    rw [render, String.toList_ofList, renderChars]
  refine ⟨⟨fun same => ?_, congrArg (render root)⟩, _, written first, readBelow?_segments first⟩
  have chars := congrArg String.toList same
  rw [written, written] at chars
  have read := congrArg readBelow? (List.append_cancel_left chars)
  rw [readBelow?_segments, readBelow?_segments] at read
  exact Option.some.inj read

/-- Keys that look like escapes. -/
example : render "#/0" ["~1", "a/b", "", "~01"] = "#/0/~01/a~1b//~001" ∧
    readBelow? "/~01/a~1b//~001".toList = some ["~1", "a/b", "", "~01"] := by
  decide

end Pointer

namespace Json

/-- What a segment of a pointer leads to: the member with this key, or the item whose index
has this decimal text. -/
def step? (segment : String) : Json → Option Json
  | .obj members => Members.get? segment members
  | .arr items =>
    ((readNat segment.toList).filter fun index => natText index = segment).bind fun index =>
      items[index]?
  | _ => none

def at? : Pointer → Json → Option Json
  | [], doc => some doc
  | segment :: rest, doc => (doc.step? segment).bind (at? rest)

variable {doc : Json}

theorem step?_item (items : List Json) (index : Nat) :
    step? (natText index) (.arr items) = items[index]? := by
  have read : ((readNat (natText index).toList).filter fun place => natText place = natText index) =
      some index := by
    rw [natText, String.toList_ofList, readNat_natChars]
    exact if_pos (decide_eq_true rfl)
  rw [step?, read, Option.bind_some]

theorem at?_singleton (segment : String) (doc : Json) : doc.at? [segment] = doc.step? segment := by
  rw [at?]
  cases doc.step? segment <;> rfl

theorem at?_append (parent rest : Pointer) (doc : Json) :
    doc.at? (parent ++ rest) = (doc.at? parent).bind (at? rest) := by
  induction parent generalizing doc with
  | nil => rfl
  | cons segment parent ih =>
    rw [List.cons_append, at?, at?, Option.bind_assoc]
    exact Option.bind_congr fun child _ => ih child

end Json

end Reshape
