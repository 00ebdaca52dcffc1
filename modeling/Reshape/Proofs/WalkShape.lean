import Reshape.Evaluation
import Reshape.Proofs.Outcome

/-! The shape of a walk: how many levels it has, and how many groups each of them. What
an element adds to the shape can be told from the element, and the shape alone decides
which references are out of range. -/

namespace Reshape

namespace Walk

/-- How many groups each level has, the innermost level first. -/
def shape (w : Walk) : List Nat :=
  w.frames.map (·.matched.groups.length)

variable {w v inner : Walk}

@[simp]
theorem shape_counted (w : Walk) : w.counted.shape = w.shape := by
  unfold counted
  split
  · rfl
  · simp [shape, *, Match.groups, Match.counted]

theorem frames_push {tree : Option Json} {matched : Match}
    (entered : w.push tree matched = .ok inner) :
    inner.frames = ⟨matched, tree, tree.bind Json.arrayLength?⟩ :: w.frames := by
  unfold push enter at entered
  split at entered
  · cases entered
  · cases entered
    rfl

theorem shape_push {tree : Option Json} {matched : Match}
    (entered : w.push tree matched = .ok inner) :
    inner.shape = matched.groups.length :: w.shape := by
  rw [shape, frames_push entered, List.map_cons, shape]

theorem depth_eq (w : Walk) : w.depth = w.shape.length := by
  simp [depth, shape]

theorem groups_frame? (w : Walk) (level : Nat) :
    (w.frame? level).map (·.matched.groups.length) = w.shape[level]? := by
  simp [frame?, shape]

theorem frame?_eq_none (w : Walk) (level : Nat) :
    w.frame? level = none ↔ w.shape.length ≤ level := by
  simp [frame?, shape]

/-- What an error of a reference says, told from the shape. -/
theorem outOfRange_eq (w : Walk) (reference : String) (level : Nat) :
    w.outOfRange reference level =
      .outOfRange reference w.shape.length (w.shape[level]?.getD 0) := by
  rw [outOfRange, depth_eq, ← groups_frame?]
  cases w.frame? level with
  | none => rfl
  | some frame => rfl

/-- What a reference to a level fails with: the program stops if no word counts the level and
it is not there. -/
def fault (w : Walk) (reference : String) (level : Nat) : RunError :=
  if w.shape.length ≤ level ∧ Decimal.wordBound ≤ level + 1 then .overflow
  else w.outOfRange reference level

private theorem fault_of_some {level : Nat} {frame : Frame} (present : w.frame? level = some frame)
    (reference : String) : w.fault reference level = w.outOfRange reference level := by
  refine if_neg fun beyond => ?_
  rw [(frame?_eq_none w level).mpr beyond.1] at present
  cases present

theorem frameAt_bind {α : Type} (next : Option Frame → Except RunError α) (level : Nat)
    {reference : String} (failed : w.frame? level = none →
      next none = .error (w.outOfRange reference level)) :
    w.frameAt level >>= next =
      match w.frame? level with
      | some frame => next (some frame)
      | none => .error (w.fault reference level) := by
  rw [frameAt]
  cases found : w.frame? level with
  | some frame => rfl
  | none =>
    have outside := (frame?_eq_none w level).mp found
    by_cases fits : level + 1 < Decimal.wordBound
    · have within : ¬(w.shape.length ≤ level ∧ Decimal.wordBound ≤ level + 1) :=
        fun beyond => Nat.not_le_of_lt fits beyond.2
      simp [fits, fault, within, failed found]
    · simp [fits, fault, outside, Nat.le_of_not_lt fits]

/-- A group is out of range if its level has no more than so many groups. -/
theorem resolve_eq_error {token : Char} {r : Key.Reference} {e : RunError} :
    w.resolve token r = .error e ↔
      (∀ count, w.shape[r.level]? = some count → count ≤ r.group) ∧
        w.fault (r.canonical token) r.level = e := by
  rw [← groups_frame?, resolve, frameAt_bind _ r.level fun _ => rfl]
  cases present : w.frame? r.level with
  | none => simp
  | some frame =>
    rw [fault_of_some present]
    by_cases held : r.group < frame.matched.groups.length
    · simp [held, Nat.not_le_of_lt held]
    · simp [Nat.le_of_not_lt held]

theorem counter_eq_error {level : Nat} {e : RunError} :
    w.counter level = .error e ↔
      w.shape.length ≤ level ∧ w.fault (Key.counterCanonical level) level = e := by
  rw [← frame?_eq_none, counter, frameAt_bind _ level fun _ => rfl]
  cases w.frame? level with
  | none => simp
  | some frame => simp

private theorem fault_eq (w : Walk) (reference : String) (level : Nat) :
    w.fault reference level =
      if w.shape.length ≤ level ∧ Decimal.wordBound ≤ level + 1 then .overflow
      else .outOfRange reference w.shape.length (w.shape[level]?.getD 0) := by
  rw [fault, outOfRange_eq]

private theorem object?_of_frame?_eq_none {l : Key.Lookup} (missing : w.frame? l.level = none) :
    l.object? w = .error (w.fault l.canonical l.level) := by
  have told : w.outOfRange l.canonical l.level = .outOfRange l.canonical w.depth 0 := by
    rw [outOfRange, missing]
  rw [Key.Lookup.object?, frameAt_bind _ l.level fun _ => congrArg Except.error told.symm, missing]

/-- What is out of range in one walk is so in the other, with the same error: groups of
levels, counters of levels, and the levels of lookups. Where a level can not be counted, the
program stops in both. -/
structure SameRange (w v : Walk) : Prop where
  resolve : ∀ token r e, w.resolve token r = .error e ↔ v.resolve token r = .error e
  counter : ∀ level e, w.counter level = .error e ↔ v.counter level = .error e
  lookup : ∀ l : Key.Lookup, w.frame? l.level = none ∨ v.frame? l.level = none →
    ∃ e, l.object? w = .error e ∧ l.object? v = .error e

/-- The shape decides what is out of range. -/
theorem SameRange.of_shape (same : w.shape = v.shape) : SameRange w v where
  resolve token r e := by
    rw [resolve_eq_error, resolve_eq_error, fault_eq, fault_eq, same]
  counter level e := by
    rw [counter_eq_error, counter_eq_error, fault_eq, fault_eq, same]
  lookup l missing := by
    have both : w.frame? l.level = none ∧ v.frame? l.level = none := by
      simp only [frame?_eq_none, same, or_self, and_self] at missing ⊢
      exact missing
    have first := object?_of_frame?_eq_none both.1
    rw [fault_eq, same, ← fault_eq] at first
    exact ⟨_, first, object?_of_frame?_eq_none both.2⟩

end Walk

namespace Key

def Star.stars : Star → Nat
  | any => 0
  | single _ _ => 1
  | double _ _ _ => 2
  | many parts => parts.length - 1

/-- How many groups a match of an element has, in a walk of some shape: the current node
and lookups take the match of the innermost level along. -/
def Element.groups (shape : List Nat) : Element → Nat
  | star pattern => pattern.stars + 1
  | lookup _ => shape.headD 0
  | here => shape.headD 0
  | _ => 1

namespace Star

private theorem length_gap? {part : List Char} {next : List Char → Option (List (List Char))}
    {count : Nat} (counts : ∀ cs captures, next cs = some captures → captures.length = count)
    {cs : List Char} {captures : List (List Char)} (found : gap? part next cs = some captures) :
    captures.length = count + 1 := by
  induction cs generalizing captures with
  | nil => cases found
  | cons c rest ih =>
    unfold gap? at found
    split at found
    · cases found
    · split at found
      case h_1 later following =>
        cases found
        obtain ⟨after, -, filled⟩ := Option.bind_eq_some_iff.mp following
        rw [List.length_cons, counts after later filled]
      case h_2 =>
        split at found
        · rename_i capture later following
          cases found
          simpa using ih following
        · cases found

private theorem length_fill? {parts : List (List Char)} {cs : List Char}
    {captures : List (List Char)} (found : fill? parts cs = some captures) :
    captures.length = parts.length := by
  induction parts generalizing cs captures with
  | nil =>
    obtain ⟨-, same⟩ := Option.ite_none_right_eq_some.mp found
    cases same
    rfl
  | cons part parts ih => exact length_gap? (fun _ _ filled => ih filled) found

private theorem length_captureChars? {pattern : Star} {cs : List Char} {captures : List (List Char)}
    (found : pattern.captureChars? cs = some captures) : captures.length = pattern.stars := by
  cases pattern with
  | any =>
    cases found
    rfl
  | single before after =>
    simp only [captureChars?] at found
    split at found
    · cases found
      rfl
    · cases found
  | double before middle after =>
    obtain ⟨pair, -, same⟩ := Option.map_eq_some_iff.mp found
    cases same
    rfl
  | many parts =>
    cases parts with
    | nil => exact length_fill? found
    | cons part parts =>
      rw [captureChars?_many] at found
      obtain ⟨rest, -, filled⟩ := Option.bind_eq_some_iff.mp found
      simpa [stars] using length_fill? filled

theorem length_captures? {pattern : Star} {key : String} {captures : List String}
    (found : pattern.captures? key = some captures) : captures.length = pattern.stars := by
  obtain ⟨chars, read, rfl⟩ := Option.map_eq_some_iff.mp found
  rw [List.length_map, length_captureChars? read]

end Star

/-- The matches that the elements have with a key on a walk. -/
inductive Element.Finds (w : Walk) (key : String) : Element → Match → Prop where
  | literal : Finds w key (.literal key) (.ofKey key)
  | star {pattern : Star} {captures : List String} (read : pattern.captures? key = some captures) :
      Finds w key (.star pattern) ⟨key, captures, 0⟩
  | template {pieces : Template} : Finds w key (.template pieces) (.ofKey key)
  | constant {text : String} : Finds w key (.constant text) (.ofKey text)
  | captured {r : Reference} {text : String} : Finds w key (.captured r) (.ofKey text)
  | here {matched : Match} (current : currentMatch? w = some matched) : Finds w key .here matched
  | lookup {l : Lookup} {matched : Match} (current : currentMatch? w = some matched) :
      Finds w key (.lookup l) matched

theorem Element.finds_of_match? {e : Element} {w : Walk} {key : String} {matched : Match}
    (found : e.match? w key = .ok (some matched)) : Finds w key e matched := by
  unfold Element.match? at found
  split at found
  case h_1 text =>
    obtain ⟨rfl, built⟩ := Option.ite_none_right_eq_some.mp (Except.ok.inj found)
    cases built
    exact .literal
  case h_2 pattern =>
    obtain ⟨captures, read, rfl⟩ := Option.map_eq_some_iff.mp (Except.ok.inj found)
    exact .star read
  case h_3 pieces =>
    obtain ⟨text, -, same⟩ := Outcome.map_eq_ok.mp found
    obtain ⟨rfl, built⟩ := Option.ite_none_right_eq_some.mp same
    cases built
    exact .template
  case h_4 text =>
    cases found
    exact .constant
  case h_5 r =>
    obtain ⟨text, -, same⟩ := Outcome.map_eq_ok.mp found
    cases same
    exact .captured
  case h_6 => exact .here (Except.ok.inj found)
  case h_7 l => exact .lookup (Except.ok.inj found)
  case h_8 => cases found

private theorem Element.length_currentMatch? {w : Walk} {matched : Match}
    (found : currentMatch? w = some matched) : matched.groups.length = w.shape.headD 0 := by
  have held := w.groups_frame? 0
  obtain ⟨frame, present, rfl⟩ := Option.map_eq_some_iff.mp found
  rw [present, Option.map_some] at held
  rw [List.headD_eq_head?_getD, List.head?_eq_getElem?, ← held, Option.getD_some]

/-- How many groups a match has is told by the element and the shape of the walk. -/
theorem Element.length_match? {e : Element} {w : Walk} {key : String} {matched : Match}
    (found : e.match? w key = .ok (some matched)) :
    matched.groups.length = e.groups w.shape := by
  cases finds_of_match? found with
  | star read => simp [Match.groups, groups, Star.length_captures? read]
  | here current => exact length_currentMatch? current
  | lookup current => exact length_currentMatch? current
  | _ => rfl

/-- The walk that a match goes one level further in on. -/
theorem Element.shape_push {e : Element} {w inner : Walk} {key : String} {matched : Match}
    {tree : Option Json} (found : e.match? w key = .ok (some matched))
    (entered : w.push tree matched = .ok inner) :
    inner.shape = e.groups w.shape :: w.shape := by
  rw [Walk.shape_push entered, length_match? found]

end Key

end Reshape
