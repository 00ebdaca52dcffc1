import Reshape.Error
import Reshape.Key.Reference

/-! The levels that lead from the root of a spec to the node at work. Each level
knows the key that was matched there, what the key captured, how many children have
matched below it, and the part of the document it looks at. -/

namespace Reshape

/-- A matched key: the key, what its wildcards captured, and how many children of
the level have matched so far. -/
structure Match where
  key : String
  captures : List String
  count : Nat

namespace Match

def ofKey (key : String) : Match := ⟨key, [], 0⟩

/-- The key and its captures: what references can name. -/
def groups (m : Match) : List String := m.key :: m.captures

/-- The match with one more matched child. -/
def counted (m : Match) : Match := { m with count := m.count + 1 }

end Match

/-- A level of a walk: the match, the part of the document at this level if it is
there, and the length that an array had before it was changed. -/
structure Frame where
  matched : Match
  tree : Option Json
  size : Option Nat

/-- The levels walked so far, innermost first, and how many there may be. -/
structure Walk where
  limit : Nat
  frames : List Frame

def Json.arrayLength? : Json → Option Nat
  | .arr items => some items.length
  | _ => none

namespace Walk

def start (limit : Nat) : Walk := ⟨limit, []⟩

def depth (w : Walk) : Nat := w.frames.length

/-- The keys from the outermost level to the innermost. -/
def pointer (w : Walk) : Pointer :=
  w.frames.reverse.map (·.matched.key)

/-- Enters a level, unless that is one too many. -/
def enter (w : Walk) (frame : Frame) : Except RunError Walk :=
  if w.limit ≤ w.depth then .error (.tooDeep w.pointer w.limit)
  else .ok { w with frames := frame :: w.frames }

/-- Enters the level of a part of the document. -/
def push (w : Walk) (tree : Option Json) (matched : Match) : Except RunError Walk :=
  w.enter ⟨matched, tree, tree.bind Json.arrayLength?⟩

def pop (w : Walk) : Walk := { w with frames := w.frames.tail }

/-- The level `level` levels up; level 0 is the innermost. -/
def frame? (w : Walk) (level : Nat) : Option Frame := w.frames[level]?

/-- The level that a reference names. It is the `level + 1`st from the end, and the program
stops if that is no word. A walk has fewer levels than words count, so in this case there is
no such level. -/
def frameAt (w : Walk) (level : Nat) : Except RunError (Option Frame) :=
  match w.frame? level with
  | some frame => .ok (some frame)
  | none => if level + 1 < Decimal.wordBound then .ok none else .error .overflow

/-- Counts a matched child of the innermost level. -/
def counted (w : Walk) : Walk :=
  match w.frames with
  | [] => w
  | frame :: rest =>
    { w with frames := { frame with matched := frame.matched.counted } :: rest }

/-- The error of a reference that can not be resolved. -/
def outOfRange (w : Walk) (reference : String) (level : Nat) : RunError :=
  .outOfRange reference w.depth
    (match w.frame? level with
      | some frame => frame.matched.groups.length
      | none => 0)

/-- The text that a reference names; `token` is how its kind of reference starts. -/
def resolve (w : Walk) (token : Char) (r : Key.Reference) : Except RunError String := do
  let frame ← w.frameAt r.level
  match frame.bind fun frame => frame.matched.groups[r.group]? with
  | some text => .ok text
  | none => .error (w.outOfRange (r.canonical token) r.level)

/-- How many children of a level have matched. -/
def counter (w : Walk) (level : Nat) : Except RunError Nat := do
  match ← w.frameAt level with
  | some frame => .ok frame.matched.count
  | none => .error (w.outOfRange (Key.counterCanonical level) level)

theorem enter_isOk {w : Walk} (frame : Frame) (h : w.depth < w.limit) :
    w.enter frame = .ok { w with frames := frame :: w.frames } :=
  if_neg (Nat.not_le.mpr h)

theorem frameAt_eq_some {w : Walk} {level : Nat} {frame : Frame} :
    w.frameAt level = .ok (some frame) ↔ w.frame? level = some frame := by
  rw [frameAt]
  cases w.frame? level with
  | some found => simp
  | none =>
    dsimp only
    split <;> simp

/-- Levels are counted before they are looked up, as far as words count the levels of the walk. -/
theorem frameAt_eq {w : Walk} (fits : w.depth < Decimal.wordBound) (level : Nat) :
    w.frameAt level =
      if level + 1 < Decimal.wordBound then .ok (w.frame? level) else .error .overflow := by
  rw [frameAt]
  cases found : w.frame? level with
  | none => rfl
  | some frame =>
    obtain ⟨inside, -⟩ := List.getElem?_eq_some_iff.mp found
    exact (if_pos (Nat.lt_of_le_of_lt inside fits)).symm

theorem depth_counted (w : Walk) : w.counted.depth = w.depth := by
  unfold counted
  split <;> simp [depth, *]

end Walk

end Reshape
