import Reshape.Proofs.Key.Alternatives
import Reshape.Proofs.Key.Canonical
import Reshape.Proofs.Spec.Compiling
import Reshape.Proofs.Transform.Room

/-! Every key can be addressed by escaping it. A shift whose spec nests escaped keys, down
to a path of escaped keys, copies what the keys lead to, to where the path leads. -/

namespace Reshape

open Key Spec

namespace Key

theorem lex_escape (text : String) : lex (escape text) = text.toList.map quoted :=
  (Spells.escaped text.toList).lex_eq

/-- An escaped key is one alternative. -/
theorem alternatives_escape (text : String) : alternatives (escape text) = [escape text] := by
  rw [alternatives, lex_escape, splitBars_of_contains (contains_quoted _ (by decide)),
    List.map_singleton, (Spells.escaped text.toList).reescape_eq]
  rfl

theorem readKey_escape (path : Pointer) (text : String) :
    readKey path (escape text) = .ok [.literal text] := by
  have read : Element.parse (escape text) = .ok (.literal text) :=
    parseKeyWith_literal (lex_escape text)
  rw [readKey, alternatives_escape, List.mapM_cons, read]
  rfl

/-- The path through members with these keys. -/
def Path.ofKeys (keys : List String) : Path :=
  keys.map fun key => .plain (.key key)

/-- No bracket stands in front of an escaped key, so it is no index. -/
theorem head?_escapeChars (cs : List Char) : (escapeChars cs).head? ≠ some '[' := by
  cases cs with
  | nil =>
    intro opened
    cases opened
  | cons c rest =>
    rw [escapeChars, List.flatMap_cons, escapeOne]
    intro opened
    split at opened
    · cases opened
    · rename_i plain
      cases opened
      exact plain (by decide)

/-- A step goes to a member of an object unless a bracket stands in front. -/
theorem Step.kind_of_head? {s : Step} (unopened : s.chars.head? ≠ some '[') :
    s.kind = .member := by
  rw [kind, StepKind.classify, canonical, String.toList_ofList, StepKind.classifyChars,
    if_neg fun empty => unopened (by rw [empty]; rfl), if_neg fun closed => unopened closed.1]

theorem Step.kind_key (text : String) : Step.kind (.plain (.key text)) = .member :=
  kind_of_head? (head?_escapeChars text.toList)

namespace Path

end Path

end Key

namespace Transform.Shift

/-- A node whose only child has this key. -/
def lone {α : Type} (key : String) (child : α) : Siblings α :=
  ⟨[(key, child)], [], [], .literalsOnly⟩

variable {limit depth : Nat} {pointer : Pointer} {keys labels : List String}

variable {levels : Nat} {w : Walk} {doc value : Json}

/-- An object whose keys are full of markers. -/
def marked : Json :=
  .obj [("a.b|(c", .obj [("x", .null), ("[]\\", .bool true)])]

end Transform.Shift

end Reshape
