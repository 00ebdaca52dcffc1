import Reshape.Walk

/-! Every walk starts at a level above the document, where the document stands under
a key of its own. So a transform replaces or removes the whole document in the same
way as any part of it. -/

namespace Reshape.Transform

def rootKey : String := "root"

def wrap (doc : Json) : Json := .obj [(rootKey, doc)]

/-- The document below the level above it; null if it is not there. -/
def unwrap : Json → Json
  | .obj members => (Members.get? rootKey members).getD .null
  | _ => .null

/-- How many levels are walked by a spec of a given depth: its own and the two
around the document. `Chain.build?` says when that is no word. -/
def walkLimit (maxDepth : Nat) : Nat := maxDepth + 2

/-- The walk that stands at the level above the document. -/
def rootWalk (maxDepth : Nat) (tree : Option Json) : Except RunError Walk :=
  (Walk.start (walkLimit maxDepth)).push tree (.ofKey rootKey)

theorem unwrap_wrap (doc : Json) : unwrap (wrap doc) = doc := by
  simp [unwrap, wrap, Members.get?]

end Reshape.Transform
