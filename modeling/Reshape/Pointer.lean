namespace Reshape

/-- The keys and indices from the root of a document to a place in it. -/
abbrev Pointer := List String

namespace Pointer

def escapeChar (c : Char) : List Char :=
  if c = '~' then ['~', '0'] else if c = '/' then ['~', '1'] else [c]

/-- The written form of the characters of a segment. -/
def escapeChars (cs : List Char) : List Char :=
  cs.flatMap escapeChar

def escape (segment : String) : String :=
  String.ofList (escapeChars segment.toList)

def renderChars (root : List Char) (segments : Pointer) : List Char :=
  root ++ segments.flatMap fun segment => '/' :: escapeChars segment.toList

/-- The text of a pointer below a root. -/
def render (root : String) (segments : Pointer) : String :=
  String.ofList (renderChars root.toList segments)

def text (segments : Pointer) : String :=
  render "#" segments

def child (parent : Pointer) (key : String) : Pointer :=
  parent ++ [key]

/-- A pointer seen from further up, where the place it starts from stands at `base`. -/
def within (base inner : Pointer) : Pointer :=
  base ++ inner

end Pointer

end Reshape
