/-! The files that a program finds: a tree of directories, which paths lead through from its
top or from the directory that the program runs in. A file holds bytes; a device takes what is
written to it and holds nothing. Links and permissions are left out. -/

namespace Reshape.CommandLine

/-- The names on the way from the top to a place, the last one first. -/
abbrev Way := List String

/-- What stands at a place. -/
inductive Node where
  | directory
  | file (content : ByteArray)
  | sink

instance : DecidableEq Node
  | .directory, .directory | .sink, .sink => .isTrue rfl
  | .file a, .file b => decidable_of_iff (a.data = b.data) (by simp [ByteArray.ext_iff])
  | .directory, .file _ | .directory, .sink | .file _, .directory | .file _, .sink
  | .sink, .directory | .sink, .file _ => .isFalse nofun

/-- What is read under a path. -/
inductive Found where
  /-- Nothing that could be opened. -/
  | missing
  /-- Something that is no text. -/
  | unreadable
  | text (content : String)
deriving DecidableEq, Repr

/-- What stands at the places of a tree, and the directory that the program runs in. -/
structure Disk where
  here : Way
  nodes : List (Way × Node)
deriving DecidableEq

namespace Disk

def parts (path : String) : List String :=
  (path.toList.splitOn '/').map String.ofList

/-- Whether a place is on the way to another one, or to the directory at hand. -/
def isAbove (d : Disk) (way : Way) : Bool :=
  way.isSuffixOf d.here || d.nodes.any fun entry => way.isSuffixOf entry.1 && way != entry.1

/-- What stands at a place. What is on the way to others is a directory. -/
def node? (d : Disk) (way : Way) : Option Node :=
  if d.isAbove way then some .directory else d.nodes.lookup way

/-- Where a way leads on after one more part of a path; above the top there is the top. -/
def enter (way : Way) (part : String) : Way :=
  if part = "" ∨ part = "." then way
  else if part = ".." then way.tail
  else part :: way

/-- Follows the parts of a path; none if there is no such directory on the way. -/
def follow? (d : Disk) (way : Way) : List String → Option Way
  | [] => some way
  | part :: rest =>
    if d.node? way = some .directory then d.follow? (enter way part) rest else none

/-- The way that a path leads: from the top if it starts with a slash. -/
def way? (d : Disk) (path : String) : Option Way :=
  if path.isEmpty then none
  else d.follow? (if path.toList.head? = some '/' then [] else d.here) (parts path)

def find (d : Disk) (path : String) : Found :=
  match (d.way? path).bind d.node? with
  | none => .missing
  | some .directory => .unreadable
  | some .sink => .text ""
  | some (.file content) =>
    match String.fromUTF8? content with
    | some text => .text text
    | none => .unreadable

/-- The place that is written under a path; none if it can not be. -/
def target? (d : Disk) (path : String) : Option Way :=
  (d.way? path).filter fun way => d.node? way != some .directory

/-- Gives a file a content, whether it is there or not. A device keeps nothing. -/
def write (d : Disk) (way : Way) (content : ByteArray) : Disk :=
  if d.nodes.lookup way = some .sink then d
  else { d with nodes := (way, .file content) :: d.nodes.filter (·.1 ≠ way) }

end Disk

end Reshape.CommandLine
