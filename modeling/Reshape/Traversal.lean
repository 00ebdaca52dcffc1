import Reshape.Error

/-! Reading, writing and removing a place in a document along a list of keys. Each
step says which kind of container it goes through; a document of another kind is
never changed. Writing creates the containers that are missing or null. What happens
at an occupied place is decided by a `WritePolicy`. -/

namespace Reshape

/-- The container that a step goes through. -/
inductive StepKind where
  /-- A member of an object. -/
  | member
  /-- An item of an array. -/
  | item
  /-- A new item at the end of an array. -/
  | append
deriving DecidableEq, Repr

/-- What a write does at a place that is occupied. -/
inductive WritePolicy where
  /-- It takes the place of the old value. -/
  | overwrite
  /-- It joins the old value in an array. -/
  | collect
deriving DecidableEq, Repr

/-- The largest index up to which an array grows. -/
def maxIndex : Nat := 1048576

/-- Fills an array with nulls until it has an item at the index. -/
def growTo? (index : Nat) (items : List Json) : Option (List Json) :=
  if maxIndex < index then none
  else some (items ++ List.replicate (index + 1 - items.length) .null)

namespace StepKind

/-- The kind of a step with this canonical text: brackets around all of it make it
an item, and empty brackets a new one. -/
def classifyChars (canonical : List Char) : StepKind :=
  if canonical = ['[', ']'] then append
  else if canonical.head? = some '[' ∧ canonical.getLast? = some ']' then item
  else member

/-- The kind of a step with this canonical text. -/
def classify (canonical : String) : StepKind :=
  classifyChars canonical.toList

def emptyContainer : StepKind → Json
  | member => .obj []
  | item | append => .arr []

def child? (kind : StepKind) (key : String) (doc : Json) : Option Json :=
  match kind, doc with
  | member, .obj members => Members.get? key members
  | item, .arr items => (Decimal.readIndex key).bind fun index => items[index]?
  | _, _ => none

/-- Puts a value under a key, if the document and the key fit the step. -/
def putChild? (kind : StepKind) (key : String) (value doc : Json) : Option Json :=
  match kind, doc with
  | member, .obj members => some (.obj (Members.put key value members))
  | item, .arr items =>
    (Decimal.readIndex key).bind fun index =>
      (growTo? index items).map fun grown => .arr (grown.set index value)
  | append, .arr items => if key = "[]" then some (.arr (items ++ [value])) else none
  | _, _ => none

def replaceChild (kind : StepKind) (key : String) (value doc : Json) : Json :=
  match kind, doc with
  | member, .obj members => .obj (Members.put key value members)
  | item, .arr items =>
    match Decimal.readIndex key with
    | some index => .arr (items.set index value)
    | none => doc
  | _, _ => doc

/-- Removes the value under a key: the value and the document without it. -/
def takeChild? (kind : StepKind) (key : String) (doc : Json) : Option (Json × Json) :=
  match kind, doc with
  | member, .obj members =>
    (Members.get? key members).map fun value => (value, .obj (Members.erase key members))
  | item, .arr items =>
    (Decimal.readIndex key).bind fun index =>
      items[index]?.map fun value => (value, .arr (items.eraseIdx index))
  | _, _ => none

end StepKind

/-- Steps with the keys that they take. -/
abbrev Route := List (StepKind × String)

namespace Route

/-- The value at the end of a route. -/
def get? : Route → Json → Option Json
  | [], doc => some doc
  | (kind, key) :: rest, doc => (kind.child? key doc).bind (get? rest)

/-- The array of an occupied place and the data that joins it. -/
def joined (old data : Json) : Json :=
  match old with
  | .arr items => .arr (items ++ [data])
  | value => .arr [value, data]

/-- Writes at a step, if the document and the key fit it. -/
def put (kind : StepKind) (key : String) (data doc : Json) : Bool × Json :=
  match kind.putChild? key data doc with
  | some written => (true, written)
  | none => (false, doc)

/-- Writes at the last step of a route. -/
def setLast (policy : WritePolicy) (kind : StepKind) (key : String) (data doc : Json) :
    Bool × Json :=
  match policy, kind.child? key doc with
  | .overwrite, _ => put kind key data doc
  | .collect, none => put kind key data doc
  | .collect, some .null => put kind key data doc
  | .collect, some old => (true, kind.replaceChild key (joined old data) doc)

/-- Writes at the end of a route. The first part of the result says whether it was
written; containers created on the way stay even if it was not. -/
def set (policy : WritePolicy) (data : Json) : Route → Json → Bool × Json
  | [], doc => (false, doc)
  | [(kind, key)], doc => setLast policy kind key data doc
  | (kind, key) :: (next, nextKey) :: rest, doc =>
    match kind.child? key doc with
    | none | some .null =>
      let (done, below) := set policy data ((next, nextKey) :: rest) next.emptyContainer
      match kind.putChild? key below doc with
      | some written => (done, written)
      | none => (false, doc)
    | some child =>
      let (done, below) := set policy data ((next, nextKey) :: rest) child
      (done, kind.replaceChild key below doc)

/-- Removes the value at the end of a route: the value and the document without it. -/
def remove? : Route → Json → Option (Json × Json)
  | [], _ => none
  | [(kind, key)], doc => kind.takeChild? key doc
  | (kind, key) :: rest, doc =>
    (kind.child? key doc).bind fun child =>
      (remove? rest child).map fun (value, below) =>
        (value, kind.replaceChild key below doc)

end Route

/-- The kinds of the steps of a path. -/
abbrev Traversal := List StepKind

namespace Traversal

def route (t : Traversal) (keys : List String) : Except RunError Route :=
  if keys.length = t.length then .ok (t.zip keys) else .error (.keyCount t.length keys)

def get? (t : Traversal) (keys : List String) (doc : Json) : Except RunError (Option Json) :=
  (t.route keys).map fun route => route.get? doc

def set (t : Traversal) (policy : WritePolicy) (keys : List String) (data doc : Json) :
    Except RunError (Bool × Json) :=
  (t.route keys).map fun route => route.set policy data doc

def remove? (t : Traversal) (keys : List String) (doc : Json) :
    Except RunError (Option (Json × Json)) :=
  (t.route keys).map fun route => route.remove? doc

end Traversal

end Reshape
