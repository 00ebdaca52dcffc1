import Reshape.Spec.Tree

/-! Compiling a spec. All kinds of specs are nested objects whose keys are
alternatives of elements; a `Dialect` says what the keys and values of one kind may
be and what they mean. -/

namespace Reshape.Spec

open Key

/-- A child of a node under construction: where it stands in the spec, the element
of its key as written and as the node uses it, and the compiled value. -/
structure Entry (B L : Type) where
  path : Pointer
  written : Element
  element : Element
  tree : Tree B L

/-- What the members of the objects in one kind of spec may be. `C` is what a node
knows from its own key, `B` what a compiled branch knows, `L` what a leaf knows. -/
structure Dialect (C B L : Type) where
  /-- The name of the kind in messages. -/
  label : String
  /-- Refuses a value before its key is read. -/
  accept : Json → Except SpecFault Unit
  /-- The part of a key that is read as elements, and what the rest of it tells the
  node below. -/
  splitKey : String → String × C
  /-- Compiles the value at a pointer for one element of its key, inside a node with
  a context, with the context of the key and the compiled node below, which is an
  error where the value is no valid node. -/
  child : C → C → Pointer → Element → Json → Except BuildError (B × Siblings (Tree B L)) →
    Except BuildError (Element × Tree B L)
  /-- What a branch knows, from its context and all of its children. -/
  close : C → List (Entry B L) → Except BuildError B

def readKey (path : Pointer) (key : String) : Except BuildError (List Element) :=
  (alternatives key).mapM fun alternative =>
    match Element.parse alternative with
    | .ok element => .ok element
    | .error e => .error ⟨path, .grammar e⟩

namespace Dialect

variable {C B L : Type}

def entries (d : Dialect C B L) (outer inner : C) (path : Pointer) (value : Json)
    (below : Except BuildError (B × Siblings (Tree B L))) :
    List Element → Except BuildError (List (Entry B L))
  | [] => .ok []
  | element :: rest => do
    let (used, tree) ← d.child outer inner path element value below
    let more ← d.entries outer inner path value below rest
    .ok (⟨path, element, used, tree⟩ :: more)

mutual

/-- Compiles a node at a depth of a spec that may not be deeper than `limit`. -/
def compile (d : Dialect C B L) (limit : Nat) (outer : C) (depth : Nat) (path : Pointer) :
    Json → Except BuildError (B × Siblings (Tree B L))
  | .obj members =>
    if limit < depth then .error ⟨path, .tooDeep limit⟩
    else if members.isEmpty then .error ⟨path, .empty d.label⟩
    else do
      let children ← d.compileMembers limit outer depth path members
      let info ← d.close outer children
      let siblings ← Siblings.ofChildren path (children.map fun c => (c.element, c.tree))
      .ok (info, siblings)
  | other =>
    if limit < depth then .error ⟨path, .tooDeep limit⟩
    else .error ⟨path, .notObject d.label other.kind⟩

def compileMembers (d : Dialect C B L) (limit : Nat) (outer : C) (depth : Nat)
    (path : Pointer) : Members → Except BuildError (List (Entry B L))
  | [] => .ok []
  | (key, value) :: rest => do
    let here := Pointer.child path key
    match d.accept value with
    | .error fault => .error ⟨here, fault⟩
    | .ok () => do
      let (text, inner) := d.splitKey key
      let elements ← readKey here text
      let below := d.compile limit inner (depth + 1) here value
      let found ← d.entries outer inner here value below elements
      let more ← d.compileMembers limit outer depth path rest
      .ok (found ++ more)

end

def compileRoot (d : Dialect C B L) (limit : Nat) (context : C) (spec : Json) :
    Except BuildError (B × Siblings (Tree B L)) :=
  d.compile limit context 1 [] spec

end Dialect

def acceptAny (_ : Json) : Except SpecFault Unit := .ok ()

def wholeKey (key : String) : String × Unit := (key, ())

/-- A branch that knows nothing but its children. -/
def closePlain {B L : Type} (_ : Unit) (_ : List (Entry B L)) : Except BuildError Unit :=
  .ok ()

end Reshape.Spec
