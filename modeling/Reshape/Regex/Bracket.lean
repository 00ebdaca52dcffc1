import Reshape.Regex.Flags

/-! Character classes in brackets: characters, ranges and escapes, nested brackets and
named sets, joined by the operators `&&`, `--` and `~~`, which all bind alike. -/

namespace Reshape.Regex

/-- A set and how deep its description nests. -/
structure Member where
  set : CharSet
  height : Nat

inductive SetOperator where
  | intersection
  | difference
  | symmetricDifference
deriving DecidableEq, Repr

def SetOperator.apply : SetOperator → CharSet → CharSet → CharSet
  | intersection, a, b => a.intersection b
  | difference, a, b => a.difference b
  | symmetricDifference, a, b => a.symmetricDifference b

/-- A bracket that is open: whether it is a complement, the operand and operator that
wait for the next operand, and the members of this operand, newest first. -/
structure OpenBracket where
  negated : Bool
  waiting : Option (Member × SetOperator)
  members : List Member

def unionOf (members : List Member) : Member :=
  match members with
  | [] => ⟨.empty, 0⟩
  | [m] => m
  | _ => ⟨.unions (members.map (·.set)), 1 + (members.map (·.height)).foldl max 0⟩

namespace OpenBracket

/-- Adds a member to the operand at work. -/
def add (b : OpenBracket) (m : Member) : OpenBracket :=
  { b with members := m :: b.members }

/-- The operand so far, joined with the one that waits. -/
def joined (b : OpenBracket) (f : Flags) : Member :=
  let last := unionOf b.members
  match b.waiting with
  | none => last
  | some (first, op) =>
    ⟨op.apply (foldSet f first.set) (foldSet f last.set), 1 + max first.height last.height⟩

def operator (b : OpenBracket) (f : Flags) (op : SetOperator) : OpenBracket :=
  { b with waiting := some (b.joined f, op), members := [] }

def close (b : OpenBracket) (f : Flags) : Except SyntaxFault Member := do
  let whole := b.joined f
  let set ← complementIf f b.negated (foldSet f whole.set)
  .ok ⟨set, 1 + whole.height⟩

end OpenBracket

/-- Reads hyphens at the start of a bracket, which stand for themselves. -/
def readHyphens (f : Flags) : Nat → List Member → List Char →
    Except SyntaxFault (List Member × List Char)
  | 0, _, _ => .error .openClass
  | fuel + 1, members, cs =>
    match cs with
    | [] => .error .openClass
    | '-' :: _ => readHyphens f fuel (⟨.single '-', 0⟩ :: members) (advance f cs)
    | _ => .ok (members, cs)

/-- Reads the start of a bracket: a caret makes a complement, and a closing bracket
that comes first stands for itself. -/
def readOpening (f : Flags) (cs : List Char) : Except SyntaxFault (OpenBracket × List Char) := do
  let inner := advance f cs
  let (negated, inner) := match inner with
    | '^' :: _ => (true, advance f inner)
    | _ => (false, inner)
  let (members, rest) ← readHyphens f (cs.length + 1) [] inner
  match members, rest with
  | [], ']' :: _ =>
    let rest := advance f rest
    if rest.isEmpty then .error .openClass
    else .ok (⟨negated, none, [⟨.single ']', 0⟩]⟩, rest)
  | _, _ => .ok (⟨negated, none, members⟩, rest)

/-- Reads a named set such as `[:alpha:]`, if there is one. -/
def readNamed? (cs : List Char) : Option (String × Bool × List Char) :=
  match cs with
  | '[' :: ':' :: rest =>
    let (negated, rest) := match rest with
      | '^' :: after => (true, after)
      | _ => (false, rest)
    match rest.span (· != ':') with
    | (name, ':' :: ']' :: after) => some (String.ofList name, negated, after)
    | _ => none
  | _ => none

def readItem (f : Flags) (cs : List Char) : Except SyntaxFault (Primitive × List Char) :=
  match cs with
  | [] => .error .openClass
  | '\\' :: rest => readEscape f rest
  | c :: rest => .ok (.literal c false, rest)

/-- Refuses a character that an expression without Unicode does not know. -/
def classChar (f : Flags) (c : Char) : Except SyntaxFault Char :=
  if f.unicode || c.toNat < 128 then .ok c else .error .notUnicode

def memberOf (f : Flags) : Primitive → Except SyntaxFault Member
  | .literal c _ => (classChar f c).map fun c => ⟨.single c, 0⟩
  | .set s => .ok ⟨s, 0⟩
  | .look _ => .error .classEscape

def boundOf (f : Flags) : Primitive → Except SyntaxFault Char
  | .literal c _ => classChar f c
  | _ => .error .classRange

def readRange (f : Flags) (cs : List Char) : Except SyntaxFault (Member × List Char) := do
  let (first, rest) ← readItem f cs
  let rest := skip f rest
  let isRange := rest.head? = some '-' ∧ peek? f rest ≠ some ']' ∧ peek? f rest ≠ some '-'
  if rest.isEmpty then .error .openClass
  else if isRange then
    let after := advance f rest
    if after.isEmpty then .error .openClass
    else do
      let (last, rest) ← readItem f after
      let low ← boundOf f first
      let high ← boundOf f last
      if high < low then .error .classRange
      else .ok (⟨⟨[(low.toNat, high.toNat)]⟩, 0⟩, rest)
  else do
    let member ← memberOf f first
    .ok (member, rest)

/-- Reads what follows in the innermost of some open brackets, up to the end of the
outermost. -/
def readBrackets (f : Flags) : Nat → OpenBracket → List OpenBracket → List Char →
    Except SyntaxFault (Member × List Char)
  | 0, _, _, _ => .error .openClass
  | fuel + 1, current, outer, cs =>
    match skip f cs with
    | [] => .error .openClass
    | '[' :: rest =>
      match (readNamed? ('[' :: rest)).bind fun (name, negated, after) =>
          (CharSet.posix? name).map fun s => (s, negated, after) with
      | some (s, negated, after) => do
        let s ← complementIf f negated (foldSet f s)
        readBrackets f fuel (current.add ⟨s, 0⟩) outer after
      | none => do
        let (inner, after) ← readOpening f ('[' :: rest)
        readBrackets f fuel inner (current :: outer) after
    | ']' :: rest => do
      let member ← current.close f
      match outer with
      | [] => .ok (member, rest)
      | parent :: outer => readBrackets f fuel (parent.add member) outer rest
    | '&' :: '&' :: rest => readBrackets f fuel (current.operator f .intersection) outer rest
    | '-' :: '-' :: rest => readBrackets f fuel (current.operator f .difference) outer rest
    | '~' :: '~' :: rest =>
      readBrackets f fuel (current.operator f .symmetricDifference) outer rest
    | cs => do
      let (member, rest) ← readRange f cs
      readBrackets f fuel (current.add member) outer rest

def readClass (f : Flags) (cs : List Char) : Except SyntaxFault (Member × List Char) := do
  let (bracket, rest) ← readOpening f cs
  readBrackets f (2 * cs.length + 2) bracket [] rest

end Reshape.Regex
