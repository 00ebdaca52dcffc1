import Reshape.Function.Basic

namespace Reshape.Function

/-- A function of a list; more arguments are ignored. -/
def ofList (f : List Json → Option Json) : Function :=
  ofFirst fun value =>
    match value with
    | .arr items => f items
    | _ => none

/-- How many items, members or characters a value has. -/
def size : Function :=
  ofFirst fun value =>
    match value with
    | .arr items => some (.ofNat items.length)
    | .obj members => some (.ofNat members.length)
    | .str s => some (.ofNat s.length)
    | _ => none

/-- The item of a list at a position; the arguments can stand in either order. -/
def elementAt : Function
  | [.arr items, index] => (position? index).bind fun index => items[index]?
  | [index, .arr items] => (position? index).bind fun index => items[index]?
  | _ => none

/-- The arguments as a list; a single list stays as it is, and null is an empty one. -/
def toList : Function
  | [] => none
  | [.arr items] => some (.arr items)
  | [.null] => some (.arr [])
  | args => some (.arr args)

def texts? : List Json → Option (List String)
  | [] => some []
  | .str s :: rest => (texts? rest).map (s :: ·)
  | _ => none

def numbers? : List Json → Option (List Number)
  | [] => some []
  | .num n :: rest => (numbers? rest).map (n :: ·)
  | _ => none

/-- Sorts a list of texts or of numbers; numbers are compared as floats. -/
def sort : Function :=
  ofList fun items =>
    match texts? items, numbers? items with
    | some texts, _ => some (.arr ((texts.mergeSort fun a b => a ≤ b).map .str))
    | none, some numbers =>
      some (.arr ((numbers.mergeSort fun a b => a.toFloat ≤ b.toFloat).map .num))
    | none, none => none

def squash : Json → Json
  | .arr items => .arr (items.filter fun item => !item.isNull)
  | .obj members => .obj (members.filter fun m => !m.2.isNull)
  | value => value

mutual

/-- A container without the nulls at any depth of it. -/
def squashAll : Json → Json
  | .arr items => .arr (squashItems items)
  | .obj members => .obj (squashMembers members)
  | value => value

/-- The items of an array that are not null, without the nulls in them. -/
def squashItems : List Json → List Json
  | [] => []
  | item :: rest => if item.isNull then squashItems rest else squashAll item :: squashItems rest

/-- The members of an object that are not null, without the nulls in them. -/
def squashMembers : Members → Members
  | [] => []
  | (key, value) :: rest =>
    if value.isNull then squashMembers rest else (key, squashAll value) :: squashMembers rest

end

/-- The first position of a value in a list, or -1. -/
def indexOf : Function
  | [.arr items, value] =>
    match items.findIdx? fun item => item.same value with
    | some index => some (.ofNat index)
    | none => some (.ofInt (-1))
  | _ => none

def listFunctions : List (String × Function) :=
  [("size", size),
    ("firstElement", ofList List.head?),
    ("lastElement", ofList List.getLast?),
    ("elementAt", elementAt),
    ("toList", toList),
    ("sort", sort),
    ("squashNulls", ofFirst fun value => some (squash value)),
    ("recursivelySquashNulls", ofFirst fun value => some (squashAll value)),
    ("indexOf", indexOf)]

end Reshape.Function
