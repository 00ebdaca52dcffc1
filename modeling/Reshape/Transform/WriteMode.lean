import Reshape.Spec.Slot
import Reshape.Traversal

namespace Reshape.Transform

open Spec

/-- When a value may be written. -/
inductive WriteMode where
  /-- Always. -/
  | overwrite
  /-- Where there is nothing or null. -/
  | fill
  /-- Where there is nothing; in an array, past the length it had at first. -/
  | define
deriving DecidableEq, Repr

namespace WriteMode

def allowsMember (mode : WriteMode) (members : Members) (key : String) : Bool :=
  match mode with
  | overwrite => true
  | fill =>
    match Members.get? key members with
    | none | some .null => true
    | _ => false
  | define => !Members.has key members

/-- Whether an item of an array may be written that had a length at first. -/
def allowsItem (mode : WriteMode) (items : List Json) (index size : Nat) : Bool :=
  match mode with
  | overwrite => true
  | fill =>
    match items[index]? with
    | none | some .null => true
    | _ => false
  | define => size ≤ index

/-- Writes a value at a place of a container, if the mode allows it. An array grows
with nulls up to the place; `size` is the length it had at first. -/
def write (mode : WriteMode) (slot : Slot) (value : Json) (size : Option Nat) (doc : Json) :
    Json :=
  match doc with
  | .obj members =>
    if mode.allowsMember members slot.key then .obj (Members.put slot.key value members)
    else doc
  | .arr items =>
    match slot.index? with
    | none => doc
    | some index =>
      if mode.allowsItem items index (size.getD items.length) then
        match growTo? index items with
        | some grown => .arr (grown.set index value)
        | none => doc
      else doc
  | _ => doc

end WriteMode

end Reshape.Transform
