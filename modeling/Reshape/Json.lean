import Reshape.Json.Number

namespace Reshape

inductive Json where
  | null
  | bool (value : Bool)
  | num (value : Number)
  | str (value : String)
  | arr (items : List Json)
  | obj (members : List (String × Json))

instance : Inhabited Json := ⟨.null⟩

abbrev Members := List (String × Json)

namespace Members

def get? (key : String) : Members → Option Json
  | [] => none
  | (k, v) :: rest => if k = key then some v else get? key rest

/-- Puts a value under a key: in place of the old value, else at the end. -/
def put (key : String) (value : Json) : Members → Members
  | [] => [(key, value)]
  | (k, v) :: rest => if k = key then (k, value) :: rest else (k, v) :: put key value rest

/-- Removes a key; the other members keep their order. -/
def erase (key : String) : Members → Members
  | [] => []
  | (k, v) :: rest => if k = key then erase key rest else (k, v) :: erase key rest

def has (key : String) (members : Members) : Bool :=
  (get? key members).isSome

theorem get?_put_self (key : String) (value : Json) (members : Members) :
    get? key (put key value members) = some value := by
  induction members with
  | nil => simp [put, get?]
  | cons member rest ih =>
    by_cases h : member.1 = key <;> simp [put, get?, h, ih]

theorem get?_put_of_ne {key other : String} (ne : other ≠ key) (value : Json)
    (members : Members) : get? other (put key value members) = get? other members := by
  induction members with
  | nil => simp [put, get?, ne.symm]
  | cons member rest ih =>
    by_cases h : member.1 = key
    · subst h; simp [put, get?, ne.symm]
    · simp [put, get?, h, ih]

end Members

namespace Json

def emptyObject : Json := .obj []

/-- The word for the kind of a document, as messages use it. -/
def kind : Json → String
  | null => "null"
  | bool _ => "boolean"
  | num _ => "number"
  | str _ => "string"
  | arr _ => "array"
  | obj _ => "object"

def isNull : Json → Bool
  | null => true
  | _ => false

def isArray : Json → Bool
  | arr _ => true
  | _ => false

def isObject : Json → Bool
  | obj _ => true
  | _ => false

/-- Whether the document is an array or an object. -/
def isContainer (doc : Json) : Bool :=
  doc.isArray || doc.isObject

/-- The integer `n` as a document. -/
def ofInt (n : Int) : Json := .num (.int n)

/-- The natural number `n` as a document. -/
def ofNat (n : Nat) : Json := .num (.int n)

mutual

/-- Equality of values. Arrays agree item by item; objects agree if they have the
same keys with equal values, in any order. -/
def same : Json → Json → Bool
  | null, null => true
  | bool a, bool b => a == b
  | num a, num b => a.same b
  | str a, str b => a == b
  | arr xs, arr ys => sameItems xs ys
  | obj xs, obj ys => xs.length == ys.length && sameMembers xs ys
  | _, _ => false

def sameItems : List Json → List Json → Bool
  | [], [] => true
  | x :: xs, y :: ys => same x y && sameItems xs ys
  | _, _ => false

/-- Whether every member of the first object has an equal value in the second. -/
def sameMembers : Members → Members → Bool
  | [], _ => true
  | (key, x) :: xs, ys =>
    (match Members.get? key ys with
      | some y => same x y
      | none => false) && sameMembers xs ys

end

/-- The text of a scalar that is used as a key; null and containers have none. -/
def keyText? : Json → Option String
  | str s => some s
  | bool b => some (if b then "true" else "false")
  | num n => some n.keyText
  | _ => none

end Json

end Reshape
