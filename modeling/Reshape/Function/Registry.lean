import Reshape.Function.OnLists
import Reshape.Function.OnNumbers
import Reshape.Function.OnText
import Reshape.Function.OnValues
import Reshape.Text.Quoted

namespace Reshape

/-- Functions by name. A name stands once in a registry that was built with
`Registry.register`. -/
structure Registry where
  entries : List (String × Function)

namespace Registry

def empty : Registry := ⟨[]⟩

def builtins : Registry :=
  ⟨Function.textFunctions ++ Function.numberFunctions ++ Function.listFunctions ++
    Function.valueFunctions⟩

def putEntry (name : String) (f : Function) : List (String × Function) → List (String × Function)
  | [] => [(name, f)]
  | (other, g) :: rest =>
    if other = name then (name, f) :: rest else (other, g) :: putEntry name f rest

/-- Adds a function, in place of one with its name. -/
def register (r : Registry) (name : String) (f : Function) : Registry :=
  ⟨putEntry name f r.entries⟩

def get? (r : Registry) (name : String) : Option Function :=
  r.entries.lookup name

def contains (r : Registry) (name : String) : Bool :=
  (r.get? name).isSome

def size (r : Registry) : Nat := r.entries.length

def names (r : Registry) : List String :=
  (r.entries.map (·.1)).mergeSort fun a b => a ≤ b

/-- The names of the functions as a text for people. -/
def describe (r : Registry) : String :=
  "FunctionRegistry \x7b functions: " ++ Text.quotedList r.names ++ " \x7d"

end Registry

end Reshape
