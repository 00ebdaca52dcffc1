import Reshape.Proofs.Addressing
import Reshape.Proofs.Spec.Placing

namespace Reshape

namespace Json

variable {keys : List String} {key : String} {value doc : Json}

/-- Nothing is at the end of keys, and only objects are on the way there. -/
def Vacant : List String → Json → Prop
  | [], _ => False
  | [key], doc => ∃ members, doc = .obj members ∧ Members.get? key members = none
  | key :: next :: rest, doc => ∃ members, doc = .obj members ∧
      Vacant (next :: rest) ((Members.get? key members).getD emptyObject)

/-- The document with a value at the end of keys; objects are built on the way. -/
def plant (value : Json) : List String → Json → Json
  | [], _ => value
  | key :: rest, .obj members =>
    .obj (Members.put key (plant value rest ((Members.get? key members).getD emptyObject)) members)
  | _ :: _, doc => doc

theorem vacant_emptyObject (key : String) (rest : List String) :
    Vacant (key :: rest) emptyObject := by
  induction rest generalizing key with
  | nil => exact ⟨[], rfl, rfl⟩
  | cons next rest ih => exact ⟨[], rfl, ih next⟩

/-- Below a place that is vacant every place is. -/
theorem Vacant.concat (vacant : Vacant keys doc) (key : String) : Vacant (keys ++ [key]) doc := by
  fun_induction Vacant keys doc with
  | case1 => exact vacant.elim
  | case2 last doc =>
    obtain ⟨members, rfl, missing⟩ := vacant
    refine ⟨members, rfl, ?_⟩
    rw [missing]
    exact vacant_emptyObject key []
  | case3 key next rest doc ih =>
    obtain ⟨members, rfl, below⟩ := vacant
    exact ⟨members, rfl, ih members below⟩

end Json

end Reshape
