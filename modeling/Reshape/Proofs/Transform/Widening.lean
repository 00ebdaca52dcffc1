import Reshape.Proofs.Spec.Dispatch
import Reshape.Proofs.Spec.Widening
import Reshape.Proofs.Transform.Entrances
import Reshape.Proofs.Transform.Offers

namespace Reshape.Transform.Shift

open Key Spec Siblings Outcome

variable {key : String} {data : Option Json} {w : Walk} {output node : Json}

/-- A child passes a key if it leaves the output and says that it was not there. -/
def Passes (key : String) (data : Option Json) (w : Walk) (child : Element × Action) : Prop :=
  ∀ output, child.2 child.1 key data w output = .ok (false, output)

theorem runVisits_append (visits more : List (Visit Action)) :
    runVisits node (visits ++ more) w output =
      runVisits node visits w output >>= fun (w, output) => runVisits node more w output := by
  induction visits generalizing w output with
  | nil => rfl
  | cons visit rest ih =>
    rw [List.cons_append, runVisits, runVisits]
    cases offer visit.slot.key (visit.slot.child? node) w visit.candidates output with
    | error e => rfl
    | ok answer => exact ih

variable {s wide : Siblings Node} {path other : Pointer} {children more : List (Element × Node)}

variable {pattern : Star} {paths : List Path}

end Reshape.Transform.Shift
