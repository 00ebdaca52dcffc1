import Reshape.Proofs.Planting
import Reshape.Proofs.WalkShape

/-! The shift of nested stars whose leaf names the keys that were matched. It visits every
member of a document down to its depth once and writes it where it was read, so what was
written is at any time the part of the document that was visited. -/

namespace Reshape

open Key Spec

namespace Walk

variable {w inner : Walk} {before keys : List String}

end Walk

namespace Key

/-- The path along the last keys that were matched, so many of them. -/
def Path.matched (count : Nat) : List PlainStep :=
  (List.range count).reverse.map fun level => .template [.captured ⟨level, 0⟩]

end Key

namespace Transform.Shift

/-- A node whose only child is a star. -/
def starred {α : Type} (child : α) : Siblings α :=
  ⟨[], [(.star .any, child)], [], .computedOnly⟩

variable {limit depth count : Nat} {pointer : Pointer}

variable {w inner : Walk} {before keys : List String} {value output : Json}

/-- On walks along some matched keys with some room, the action of a star writes a member to
its key below some keys, if nothing is there yet. -/
def Plants (act : Action) (pointer : Pointer) (levels : Nat) (keys : List String)
    (member : String × Json) : Prop :=
  ∀ w output, w.pointer = pointer → w.HasRoom levels → Json.Vacant (keys ++ [member.1]) output →
    act (.star .any) member.1 (some member.2) w output =
      .ok (true, Json.plant member.2 (keys ++ [member.1]) output)

variable {members : Members} {act : Action} {levels : Nat}

/-- One visit: its member is written. -/
theorem runVisits_cons {member : String × Json} {rest : List (Visit Action)}
    (distinct : (members.map (·.1)).Nodup) (present : member ∈ members)
    (plants : Plants act w.pointer levels keys member) (room : w.HasRoom levels)
    (vacant : Json.Vacant (keys ++ [member.1]) output) :
    runVisits (.obj members) (⟨.member member.1, [(.star .any, act)]⟩ :: rest) w output =
      runVisits (.obj members) rest w.counted
        (Json.plant member.2 (keys ++ [member.1]) output) := by
  have data : (Slot.member member.1).child? (.obj members) = some member.2 := by
    have found := @Members.get?_map (fun _ value => value) _ _ _ distinct present
    rwa [List.map_id'] at found
  rw [runVisits]
  change (offer member.1 ((Slot.member member.1).child? (.obj members)) w
    [(.star .any, act)] output >>= _) = _
  rw [data, offer, plants w output rfl room vacant]
  rfl

end Transform.Shift

end Reshape
