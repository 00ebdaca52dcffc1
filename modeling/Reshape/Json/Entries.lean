import Reshape.Json
import Reshape.Decimal.Integer

namespace Reshape.Json

variable {ε : Type}

def mapEntries (f : String → Json → Except ε Json) : Json → Except ε Json
  | obj members => (members.mapM fun (key, value) => (f key value).map (key, ·)).map obj
  | arr items =>
    (items.zipIdx.mapM fun (value, index) => f (Decimal.natText index) value).map arr
  | doc => .ok doc

/-- Replaces the value of each entry, and drops the entries that get none. -/
def filterMapEntries (f : String → Json → Except ε (Option Json)) : Json → Except ε Json
  | obj members =>
    (members.filterMapM fun (key, value) => (f key value).map (Option.map (key, ·))).map obj
  | arr items =>
    (items.zipIdx.filterMapM fun (value, index) => f (Decimal.natText index) value).map arr
  | doc => .ok doc

end Reshape.Json
