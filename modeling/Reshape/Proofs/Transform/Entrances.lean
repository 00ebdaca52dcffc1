import Reshape.Proofs.Transform.History
import Reshape.Proofs.Transform.Runner

namespace Reshape.Transform.Shift

open Key Spec Logged

namespace Event

/-- The nodes around what happens next: entering a node adds it, leaving a level drops one. -/
def surround (outer : Position) : Event → Position
  | entered element _ => element :: outer
  | left => outer.tail
  | evaluated _ _ | completed => outer

/-- The node that is entered, with the part of the document that it goes on with. -/
def entrance? (outer : Position) : Event → Option (Position × Option Json)
  | entered element w => some (element :: outer, (w.frame? 0).bind (·.tree))
  | left | evaluated _ _ | completed => none

end Event

/-- The nodes around what happens after some events, innermost first. -/
def around (outer : Position) (events : List Event) : Position :=
  events.foldl Event.surround outer

/-- The nodes that are entered, each where it stands in the spec, and with what. -/
def entrances (outer : Position) : List Event → List (Position × Option Json)
  | [] => []
  | event :: rest => (event.entrance? outer).toList ++ entrances (event.surround outer) rest

theorem around_append (outer : Position) (events more : List Event) :
    around outer (events ++ more) = around (around outer events) more :=
  List.foldl_append

private theorem entrances_append (outer : Position) (events more : List Event) :
    entrances outer (events ++ more) =
      entrances outer events ++ entrances (around outer events) more := by
  induction events generalizing outer with
  | nil => rfl
  | cons event rest ih =>
    rw [List.cons_append, entrances, entrances, ih, List.append_assoc]
    rfl

/-- One computation is repeated by another, if it enters nodes as wanted only: where it
succeeds, it ends inside the nodes `after`, and the other has the same result. -/
def Repeats {α : Type} (wanted : Position × Option Json → Prop) (outer after : Position)
    (x y : Logged α) : Prop :=
  ∀ a, x.outcome = .ok a → (∀ entrance ∈ entrances outer x.events, wanted entrance) →
    around outer x.events = after ∧ y.outcome = .ok a

section Repeats

variable {α β : Type} {wanted : Position × Option Json → Prop} {outer middle after : Position}

theorem Repeats.pure (a : α) : Repeats wanted outer outer (pure a) (pure a) :=
  fun _ same _ => ⟨rfl, same⟩

theorem Repeats.bind {x y : Logged α} {next other : α → Logged β}
    (first : Repeats wanted outer middle x y)
    (later : ∀ a, Repeats wanted middle after (next a) (other a)) :
    Repeats wanted outer after (x >>= next) (y >>= other) := by
  obtain ⟨events, outcome⟩ := x
  intro b done enters
  cases outcome with
  | error e => cases done
  | ok a =>
    have happened : (Logged.mk events (.ok a) >>= next).events = events ++ (next a).events := rfl
    rw [happened, entrances_append, List.forall_mem_append] at enters
    obtain ⟨reached, same⟩ := first a rfl enters.1
    rw [reached] at enters
    rw [happened, around_append, reached, outcome_bind, same]
    exact later a b done enters.2

theorem Repeats.quiet_bind {x : Except RunError α} {next other : α → Logged β}
    (later : ∀ a, x = .ok a → Repeats wanted outer after (next a) (other a)) :
    Repeats wanted outer after (quiet x >>= next) (quiet x >>= other) := by
  cases x with
  | error e => exact fun b failed => nomatch failed
  | ok a => exact later a rfl

theorem Repeats.tell_bind {event : Event} {next other : Unit → Logged β}
    (later : (∀ entrance, event.entrance? outer = some entrance → wanted entrance) →
      Repeats wanted (event.surround outer) after (next ()) (other ())) :
    Repeats wanted outer after (tell event >>= next) (tell event >>= other) := by
  intro b done enters
  have happened : (tell event >>= next).events = event :: (next ()).events := rfl
  rw [happened, entrances, List.forall_mem_append] at enters
  have first (entrance : Position × Option Json) (found : event.entrance? outer = some entrance) :
      wanted entrance := enters.1 entrance (by rw [found]; exact List.mem_singleton_self _)
  exact later first b done enters.2

end Repeats

variable {wanted : Position × Option Json → Prop} {outer : Position} {element : Element}
variable {key : String} {data : Option Json} {w inner : Walk} {output : Json}
variable {α : Type} {f g : Element → α → LoggedAction}

end Reshape.Transform.Shift
