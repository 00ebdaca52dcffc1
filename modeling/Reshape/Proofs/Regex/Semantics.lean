import Reshape.Proofs.Regex.Matching

/-! What a pattern matches, as a relation between the places where a match starts and where it
stops. It says nothing about the order in which matches are tried. The search for ends, which
tries no place twice, finds the places that the relation allows and no others. -/

namespace Reshape.Regex

/-- As many steps as `count` says lead from one place to another. -/
def Times (step : Nat → Nat → Prop) : Nat → Nat → Nat → Prop
  | 0, start, stop => start = stop
  | count + 1, start, stop => ∃ next, step start next ∧ Times step count next stop

/-- A pattern matches the part of a text between two places. -/
def Pattern.Spans (text : Subject) : Pattern → Nat → Nat → Prop
  | .empty, start, stop => start = stop
  | .set chars, start, stop => stop = start + 1 ∧ ∃ c, text[start]? = some c ∧ chars.contains c
  | .look condition ascii, start, stop => start = stop ∧ condition.holds text ascii start
  | .group body, start, stop => Spans text body start stop
  | .seq first second, start, stop =>
    ∃ middle, Spans text first start middle ∧ Spans text second middle stop
  | .alt first second, start, stop => Spans text first start stop ∨ Spans text second start stop
  | .rep body least most _, start, stop =>
    ∃ count, least ≤ count ∧ (∀ bound, most = some bound → count ≤ max least bound) ∧
      Times (Spans text body) count start stop

section Times

variable {step : Nat → Nat → Prop} {start stop : Nat}

theorem times_add {earlier later : Nat} :
    Times step (earlier + later) start stop ↔
      ∃ middle, Times step earlier start middle ∧ Times step later middle stop := by
  induction earlier generalizing start with
  | zero => simp [Times]
  | succ earlier ih =>
    rw [Nat.succ_add]
    simp only [Times, ih]
    constructor
    · rintro ⟨next, first, middle, more, rest⟩
      exact ⟨middle, ⟨next, first, more⟩, rest⟩
    · rintro ⟨middle, ⟨next, first, more⟩, rest⟩
      exact ⟨next, first, middle, more, rest⟩

/-- Steps that go on, and not past an end, do so together. -/
theorem bounds_of_times {size : Nat}
    (bounds : ∀ start stop, step start stop → start ≤ stop ∧ stop ≤ max start size) {count : Nat}
    (steps : Times step count start stop) : start ≤ stop ∧ stop ≤ max start size := by
  induction count generalizing start with
  | zero =>
    obtain rfl : start = stop := steps
    exact ⟨Nat.le_refl _, Nat.le_max_left ..⟩
  | succ count ih =>
    obtain ⟨next, first, rest⟩ := steps
    have now := bounds start next first
    have later := ih rest
    omega

end Times

/-- A match stops where it starts or after that, but not after the end of the text. -/
theorem Pattern.Spans.bounds {text : Subject} {p : Pattern} {start stop : Nat}
    (spans : p.Spans text start stop) : start ≤ stop ∧ stop ≤ max start text.size := by
  induction p generalizing start stop with
  | empty =>
    obtain rfl : start = stop := spans
    exact ⟨Nat.le_refl _, Nat.le_max_left ..⟩
  | set chars =>
    obtain ⟨rfl, c, found, -⟩ := spans
    obtain ⟨inside, -⟩ := Array.getElem?_eq_some_iff.mp found
    omega
  | look condition ascii =>
    obtain ⟨rfl, -⟩ := spans
    exact ⟨Nat.le_refl _, Nat.le_max_left ..⟩
  | group body ih => exact ih spans
  | seq first second ihFirst ihSecond =>
    obtain ⟨middle, before, after⟩ := spans
    have before := ihFirst before
    have after := ihSecond after
    omega
  | alt first second ihFirst ihSecond => exact spans.elim ihFirst ihSecond
  | rep body least most greedy ih =>
    obtain ⟨count, -, -, steps⟩ := spans
    exact bounds_of_times (fun _ _ => ih) steps

/-- The places that are reached from the tried keys of a kind are found: `reach` tells the
places that are reached from a key. -/
def Settled (reach : Nat × Nat → Nat → Prop) (kind : Nat × Nat → Prop) (found : Found) : Prop :=
  ∀ key ∈ found.tried, kind key → ∀ stop, reach key stop → stop ∈ found.places

/-- A part of a search finds some places, the `goal`, and tries only keys of a kind, all of
which it settles. -/
structure Adds (reach : Nat × Nat → Nat → Prop) (kind : Nat × Nat → Prop) (goal : Nat → Prop)
    (before after : Found) : Prop where
  places : ∀ stop, stop ∈ after.places ↔ stop ∈ before.places ∨ goal stop
  kept : ∀ key ∈ before.tried, key ∈ after.tried
  fresh : ∀ key ∈ after.tried, key ∈ before.tried ∨ kind key
  settled : Settled reach kind after

section Searches

variable {reach : Nat × Nat → Nat → Prop} {kind : Nat × Nat → Prop}

theorem Adds.of_settled {goal : Nat → Prop} {found : Found} (settled : Settled reach kind found)
    (known : ∀ stop, goal stop → stop ∈ found.places) : Adds reach kind goal found found where
  places stop := ⟨.inl, fun either => either.elim id (known stop)⟩
  kept _ := id
  fresh _ := .inl
  settled := settled

/-- What is settled stays settled by a search among fewer keys. -/
theorem Adds.widen {fewer : Nat × Nat → Prop} {reach' : Nat × Nat → Nat → Prop}
    {goal : Nat → Prop} {before after : Found} (adds : Adds reach' fewer goal before after)
    (settled : Settled reach kind before)
    (among : ∀ key, fewer key → kind key ∧ ∀ stop, reach key stop → reach' key stop) :
    Adds reach kind goal before after where
  places := adds.places
  kept := adds.kept
  fresh key member := (adds.fresh key member).imp_right fun new => (among key new).1
  settled key member right stop reached := by
    rcases adds.fresh key member with old | new
    · exact (adds.places stop).mpr (.inl (settled key old right stop reached))
    · exact adds.settled key member new stop ((among key new).2 stop reached)

/-- A place is noted as found and its key as tried, when there is nothing to settle for it. -/
theorem Adds.note {found : Found} {key : Nat × Nat} (place : Nat) (right : kind key)
    (nowhere : ∀ stop, ¬ reach key stop) (settled : Settled reach kind found) :
    Adds reach kind (· = place) found ({ found with tried := key :: found.tried }.add place) where
  places stop := mem_addPlace
  kept other old := List.mem_cons_of_mem _ old
  fresh other member := by
    rcases List.mem_cons.mp member with rfl | old
    · exact .inr right
    · exact .inl old
  settled other member kinded stop reached := by
    rcases List.mem_cons.mp member with rfl | old
    · exact absurd reached (nowhere stop)
    · exact mem_addPlace.mpr (.inl (settled other old kinded stop reached))

/-- A search that goes through some places one after the other. -/
theorem Adds.foldl (goal : Nat → Nat → Prop) {visit : Found → Nat → Found} {nexts : List Nat}
    {found : Found}
    (each : ∀ f, (∀ key ∈ found.tried, key ∈ f.tried) → Settled reach kind f →
      ∀ next ∈ nexts, Adds reach kind (goal next) f (visit f next))
    (settled : Settled reach kind found) :
    Adds reach kind (fun stop => ∃ next ∈ nexts, goal next stop) found
      (nexts.foldl visit found) := by
  induction nexts generalizing found with
  | nil => exact .of_settled settled (by simp)
  | cons next nexts ih =>
    have first := each found (fun _ => id) settled next (by simp)
    have rest : Adds reach kind (fun stop => ∃ next ∈ nexts, goal next stop) (visit found next)
        (nexts.foldl visit (visit found next)) :=
      ih (fun f kept settled later member =>
          each f (fun key old => kept key (first.kept key old)) settled later (by simp [member]))
        first.settled
    exact {
      places := fun stop => by simp [rest.places, first.places, or_assoc]
      kept := fun key old => rest.kept key (first.kept key old)
      fresh := fun key member => by
        rcases rest.fresh key member with middle | new
        · exact first.fresh key middle
        · exact .inr new
      settled := rest.settled }

/-- A search that notes a key, settles it and goes on among fewer keys. -/
theorem Adds.of_fewer (fewer : Nat × Nat → Prop) {goal : Nat → Prop} {found after : Found}
    {key : Nat × Nat} (among : ∀ other, fewer other → kind other) (right : kind key)
    (whole : ∀ stop, reach key stop → goal stop) (settled : Settled reach kind found)
    (places : ∀ stop, stop ∈ after.places ↔ stop ∈ found.places ∨ goal stop)
    (kept : ∀ other ∈ key :: found.tried, other ∈ after.tried)
    (fresh : ∀ other ∈ after.tried, other ∈ key :: found.tried ∨ fewer other)
    (rest : Settled reach fewer after) : Adds reach kind goal found after where
  places := places
  kept other old := kept other (List.mem_cons_of_mem _ old)
  fresh other member := by
    rcases fresh other member with old | few
    · rcases List.mem_cons.mp old with rfl | old
      · exact .inr right
      · exact .inl old
    · exact .inr (among other few)
  settled other member kinded stop reached := by
    rcases fresh other member with old | few
    · rcases List.mem_cons.mp old with rfl | old
      · exact (places stop).mpr (.inr (whole stop reached))
      · exact (places stop).mpr (.inl (settled other old kinded stop reached))
    · exact rest other member few stop reached

/-- A search from one place, which notes its key, finds the place itself, before or after
what follows it, and settles the key. -/
theorem Adds.expand (fewer : Nat × Nat → Prop) (later : Found → Found) (greedy : Bool)
    {goal : Nat → Prop} {found : Found} {key : Nat × Nat} {place : Nat}
    (among : ∀ other, fewer other → kind other) (right : kind key) (self : ¬ fewer key)
    (whole : ∀ stop, reach key stop → stop = place ∨ goal stop)
    (inner : ∀ f, key ∈ f.tried → Settled reach fewer f → Adds reach fewer goal f (later f))
    (settled : Settled reach kind found) :
    Adds reach kind (fun stop => stop = place ∨ goal stop) found
      (if greedy then (later { found with tried := key :: found.tried }).add place
        else later ({ found with tried := key :: found.tried }.add place)) := by
  have start (places : List Nat) (more : ∀ stop ∈ found.places, stop ∈ places) :
      Settled reach fewer ⟨key :: found.tried, places⟩ := by
    rintro other member few stop reached
    rcases List.mem_cons.mp member with rfl | old
    · exact absurd few self
    · exact more stop (settled other old (among other few) stop reached)
  split
  · have adds := inner _ (by simp) (start found.places fun _ => id)
    refine .of_fewer fewer among right whole settled (fun stop => ?_) adds.kept adds.fresh
      fun other member few stop reached => ?_
    · rw [Found.add, mem_addPlace, adds.places, or_assoc, @or_comm (goal stop)]
    · exact mem_addPlace.mpr (.inl (adds.settled other member few stop reached))
  · have adds := inner ({ found with tried := key :: found.tried }.add place)
      (by simp [Found.add]) (start _ fun stop old => mem_addPlace.mpr (.inl old))
    refine .of_fewer fewer among right whole settled (fun stop => ?_) adds.kept adds.fresh
      adds.settled
    rw [adds.places, Found.add, mem_addPlace, or_assoc]

end Searches

section Repetitions

variable {step : Nat → List Nat}

theorem mem_exactly {count stop : Nat} {places : List Nat} :
    stop ∈ exactly step count places ↔
      ∃ start ∈ places, Times (fun place next => next ∈ step place) count start stop := by
  induction count generalizing places with
  | zero => simp [exactly, Times]
  | succ count ih =>
    simp only [exactly, ih, mem_stepAll, Times]
    constructor
    · rintro ⟨next, ⟨start, member, first⟩, rest⟩
      exact ⟨start, member, next, first, rest⟩
    · rintro ⟨start, member, next, first, rest⟩
      exact ⟨next, ⟨start, member, first⟩, rest⟩

/-- Some number of steps, up to a bound, leads from one place to another. -/
def Within (step : Nat → List Nat) (bound start stop : Nat) : Prop :=
  ∃ count, count ≤ bound ∧ Times (fun place next => next ∈ step place) count start stop

private theorem within_succ {bound start stop : Nat} :
    Within step (bound + 1) start stop ↔
      stop = start ∨ ∃ next ∈ step start, Within step bound next stop := by
  constructor
  · rintro ⟨_ | count, few, steps⟩
    · exact .inl steps.symm
    · obtain ⟨next, first, rest⟩ := steps
      exact .inr ⟨next, first, count, by omega, rest⟩
  · rintro (rfl | ⟨next, first, count, few, rest⟩)
    · exact ⟨0, by omega, rfl⟩
    · exact ⟨count + 1, by omega, next, first, rest⟩

/-- Up to `bound` steps are searched for with fewer and fewer steps left. Keys with fewer
steps are settled once they are tried. -/
theorem adds_upTo (step : Nat → List Nat) (greedy : Bool) (bound place : Nat) (found : Found)
    (settled : Settled (fun key => Within step (key.1 + 1) key.2) (fun key => key.1 < bound)
      found) :
    Adds (fun key => Within step (key.1 + 1) key.2) (fun key => key.1 < bound)
      (Within step bound place) found (upTo step greedy bound place found) := by
  induction bound generalizing place found with
  | zero =>
    have here (stop : Nat) : Within step 0 place stop ↔ stop = place := by
      constructor
      · rintro ⟨count, none, steps⟩
        obtain rfl : count = 0 := by omega
        exact steps.symm
      · rintro rfl
        exact ⟨0, Nat.le_refl _, rfl⟩
    exact {
      places := fun stop => by rw [upTo, Found.add, mem_addPlace, here]
      kept := fun _ => id
      fresh := fun _ => .inl
      settled := fun _ _ absurdity => absurd absurdity (Nat.not_lt_zero _) }
  | succ bound ih =>
    rw [upTo]
    split
    · rename_i tried
      have tried : (bound, place) ∈ found.tried := by simpa using tried
      exact .of_settled settled fun stop => settled _ tried (Nat.lt_succ_self _) stop
    · have goal : Within step (bound + 1) place = fun stop =>
          stop = place ∨ ∃ next ∈ step place, Within step bound next stop :=
        funext fun stop => propext within_succ
      rw [goal]
      refine .expand (fun key => key.1 < bound)
        (fun f => (step place).foldl (fun f next => upTo step greedy bound next f) f) greedy
        (fun _ => Nat.lt_succ_of_lt) (Nat.lt_succ_self _) (Nat.lt_irrefl _)
        (fun _ => within_succ.mp) (fun f _ settled => ?_) settled
      exact .foldl _ (fun f _ settled next _ => ih next f settled) settled

/-- Some number of steps leads from one place to another. -/
def Leads (step : Nat → List Nat) (start stop : Nat) : Prop :=
  ∃ count, Times (fun place next => next ∈ step place) count start stop

/-- Steps that stay where they are can be left out. -/
theorem leads_iff {start stop : Nat} :
    Leads step start stop ↔
      stop = start ∨ ∃ next ∈ step start, next ≠ start ∧ Leads step next stop := by
  constructor
  · rintro ⟨count, steps⟩
    induction count with
    | zero => exact .inl steps.symm
    | succ count ih =>
      obtain ⟨next, first, rest⟩ := steps
      by_cases stays : next = start
      · exact ih (stays ▸ rest)
      · exact .inr ⟨next, first, stays, count, rest⟩
  · rintro (rfl | ⟨next, first, -, count, rest⟩)
    · exact ⟨0, rfl⟩
    · exact ⟨count + 1, next, first, rest⟩

section Closure

variable {size : Nat}

/-- Steps go on, and not past the end of a text of some size. -/
def Forward (step : Nat → List Nat) (size : Nat) : Prop :=
  ∀ place, ∀ next ∈ step place, place ≤ next ∧ next ≤ max place size

/-- Any number of steps is searched for from places further and further on. The places
from the present one on are settled once they are tried. -/
theorem adds_closure (forward : Forward step size) (greedy : Bool) (fuel place : Nat)
    (found : Found) (inside : place ≤ size) (enough : size + 1 < fuel + place)
    (settled : Settled (fun key => Leads step key.2) (fun key => place ≤ key.2) found) :
    Adds (fun key => Leads step key.2) (fun key => place ≤ key.2) (Leads step place) found
      (closure step greedy fuel place found) := by
  induction fuel generalizing place found with
  | zero => omega
  | succ fuel ih =>
    rw [closure]
    split
    · rename_i tried
      have tried : (0, place) ∈ found.tried := by simpa using tried
      exact .of_settled settled fun stop => settled _ tried (Nat.le_refl _) stop
    · have goal : Leads step place = fun stop =>
          stop = place ∨ ∃ next ∈ step place, next ≠ place ∧ Leads step next stop :=
        funext fun stop => propext leads_iff
      rw [goal]
      refine .expand (fun key => place < key.2)
        (fun f => (step place).foldl (fun f next => closure step greedy fuel next f) f) greedy
        (fun _ => Nat.le_of_lt) (Nat.le_refl _) (Nat.lt_irrefl _)
        (fun _ => leads_iff.mp) (fun f noted settled => ?_) settled
      refine .foldl (fun next stop => next ≠ place ∧ Leads step next stop)
        (fun g kept settled next member => ?_) settled
      have bounds := forward place next member
      by_cases stays : next = place
      · -- The place itself is on the way to being settled, and the search turns back at once.
        obtain ⟨fuel, rfl⟩ : ∃ less, fuel = less + 1 := ⟨fuel - 1, by omega⟩
        have tried : g.tried.contains (0, next) := by simpa [stays] using kept _ noted
        rw [closure, if_pos tried]
        exact .of_settled settled fun stop absurdity => absurd stays absurdity.1
      · have further : ∀ key : Nat × Nat, next ≤ key.2 → place < key.2 := by omega
        have adds := ih next g (by omega) (by omega)
          fun key member right => settled key member (further key right)
        have goal : (fun stop => next ≠ place ∧ Leads step next stop) = Leads step next :=
          funext fun stop => propext ⟨And.right, fun leads => ⟨stays, leads⟩⟩
        rw [goal]
        exact adds.widen settled fun key right => ⟨further key right, fun _ => id⟩

theorem mem_atLeastOne (forward : Forward step size) (greedy : Bool) (start stop : Nat) :
    stop ∈ atLeastOne step greedy (size + 1) start ↔
      ∃ next ∈ step start, Leads step next stop := by
  -- The start is tried but not settled, so that the search is about the places after it.
  let reach (key : Nat × Nat) (stop : Nat) : Prop := start < key.2 ∧ Leads step key.2 stop
  have adds : Adds reach (fun key => start ≤ key.2)
      (fun stop => ∃ next ∈ step start, stop = next ∨ next ≠ start ∧ Leads step next stop) ⟨[], []⟩
      ((step start).foldl (fun found next =>
        if next = start then { found with tried := (0, start) :: found.tried }.add start
        else closure step greedy (size + 1) next found) ⟨[], []⟩) := by
    refine .foldl _ (fun f _ settled next member => ?_) (by simp [Settled])
    have bounds := forward start next member
    split
    · rename_i stays
      subst stays
      have goal : (fun stop => stop = next ∨ next ≠ next ∧ Leads step next stop) = (· = next) := by
        simp
      rw [goal]
      exact .note next (Nat.le_refl _) (fun _ reached => absurd reached.1 (Nat.lt_irrefl _)) settled
    · rename_i moves
      have further : ∀ key : Nat × Nat, next ≤ key.2 → start < key.2 := by omega
      have adds := adds_closure forward greedy (size + 1) next f (by omega) (by omega)
        fun key member right stop leads =>
          settled key member (Nat.le_of_lt (further key right)) stop ⟨further key right, leads⟩
      have goal : (fun stop => stop = next ∨ next ≠ start ∧ Leads step next stop) =
          Leads step next := by
        refine funext fun stop => propext ⟨?_, fun leads => .inr ⟨moves, leads⟩⟩
        rintro (rfl | ⟨-, leads⟩)
        · exact ⟨0, rfl⟩
        · exact leads
      rw [goal]
      exact adds.widen settled fun key right =>
        ⟨Nat.le_of_lt (further key right), fun _ reached => reached.2⟩
  rw [atLeastOne, adds.places]
  simp only [List.not_mem_nil, false_or]
  constructor
  · rintro ⟨next, first, rfl | ⟨-, leads⟩⟩
    · exact ⟨stop, first, 0, rfl⟩
    · exact ⟨next, first, leads⟩
  · rintro ⟨next, first, leads⟩
    rcases leads_iff.mp leads with rfl | ⟨second, member, moves, leads⟩
    · exact ⟨stop, first, .inl rfl⟩
    · by_cases stays : next = start
      · subst stays
        exact ⟨second, member, .inr ⟨moves, leads⟩⟩
      · exact ⟨next, first, .inr ⟨stays, leads_iff.mpr (.inr ⟨second, member, moves, leads⟩)⟩⟩

/-- A number of steps and then one or more are more steps than that number. -/
theorem times_leads (count start stop : Nat) :
    (∃ middle, Times (fun place next => next ∈ step place) count start middle ∧
        ∃ next ∈ step middle, Leads step next stop) ↔
      ∃ total, count + 1 ≤ total ∧
        Times (fun place next => next ∈ step place) total start stop := by
  constructor
  · rintro ⟨middle, before, next, first, more, rest⟩
    exact ⟨count + (more + 1), by omega, times_add.mpr ⟨middle, before, next, first, rest⟩⟩
  · rintro ⟨total, enough, steps⟩
    obtain ⟨more, rfl⟩ : ∃ more, total = count + (more + 1) := ⟨total - count - 1, by omega⟩
    obtain ⟨middle, before, next, first, rest⟩ := times_add.mp steps
    exact ⟨middle, before, next, first, more, rest⟩

theorem times_within (count bound start stop : Nat) :
    (∃ middle, Times (fun place next => next ∈ step place) count start middle ∧
        Within step bound middle stop) ↔
      ∃ total, count ≤ total ∧ total ≤ count + bound ∧
        Times (fun place next => next ∈ step place) total start stop := by
  constructor
  · rintro ⟨middle, before, more, few, rest⟩
    exact ⟨count + more, by omega, by omega, times_add.mpr ⟨middle, before, rest⟩⟩
  · rintro ⟨total, enough, few, steps⟩
    obtain ⟨more, rfl⟩ : ∃ more, total = count + more := ⟨total - count, by omega⟩
    obtain ⟨middle, before, rest⟩ := times_add.mp steps
    exact ⟨middle, before, more, by omega, rest⟩

theorem mem_upTo (greedy : Bool) (bound start stop : Nat) :
    stop ∈ (upTo step greedy bound start ⟨[], []⟩).places ↔ Within step bound start stop := by
  have adds := adds_upTo step greedy bound start ⟨[], []⟩ (by simp [Settled])
  simp [adds.places]

/-- A repetition goes from place to place as often as its bounds allow. -/
theorem mem_repeated (forward : Forward step size) (least : Nat) (most : Option Nat)
    (greedy : Bool) (start stop : Nat) :
    stop ∈ repeated step least most greedy (size + 1) start ↔
      ∃ count, least ≤ count ∧ (∀ bound, most = some bound → count ≤ max least bound) ∧
        Times (fun place next => next ∈ step place) count start stop := by
  rcases most with _ | most
  · rcases least with _ | least
    · have listed : stop ∈ repeated step 0 none greedy (size + 1) start ↔
          stop = start ∨ ∃ next ∈ step start, Leads step next stop := by
        rw [← mem_atLeastOne forward greedy, repeated, mem_distinct]
        cases greedy <;> simp [or_comm]
      rw [listed]
      constructor
      · rintro (rfl | ⟨next, first, count, rest⟩)
        · exact ⟨0, by simp, by simp, rfl⟩
        · exact ⟨count + 1, by simp, by simp, next, first, rest⟩
      · rintro ⟨_ | count, -, -, steps⟩
        · exact .inl steps.symm
        · obtain ⟨next, first, rest⟩ := steps
          exact .inr ⟨next, first, count, rest⟩
    · simp only [repeated, mem_distinct, List.mem_flatMap, mem_exactly, List.mem_singleton,
        exists_eq_left, mem_atLeastOne forward, times_leads, reduceCtorEq, false_implies,
        implies_true, true_and]
  · have bound : least + (most - least) = max least most := by omega
    simp only [repeated, mem_distinct, List.mem_flatMap, mem_exactly, List.mem_singleton,
      exists_eq_left, mem_upTo, times_within, bound, Option.some.injEq, forall_eq']

end Closure

end Repetitions

/-- The ends of a pattern are the places where a match of it stops. -/
theorem Pattern.mem_ends_iff {text : Subject} {p : Pattern} {start stop : Nat} :
    stop ∈ p.ends text start ↔ p.Spans text start stop := by
  induction p generalizing start stop with
  | empty => simp [ends, Spans, eq_comm]
  | set chars =>
    rw [ends, Spans, Look.charIs]
    cases text[start]? <;> simp [and_comm]
  | look condition ascii =>
    rw [ends, Spans]
    split <;> simp [*, eq_comm]
  | group body ih => exact ih
  | seq first second ihFirst ihSecond => simp only [ends, Spans, mem_stepAll, ihFirst, ihSecond]
  | alt first second ihFirst ihSecond =>
    simp only [ends, Spans, mem_distinct, List.mem_append, ihFirst, ihSecond]
  | rep body least most greedy ih =>
    have step : (fun place next => next ∈ ends text body place) = Spans text body :=
      funext fun place => funext fun next => propext ih
    have forward : Forward (ends text body) text.size := fun place next member =>
      (ih.mp member).bounds
    rw [ends, Spans, mem_repeated forward, step]

/-- A pattern between the start and the end of the text matches a text if it spans the whole
of it. -/
theorem Pattern.isMatch_whole (p : Pattern) (text : String) :
    (sequence [.look .textStart false, p, .look .textEnd false]).isMatch text ↔
      p.Spans text.toList.toArray 0 text.length := by
  rw [isMatch_sequence_textStart, isSome_captures?_cons, ← String.length_toList]
  have last (stop : Nat) :
      (captures? text.toList.toArray [.look .textEnd false] stop).isSome ↔
        stop = text.toList.length := by
    rw [isSome_captures?_cons]
    by_cases ends : stop = text.toList.length <;> simp [Pattern.ends, Look.holds, captures?, ends]
  simp only [last, mem_ends_iff, exists_eq_right]

end Reshape.Regex
