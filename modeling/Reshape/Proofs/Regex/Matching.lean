import Reshape.Regex.Expression

namespace Reshape.Regex

variable {text : Subject}

theorem mem_addPlace {places : List Nat} {place new : Nat} :
    place ∈ addPlace places new ↔ place ∈ places ∨ place = new := by
  rw [addPlace]
  split
  · rename_i known
    have known : new ∈ places := by simpa using known
    exact ⟨.inl, fun either => either.elim id fun same => same ▸ known⟩
  · simp

theorem mem_distinct {places : List Nat} {place : Nat} :
    place ∈ distinct places ↔ place ∈ places := by
  suffices later : ∀ known, place ∈ places.foldl addPlace known ↔ place ∈ known ∨ place ∈ places by
    simpa [distinct] using later []
  induction places with
  | nil => simp
  | cons new places ih =>
    intro known
    rw [List.foldl_cons, ih, mem_addPlace, List.mem_cons, or_assoc]

theorem mem_stepAll {step : Nat → List Nat} {places : List Nat} {place : Nat} :
    place ∈ stepAll step places ↔ ∃ earlier ∈ places, place ∈ step earlier := by
  rw [stepAll, mem_distinct, List.mem_flatMap]

/-- A list in ascending order has no place twice. -/
theorem distinct_ascending {places : List Nat} (ascending : places.Pairwise (· < ·)) :
    distinct places = places := by
  suffices later : ∀ known, (known ++ places).Pairwise (· < ·) →
      places.foldl addPlace known = known ++ places from later [] ascending
  clear ascending
  induction places with
  | nil => simp
  | cons new places ih =>
    intro known ascending
    have fresh : new ∉ known := fun member =>
      Nat.lt_irrefl _ ((List.pairwise_append.mp ascending).2.2 new member new (by simp))
    have added : addPlace known new = known ++ [new] := by simp [addPlace, fresh]
    rw [List.foldl_cons, added, ih _ (by simpa using ascending), List.append_assoc,
      List.singleton_append]

/-- How many characters of a set follow each other from a place on, of `fuel` at most. -/
def runLength (text : Subject) (test : Char → Bool) : Nat → Nat → Nat
  | 0, _ => 0
  | fuel + 1, place =>
    if Look.charIs text test place then runLength text test fuel (place + 1) + 1 else 0

def charStep (text : Subject) (test : Char → Bool) (place : Nat) : List Nat :=
  if Look.charIs text test place then [place + 1] else []

/-- Going on lazily from a place finds it, and then one place after the other. -/
theorem closure_charStep {test : Char → Bool} (fuel place : Nat) (found : Found)
    (fresh : ∀ earlier ∈ found.tried, earlier.2 < place)
    (below : ∀ earlier ∈ found.places, earlier < place) :
    (closure (charStep text test) false fuel place found).places =
      found.places ++ List.range' place (runLength text test fuel place + 1) := by
  have new : addPlace found.places place = found.places ++ [place] := by
    have absent : place ∉ found.places := fun member => Nat.lt_irrefl _ (below place member)
    simp [addPlace, absent]
  induction fuel generalizing place found with
  | zero => simpa [closure, runLength, Found.add] using new
  | succ fuel ih =>
    have untried : (0, place) ∉ found.tried := fun member => Nat.lt_irrefl _ (fresh _ member)
    rw [closure, if_neg (by simpa using untried)]
    by_cases holds : Look.charIs text test place
    · simp only [charStep, holds, if_true, List.foldl_cons, List.foldl_nil, Found.add,
        Bool.false_eq_true, if_false, runLength, new]
      rw [ih]
      · simp [List.range'_succ]
      · simp only [List.mem_cons, forall_eq_or_imp]
        exact ⟨Nat.lt_succ_self _, fun earlier member => Nat.lt_succ_of_lt (fresh earlier member)⟩
      · simp only [List.mem_append, List.mem_singleton]
        rintro earlier (member | rfl)
        · exact Nat.lt_succ_of_lt (below earlier member)
        · exact Nat.lt_succ_self _
      · have absent : place + 1 ∉ found.places := fun member => by
          have := below _ member
          omega
        simp [addPlace, absent]
    · simp [charStep, holds, Found.add, runLength, new]

/-- A lazy repetition of a set of characters ends after one character, after two, and so on
up to the first one that is not in the set. -/
theorem ends_lazySet (chars : CharSet) (place : Nat) :
    (Pattern.rep (.set chars) 1 none false).ends text place =
      List.range' (place + 1) (runLength text chars.contains (text.size + 2) place) := by
  have step : (Pattern.set chars).ends text = charStep text chars.contains := rfl
  have more : atLeastOne (charStep text chars.contains) false (text.size + 1) place =
      List.range' (place + 1) (runLength text chars.contains (text.size + 2) place) := by
    rw [atLeastOne, runLength]
    by_cases holds : Look.charIs text chars.contains place
    · simp only [charStep, holds, if_true, List.foldl_cons, List.foldl_nil,
        Nat.succ_ne_self, if_false]
      rw [closure_charStep _ _ _ (by simp) (by simp)]
      simp
    · simp [charStep, holds]
  rw [Pattern.ends, step, repeated]
  simp only [exactly, List.flatMap_cons, List.flatMap_nil, List.append_nil, more]
  exact distinct_ascending List.pairwise_lt_range'

namespace Pattern

def isGroup : Pattern → Bool
  | group _ => true
  | _ => false

/-- What the groups among some parts capture where the parts match one after the other from
a place on. Each part ends at the first of its ends from which the others match. -/
def captures? (text : Subject) : List Pattern → Nat → Option (List String)
  | [], _ => some []
  | part :: parts, place =>
    (part.ends text place).findSome? fun stop =>
      (captures? text parts stop).map fun later =>
        if part.isGroup then slice text place stop :: later else later

theorem isSome_captures?_cons {part : Pattern} {parts : List Pattern} {place : Nat} :
    (captures? text (part :: parts) place).isSome ↔
      ∃ stop ∈ part.ends text place, (captures? text parts stop).isSome := by
  simp [captures?, List.findSome?_isSome_iff]

/-- Parts that match nothing at all, everywhere, can be left out. -/
theorem captures?_filter (parts : List Pattern) (place : Nat) :
    captures? text (parts.filter fun part => !part.isEmpty) place =
      captures? text parts place := by
  induction parts generalizing place with
  | nil => rfl
  | cons part parts ih =>
    by_cases nothing : part.isEmpty
    · obtain rfl : part = empty := by cases part <;> first | rfl | cases nothing
      have skipped : captures? text (empty :: parts) place = captures? text parts place := by
        cases found : captures? text parts place <;> simp [captures?, ends, isGroup, found]
      rw [skipped, ← ih]
      rfl
    · rw [List.filter_cons_of_pos (by simpa using nothing)]
      simp only [captures?, ih]

private theorem exists_mem_ends_foldl {part : Pattern} {parts : List Pattern} {place : Nat} :
    (∃ stop, stop ∈ (parts.foldl seq part).ends text place) ↔
      ∃ stop ∈ part.ends text place, (captures? text parts stop).isSome := by
  induction parts generalizing part with
  | nil => simp [captures?]
  | cons next parts ih =>
    simp only [List.foldl_cons, ih, ends, mem_stepAll, isSome_captures?_cons]
    constructor
    · rintro ⟨stop, ⟨earlier, first, second⟩, later⟩
      exact ⟨earlier, first, stop, second, later⟩
    · rintro ⟨earlier, first, stop, second, later⟩
      exact ⟨stop, ⟨earlier, first, second⟩, later⟩

/-- A sequence matches at a place if there is a way through its parts. -/
theorem startsAt_sequence (parts : List Pattern) (place : Nat) :
    (sequence parts).startsAt text place = (captures? text parts place).isSome := by
  rw [← captures?_filter, sequence]
  cases parts.filter fun part => !part.isEmpty with
  | nil => rfl
  | cons part rest =>
    rw [Bool.eq_iff_iff, isSome_captures?_cons, ← exists_mem_ends_foldl]
    simp [startsAt, List.eq_nil_iff_forall_not_mem]

/-- A sequence that starts with the start of the text matches there or nowhere. -/
theorem isMatch_sequence_textStart (ascii : Bool) (parts : List Pattern) (key : String) :
    (sequence (look .textStart ascii :: parts)).isMatch key =
      (captures? key.toList.toArray parts 0).isSome := by
  have start (place : Nat) :
      (captures? key.toList.toArray (look .textStart ascii :: parts) place).isSome ↔
        place = 0 ∧ (captures? key.toList.toArray parts 0).isSome := by
    rw [isSome_captures?_cons]
    by_cases first : place = 0 <;> simp [ends, Look.holds, first]
  rw [Bool.eq_iff_iff, isMatch, List.any_eq_true]
  simp only [startsAt_sequence, start, List.mem_range]
  exact ⟨fun ⟨_, _, _, found⟩ => found, fun found => ⟨0, Nat.succ_pos _, rfl, found⟩⟩

end Pattern

end Reshape.Regex
