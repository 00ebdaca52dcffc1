import Mathlib.Data.List.Perm.Basic
import Reshape.Function.Registry
import Reshape.Proofs.Function.Integers

namespace Reshape.Function

open Decimal

variable {start result : Int} {ns ms first : List Int}

/-- Whether all partial sums of some integers fit in 64 bits. -/
def SumsFit (start : Int) (ns : List Int) : Prop :=
  ∀ first, first <+: ns → Fits (start + first.sum)

theorem sumsFit_nil : SumsFit start [] ↔ Fits start := by
  simp [SumsFit]

theorem sumsFit_cons {n : Int} :
    SumsFit start (n :: ns) ↔ Fits start ∧ SumsFit (start + n) ns := by
  simp only [SumsFit, List.prefix_cons_iff]
  constructor
  · intro each
    refine ⟨by simpa using each [] (.inl rfl), fun first leads => ?_⟩
    have fits := each (n :: first) (.inr ⟨first, rfl, leads⟩)
    rwa [List.sum_cons, ← add_assoc] at fits
  · rintro ⟨fits, each⟩ first (rfl | ⟨rest, rfl, leads⟩)
    · simpa using fits
    · rw [List.sum_cons, ← add_assoc]
      exact each rest leads

theorem SumsFit.total (fit : SumsFit start ns) : Fits (start + ns.sum) :=
  fit ns List.prefix_rfl

/-- Adding succeeds just when all partial sums fit, and its result is the sum. -/
theorem addIntegers_eq_some_iff (fits : Fits start) :
    addIntegers start ns = some result ↔ SumsFit start ns ∧ result = start + ns.sum := by
  induction ns generalizing start with
  | nil => simp [addIntegers, sumsFit_nil, fits, eq_comm]
  | cons n rest ih =>
    rw [addIntegers, keepInteger_eq, sumsFit_cons, List.sum_cons, ← add_assoc]
    by_cases next : Fits (start + n)
    · rw [if_pos next, Option.bind_some, ih next]
      simp [fits]
    · have lost : ¬ SumsFit (start + n) rest := fun fit => next (by simpa using fit [] (by simp))
      simp [next, lost]

def gains (ns : List Int) : Int := (ns.filter (0 < ·)).sum

/-- The sum of the integers below zero. -/
def losses (ns : List Int) : Int := (ns.filter (· < 0)).sum

theorem sum_between (part : first.Sublist ns) : losses ns ≤ first.sum ∧ first.sum ≤ gains ns := by
  induction part with
  | slnil => simp [losses, gains]
  | cons n _ ih =>
    simp only [losses, gains, List.filter_cons] at ih ⊢
    split <;> split <;> simp_all <;> omega
  | cons_cons n _ ih =>
    simp only [losses, gains, List.filter_cons] at ih ⊢
    split <;> split <;> simp_all <;> omega

theorem gains_perm (same : ns.Perm ms) : gains ns = gains ms :=
  (same.filter _).sum_eq

theorem losses_perm (same : ns.Perm ms) : losses ns = losses ms :=
  (same.filter _).sum_eq

theorem sumsFit_of_ends (high : Fits (gains ns)) (low : Fits (losses ns)) : SumsFit 0 ns := by
  intro first leads
  have between := sum_between leads.sublist
  unfold Fits at high low ⊢
  omega

/-- Where no partial sum in any order leaves 64 bits, the gains and the losses fit. -/
theorem ends_of_sumsFit (every : ∀ order, order.Perm ns → SumsFit 0 order) :
    Fits (gains ns) ∧ Fits (losses ns) := by
  constructor
  · have fits := every _ (List.filter_append_perm (0 < ·) ns) _ (List.prefix_append _ _)
    rwa [zero_add] at fits
  · have fits := every _ (List.filter_append_perm (· < 0) ns) _ (List.prefix_append _ _)
    rwa [zero_add] at fits

/-- Where the sum fits, some summand can come first: one towards zero, or any if there
are none, since the partial sums then go straight to the sum. -/
theorem exists_next {n : Int} (each : ∀ m ∈ n :: ns, Fits m) (fits : Fits start)
    (total : Fits (start + (n :: ns).sum)) : ∃ m ∈ n :: ns, Fits (start + m) := by
  rw [List.sum_cons] at total
  unfold Fits minInteger maxInteger at *
  by_cases positive : 0 ≤ start
  · by_cases loss : ∃ m ∈ n :: ns, m ≤ 0
    · obtain ⟨m, member, below⟩ := loss
      have bounds := each m member
      exact ⟨m, member, by omega⟩
    · push Not at loss
      have head := loss n (by simp)
      have rest : 0 ≤ ns.sum := List.sum_nonneg fun m member => (loss m (by simp [member])).le
      exact ⟨n, by simp, by omega⟩
  · by_cases gain : ∃ m ∈ n :: ns, 0 ≤ m
    · obtain ⟨m, member, above⟩ := gain
      have bounds := each m member
      exact ⟨m, member, by omega⟩
    · push Not at gain
      have head := gain n (by simp)
      have rest : ns.sum ≤ 0 := by
        simpa using List.sum_le_card_nsmul ns 0 fun m member => (gain m (by simp [member])).le
      exact ⟨n, by simp, by omega⟩

/-- A sum that fits is found in some order. -/
theorem exists_order (each : ∀ n ∈ ns, Fits n) (fits : Fits start) (total : Fits (start + ns.sum)) :
    ∃ order, order.Perm ns ∧ SumsFit start order := by
  induction size : ns.length generalizing ns start with
  | zero =>
    obtain rfl := List.length_eq_zero_iff.mp size
    exact ⟨[], .nil, sumsFit_nil.mpr fits⟩
  | succ size ih =>
    cases ns with
    | nil => cases size
    | cons n rest =>
      obtain ⟨m, member, next⟩ := exists_next each fits total
      have moved := List.perm_cons_erase member
      have others : ∀ k ∈ (n :: rest).erase m, Fits k :=
        fun k member => each k (List.mem_of_mem_erase member)
      obtain ⟨order, same, fit⟩ := ih others next
        (by rwa [add_assoc, ← List.sum_cons, ← moved.sum_eq])
        (by rw [List.length_erase_of_mem member, size, Nat.add_sub_cancel])
      exact ⟨m :: order, (same.cons m).trans moved.symm, sumsFit_cons.mpr ⟨fits, fit⟩⟩

/-- Adding finds a sum in every order, if it fits, just where gains and losses fit too. -/
theorem addIntegers_every_order_iff (each : ∀ n ∈ ns, Fits n) (sum : Int) :
    (∀ order, order.Perm ns → addIntegers 0 order = keepInteger sum) ↔
      (Fits sum → ns.sum = sum ∧ Fits (gains ns) ∧ Fits (losses ns)) ∧
        (Fits ns.sum → Fits sum) := by
  have zero : Fits 0 := by decide
  have added {order : List Int} (fit : SumsFit 0 order) (same : order.Perm ns) :
      addIntegers 0 order = some ns.sum :=
    (addIntegers_eq_some_iff zero).mpr ⟨fit, by rw [zero_add, same.sum_eq]⟩
  rw [keepInteger_eq]
  constructor
  · intro every
    constructor
    · intro fits
      have found {order : List Int} (same : order.Perm ns) :=
        (addIntegers_eq_some_iff zero).mp ((every order same).trans (if_pos fits))
      exact ⟨by simpa using (found .rfl).2.symm, ends_of_sumsFit fun _ same => (found same).1⟩
    · intro fits
      obtain ⟨order, same, fit⟩ := exists_order each zero (by rwa [zero_add])
      have found := (added fit same).symm.trans (every order same)
      by_contra beyond
      rw [if_neg beyond] at found
      cases found
  · rintro ⟨whole, only⟩ order same
    by_cases fits : Fits sum
    · obtain ⟨rfl, high, low⟩ := whole fits
      rw [gains_perm same.symm] at high
      rw [losses_perm same.symm] at low
      rw [if_pos fits, added (sumsFit_of_ends high low) same]
    · rw [if_neg fits, Option.eq_none_iff_forall_ne_some]
      intro result found
      have total := ((addIntegers_eq_some_iff zero).mp found).1.total
      rw [zero_add, same.sum_eq] at total
      exact fits (only total)

variable {args order : List Json} {values : List Int}

/-- What a value adds to a sum of integers. -/
def CountsAs (value : Json) (n : Int) : Prop := integer? value = some n

theorem countsAs_of_denoted (denoted : List.Forall₂ Denotes args values) :
    List.Forall₂ CountsAs args (values.map saturate) :=
  List.forall₂_map_right_iff.mpr (denoted.imp fun _ _ => integer?_of_denotes)

/-- Arguments that count are no array in the place of all arguments. -/
theorem spread_of_countsAs (counted : List.Forall₂ CountsAs args ns) : spread args = args := by
  unfold spread
  split
  · cases counted with
    | cons first _ => cases first
  · rfl

private theorem filterMap_integer (counted : List.Forall₂ CountsAs args ns) :
    args.filterMap integer? = ns := by
  induction counted with
  | nil => rfl
  | cons first _ ih => rw [List.filterMap_cons_some first, ih]

theorem integerSum_eq (counted : List.Forall₂ CountsAs (spread args) ns) :
    integerSum args = (addIntegers 0 ns).map .ofInt := by
  rw [integerSum, filterMap_integer counted]

/-- The orders of arguments are the orders of what they count for. -/
theorem integerSum_every_order_iff (counted : List.Forall₂ CountsAs args ns) (sum : Option Int) :
    (∀ order, order.Perm args → integerSum order = sum.map .ofInt) ↔
      ∀ order, order.Perm ns → addIntegers 0 order = sum := by
  have injective : Function.Injective Json.ofInt := fun m n same => by
    injection same with same
    injection same
  constructor
  · intro every order same
    have moved : Relation.Comp (List.Forall₂ CountsAs) List.Perm args order :=
      ⟨ns, counted, same.symm⟩
    rw [List.forall₂_comp_perm_eq_perm_comp_forall₂] at moved
    obtain ⟨values, also, counted⟩ := moved
    have found := every values also.symm
    rw [integerSum_eq (by rwa [spread_of_countsAs counted])] at found
    exact Option.map_injective injective found
  · intro every order same
    obtain ⟨ms, counted, moved⟩ := List.perm_comp_forall₂ same counted
    rw [integerSum_eq (by rwa [spread_of_countsAs counted]), every ms moved]

private theorem get?_integerSum : ∀ name ∈ ["intSum", "longSum"],
    Registry.builtins.get? name = some integerSum :=
  List.forall_mem_cons.mpr ⟨rfl, List.forall_mem_singleton.mpr rfl⟩

private theorem get?_integer : ∀ name ∈ ["toInteger", "toLong"],
    Registry.builtins.get? name = some (ofFirst fun value => (integer? value).map .ofInt) :=
  List.forall_mem_cons.mpr ⟨rfl, List.forall_mem_singleton.mpr rfl⟩

/-- The sum of integers is exact in the integers of 64 bits nearest to what the
arguments stand for, if all partial sums fit, and there is none otherwise. It is the sum
of what they stand for in every order, or nothing in every order where that does not fit,
just where these integers have the same sum and gains and losses that fit, or neither of
the two sums fits. A conversion gives the nearest integer, which is the right result for
the integers that fit. -/
theorem integers_saturate (denoted : List.Forall₂ Denotes (spread args) values) :
    (∀ name ∈ ["intSum", "longSum"], ∃ f, Registry.builtins.get? name = some f ∧
      (∀ result, f args = some result ↔
        SumsFit 0 (values.map saturate) ∧ result = .ofInt (values.map saturate).sum) ∧
      ((∀ order, order.Perm (spread args) → f order = (keepInteger values.sum).map .ofInt) ↔
        (Fits values.sum → (values.map saturate).sum = values.sum ∧
          Fits (gains (values.map saturate)) ∧ Fits (losses (values.map saturate))) ∧
        (Fits (values.map saturate).sum → Fits values.sum))) ∧
    (∀ name ∈ ["toInteger", "toLong"], ∃ f, Registry.builtins.get? name = some f ∧
      ∀ value n, Denotes value n → ∀ rest,
        f (value :: rest) = some (.ofInt (saturate n)) ∧
        (f (value :: rest) = (keepInteger n).map .ofInt ↔ Fits n)) := by
  have counted := countsAs_of_denoted denoted
  have each : ∀ n ∈ values.map saturate, Fits n := by
    simpa using fun n _ => saturate_fits n
  refine ⟨fun name member => ⟨integerSum, get?_integerSum name member, fun result => ?_, ?_⟩,
    fun name member => ⟨_, get?_integer name member, fun value n denotes rest => ?_⟩⟩
  · have zero : Fits 0 := by decide
    simp only [integerSum_eq counted, Option.map_eq_some_iff, addIntegers_eq_some_iff zero,
      zero_add]
    grind
  · rw [integerSum_every_order_iff counted, addIntegers_every_order_iff each]
  · simp only [ofFirst, integer?_of_denotes denotes, Option.map_some, keepInteger_eq, true_and]
    by_cases fits : Fits n
    · simp [fits, saturate_of_fits]
    · simp [fits]

/-- The sum of the largest integer, one and minus one fits, but it is not found in that
order; and the integer after the largest one is converted to the largest one. -/
theorem integers_saturate_largest :
    (∃ f, Registry.builtins.get? "intSum" = some f ∧
      f [.arr [.ofInt maxInteger, .str "1", .ofInt (-1)]] = none) ∧
    ∃ f, Registry.builtins.get? "toLong" = some f ∧
      f [.str "9223372036854775808"] = some (.ofInt maxInteger) := by
  have digit : IsNumeral "1".toList := by decide
  have digits : IsNumeral "9223372036854775808".toList := by decide
  have one : Denotes (.str "1") 1 := .text (.unsigned digit)
  have beyond : Denotes (.str "9223372036854775808") 9223372036854775808 :=
    .text (.unsigned digits)
  have summands : List.Forall₂ Denotes
      (spread [.arr [.ofInt maxInteger, .str "1", .ofInt (-1)]]) [maxInteger, 1, -1] :=
    .cons (.integer _) (.cons one (.cons (.integer _) .nil))
  have single : List.Forall₂ Denotes (spread [.str "9223372036854775808"])
      [9223372036854775808] := .cons beyond .nil
  obtain ⟨f, found, sums, -⟩ := (integers_saturate summands).1 "intSum" (by decide)
  obtain ⟨g, also, converts⟩ := (integers_saturate single).2 "toLong" (by decide)
  refine ⟨⟨f, found, Option.eq_none_iff_forall_ne_some.mpr fun result some => ?_⟩,
    ⟨g, also, (converts _ _ beyond []).1⟩⟩
  have fits := ((sums result).mp some).1 [maxInteger, 1] (by decide)
  exact absurd fits (by decide)

end Reshape.Function
