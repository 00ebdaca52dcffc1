import Reshape.Function.Registry
import Reshape.Proofs.Decimal.Places

/-! The order of integers in functions. The extremes and the sort compare integers as
floats, so integers that are one float are equals to them: the first of them is the extreme,
and the sort leaves them in the order in which they stand. -/

namespace Reshape.Function

open Decimal

variable {ns sorted : List Int} {a b n best w : Int}

/-- Whether an integer fits in 64 bits, with or without a sign. -/
def IsWord (n : Int) : Prop := minInteger ≤ n ∧ n < wordBound

instance : DecidablePred IsWord := fun n =>
  inferInstanceAs (Decidable (minInteger ≤ n ∧ n < wordBound))

theorem IsWord.natAbs_le (word : IsWord n) : n.natAbs ≤ 2 ^ 64 := by
  unfold IsWord minInteger wordBound at word
  omega

theorem IsWord.le_iff (left : IsWord a) (right : IsWord b) :
    floatOfInt a ≤ floatOfInt b ↔ placeOfInt a ≤ placeOfInt b :=
  floatOfInt_le_iff left.natAbs_le right.natAbs_le

theorem IsWord.lt_iff (left : IsWord a) (right : IsWord b) :
    floatOfInt a < floatOfInt b ↔ placeOfInt a < placeOfInt b :=
  floatOfInt_lt_iff left.natAbs_le right.natAbs_le

/-- A float that is not as large as another one comes from a smaller integer. -/
theorem IsWord.lt_of_not_le (left : IsWord a) (right : IsWord b)
    (more : ¬ floatOfInt b ≤ floatOfInt a) : a < b := by
  by_contra above
  exact more ((right.le_iff left).mpr (placeOfInt_le (Int.not_lt.mp above)))

/-- The first one of some integers that wins over all before it while none after it wins
over it, as floats. -/
inductive Foremost (wins : Float → Float → Bool) : Int → List Int → Prop where
  | here {w : Int} {rest : List Int}
    (unbeaten : ∀ n ∈ rest, wins (floatOfInt n) (floatOfInt w) = false) :
    Foremost wins w (w :: rest)
  | later {w n : Int} {rest : List Int} (wins_over : wins (floatOfInt w) (floatOfInt n) = true)
    (foremost : Foremost wins w rest) : Foremost wins w (n :: rest)

/-- A comparison of some integers as floats that is the order of a key of theirs. -/
def ComparesBy (key : Int → Int) (wins : Float → Float → Bool) (ns : List Int) : Prop :=
  ∀ a ∈ ns, ∀ b ∈ ns, wins (floatOfInt a) (floatOfInt b) = decide (key b < key a)

section

variable {key : Int → Int} {wins : Float → Float → Bool}

theorem Foremost.mem (foremost : Foremost wins w ns) : w ∈ ns := by
  induction foremost with
  | here => exact List.mem_cons_self
  | later _ _ ih => exact List.mem_cons_of_mem _ ih

theorem ComparesBy.sublist {ms : List Int} (compares : ComparesBy key wins ns)
    (part : ms.Sublist ns) : ComparesBy key wins ms :=
  fun a ha b hb => compares a (part.subset ha) b (part.subset hb)

/-- No key is greater than the one of the foremost integer. -/
theorem Foremost.key_le (foremost : Foremost wins w ns) (compares : ComparesBy key wins ns) :
    ∀ n ∈ ns, key n ≤ key w := by
  induction foremost with
  | here unbeaten =>
    refine List.forall_mem_cons.mpr ⟨Int.le_refl _, fun n member => ?_⟩
    have lost := unbeaten n member
    rw [compares n (by simp [member]) _ (by simp)] at lost
    simpa using lost
  | later wins_over foremost ih =>
    refine List.forall_mem_cons.mpr ⟨?_, ih (compares.sublist (List.sublist_cons_self _ _))⟩
    rw [compares _ (by simp [foremost.mem]) _ (by simp), decide_eq_true_eq] at wins_over
    omega

/-- What is foremost after a comparison of the first two was so before it. -/
theorem Foremost.of_step (compares : ComparesBy key wins (best :: n :: ns))
    (foremost : Foremost wins w
      ((if wins (floatOfInt n) (floatOfInt best) then n else best) :: ns)) :
    Foremost wins w (best :: n :: ns) := by
  have first := compares n (by simp) best (by simp)
  split at foremost
  · rename_i won
    have reached := foremost.key_le (compares.sublist (List.sublist_cons_self _ _)) n (by simp)
    refine .later ?_ foremost
    rw [won, eq_comm, decide_eq_true_eq] at first
    rw [compares w (by simp [foremost.mem]) best (by simp), decide_eq_true_eq]
    omega
  · rename_i lost
    rw [Bool.not_eq_true] at lost
    cases foremost with
    | here unbeaten => exact .here (List.forall_mem_cons.mpr ⟨lost, unbeaten⟩)
    | later wins_over foremost =>
      refine .later wins_over (.later ?_ foremost)
      have member := foremost.mem
      rw [lost, eq_comm, decide_eq_false_iff_not] at first
      rw [compares w (by simp [member]) best (by simp), decide_eq_true_eq] at wins_over
      rw [compares w (by simp [member]) n (by simp), decide_eq_true_eq]
      omega

/-- The fold keeps the foremost integer. -/
theorem foldl_better (compares : ComparesBy key wins (best :: ns)) :
    ∃ w, (ns.map Json.ofInt).foldl (better wins) (some (.int best)) = some (.int w) ∧
      Foremost wins w (best :: ns) := by
  induction ns generalizing best with
  | nil => exact ⟨best, rfl, .here (by simp)⟩
  | cons n rest ih =>
    have step : better wins (some (.int best)) (.ofInt n) =
        some (.int (if wins (floatOfInt n) (floatOfInt best) then n else best)) := by
      by_cases won : wins (floatOfInt n) (floatOfInt best) = true <;>
        simp [better, Json.ofInt, Number.toFloat, won]
    have later : ComparesBy key wins
        ((if wins (floatOfInt n) (floatOfInt best) then n else best) :: rest) := by
      refine compares.sublist ?_
      split
      · exact List.sublist_cons_self _ _
      · exact (List.sublist_cons_self _ _).cons_cons best
    obtain ⟨w, found, foremost⟩ := ih later
    refine ⟨w, ?_, foremost.of_step compares⟩
    rw [List.map_cons, List.foldl_cons, step, found]

/-- The extreme of integers is the foremost one. -/
theorem extreme_foremost {args : List Json} (compares : ComparesBy key wins ns)
    (present : ns ≠ []) (given : spread args = ns.map .ofInt) :
    ∃ w, extreme wins args = some (.ofInt w) ∧ Foremost wins w ns := by
  cases ns with
  | nil => exact absurd rfl present
  | cons n rest =>
    obtain ⟨w, found, foremost⟩ := foldl_better compares
    refine ⟨w, ?_, foremost⟩
    have first : better wins none (.ofInt n) = some (.int n) := rfl
    rw [extreme, given, List.map_cons, List.foldl_cons, first, found]
    rfl

end

def inOrder (a b : Int) : Bool := placeOfInt a ≤ placeOfInt b

theorem inOrder_trans (a b c : Int) : inOrder a b → inOrder b c → inOrder a c := by
  simp only [inOrder, decide_eq_true_eq]
  omega

theorem inOrder_total (a b : Int) : inOrder a b || inOrder b a := by
  simp only [inOrder, Bool.or_eq_true, decide_eq_true_eq]
  omega

theorem sort_ofInt (each : ∀ n ∈ ns, IsWord n) (present : ns ≠ []) (rest : List Json) :
    sort (.arr (ns.map .ofInt) :: rest) = some (.arr ((ns.mergeSort inOrder).map .ofInt)) := by
  have noTexts : texts? (ns.map .ofInt) = none := by
    cases ns with
    | nil => exact absurd rfl present
    | cons => rfl
  have numbers : numbers? (ns.map .ofInt) = some (ns.map .int) := by
    clear each present noTexts
    induction ns with
    | nil => rfl
    | cons n rest ih => rw [List.map_cons, Json.ofInt, numbers?, ih]; rfl
  have sorted : (ns.map Number.int).mergeSort (fun a b => a.toFloat ≤ b.toFloat) =
      (ns.mergeSort inOrder).map .int := by
    refine (List.map_mergeSort fun a ha b hb => ?_).symm
    exact decide_eq_decide.mpr ((each a ha).le_iff (each b hb)).symm
  simp only [sort, ofList, ofFirst, noTexts, numbers, sorted, List.map_map]
  rfl

/-- Integers that are one float stay in the order in which they stand. -/
theorem filter_mergeSort (place : Int) :
    (ns.mergeSort inOrder).filter (placeOfInt · = place) = ns.filter (placeOfInt · = place) := by
  have alike : (ns.filter (placeOfInt · = place)).Pairwise fun a b => inOrder a b := by
    refine List.pairwise_of_forall_mem_list fun a ha b hb => ?_
    simp only [List.mem_filter, decide_eq_true_eq] at ha hb
    simp [inOrder, ha.2, hb.2]
  have kept := (List.sublist_mergeSort inOrder_trans inOrder_total alike
    List.filter_sublist).filter (placeOfInt · = place)
  simp only [List.filter_filter, Bool.and_self] at kept
  refine (kept.eq_of_length ?_).symm
  exact (((List.mergeSort_perm ns inOrder).filter _).length_eq).symm

/-- The sort is right just where integers that are one float stand in their order. -/
theorem pairwise_mergeSort_iff :
    (ns.mergeSort inOrder).Pairwise (· ≤ ·) ↔
      ns.Pairwise fun a b => placeOfInt a = placeOfInt b → a ≤ b := by
  constructor
  · intro ordered
    rw [List.pairwise_iff_forall_sublist] at ordered ⊢
    intro a b pair same
    exact ordered (List.pair_sublist_mergeSort inOrder_trans inOrder_total
      (by simp [inOrder, same]) pair)
  · intro apart
    have sorted := List.pairwise_mergeSort inOrder_trans inOrder_total ns
    rw [List.pairwise_iff_forall_sublist] at apart sorted ⊢
    intro a b pair
    have place := sorted pair
    rw [inOrder, decide_eq_true_eq] at place
    rcases Int.lt_or_eq_of_le place with less | same
    · by_contra above
      have le := placeOfInt_le (Int.not_le.mp above).le
      omega
    · have kept := pair.filter (placeOfInt · = placeOfInt b)
      rw [filter_mergeSort] at kept
      exact apart ((by simpa [same] using kept : [a, b].Sublist _).trans List.filter_sublist) same

private theorem compares_max (each : ∀ n ∈ ns, IsWord n) :
    ComparesBy placeOfInt (fun candidate best => best < candidate) ns :=
  fun a ha b hb => decide_eq_decide.mpr ((each b hb).lt_iff (each a ha))

private theorem compares_min (each : ∀ n ∈ ns, IsWord n) :
    ComparesBy (fun n => -placeOfInt n) (fun candidate best => candidate < best) ns :=
  fun a ha b hb => decide_eq_decide.mpr (((each a ha).lt_iff (each b hb)).trans neg_lt_neg_iff.symm)

/-- The extremes and the sort of integers are those of the floats nearest to them. The
greatest and the least one are the first ones as floats, and they are right just where no
member that is the same float is beyond them. The sort is stable, so that it is right just
where the members that are the same float already stand in their order. All are right for
integers of at most 53 bits. -/
theorem integers_ordered_as_floats {args : List Json} (each : ∀ n ∈ ns, IsWord n)
    (present : ns ≠ []) (given : spread args = ns.map .ofInt) :
    (∃ f r, Registry.builtins.get? "max" = some f ∧ f args = some (.ofInt r) ∧
      Foremost (fun candidate best => best < candidate) r ns ∧
      ((∀ n ∈ ns, n ≤ r) ↔ ∀ n ∈ ns, floatOfInt r ≤ floatOfInt n → n ≤ r)) ∧
    (∃ f r, Registry.builtins.get? "min" = some f ∧ f args = some (.ofInt r) ∧
      Foremost (fun candidate best => candidate < best) r ns ∧
      ((∀ n ∈ ns, r ≤ n) ↔ ∀ n ∈ ns, floatOfInt n ≤ floatOfInt r → r ≤ n)) ∧
    (∃ (f : Function) (sorted : List Int), Registry.builtins.get? "sort" = some f ∧
      (∀ rest, f (.arr (ns.map .ofInt) :: rest) = some (.arr (sorted.map .ofInt))) ∧
      sorted.Perm ns ∧ sorted.Pairwise (floatOfInt · ≤ floatOfInt ·) ∧
      (sorted.Pairwise (· ≤ ·) ↔ ns.Pairwise fun a b =>
        floatOfInt a ≤ floatOfInt b → floatOfInt b ≤ floatOfInt a → a ≤ b)) ∧
    ((∀ n ∈ ns, n.natAbs ≤ 2 ^ 53) → ∀ a ∈ ns, ∀ b ∈ ns, floatOfInt a ≤ floatOfInt b → a ≤ b) := by
  refine ⟨?_, ?_, ⟨sort, ns.mergeSort inOrder, rfl, sort_ofInt each present,
    List.mergeSort_perm ns inOrder, ?_, ?_⟩, ?_⟩
  · obtain ⟨r, found, foremost⟩ := extreme_foremost (compares_max each) present given
    refine ⟨_, r, rfl, found, foremost, fun bound n member _ => bound n member,
      fun bound n member => ?_⟩
    by_cases reaches : floatOfInt r ≤ floatOfInt n
    · exact bound n member reaches
    · exact ((each n member).lt_of_not_le (each r foremost.mem) reaches).le
  · obtain ⟨r, found, foremost⟩ := extreme_foremost (compares_min each) present given
    refine ⟨_, r, rfl, found, foremost, fun bound n member _ => bound n member,
      fun bound n member => ?_⟩
    by_cases reaches : floatOfInt n ≤ floatOfInt r
    · exact bound n member reaches
    · exact ((each r foremost.mem).lt_of_not_le (each n member) reaches).le
  · refine (List.pairwise_mergeSort inOrder_trans inOrder_total ns).imp_of_mem
      fun {a b} ha hb ordered => ?_
    rw [inOrder, decide_eq_true_eq] at ordered
    have first := each a (List.mem_mergeSort.mp ha)
    have later := each b (List.mem_mergeSort.mp hb)
    exact (first.le_iff later).mpr ordered
  · refine pairwise_mergeSort_iff.trans (List.Pairwise.iff_of_mem fun {a b} ha hb => ?_)
    rw [(each a ha).le_iff (each b hb), (each b hb).le_iff (each a ha)]
    grind
  · intro short a ha b hb le
    by_contra above
    have first := short a ha
    have second := short b hb
    have less := placeOfInt_lt (Int.not_le.mp above) (by omega) (by omega)
    have place := ((each a ha).le_iff (each b hb)).mp le
    omega

/-- Of two integers of 54 bits that are one float, the first one is the greatest. -/
theorem integers_ordered_as_floats_alike :
    ∃ f, Registry.builtins.get? "max" = some f ∧
      f [.ofInt 9007199254740992, .ofInt 9007199254740993] = some (.ofInt 9007199254740992) := by
  have each : ∀ n ∈ [(9007199254740992 : Int), 9007199254740993], IsWord n := by decide
  have given : spread [.ofInt 9007199254740992, .ofInt 9007199254740993] =
      [9007199254740992, 9007199254740993].map .ofInt := rfl
  obtain ⟨⟨f, r, known, found, foremost, -⟩, -⟩ :=
    integers_ordered_as_floats each (by decide) given
  refine ⟨f, known, ?_⟩
  cases foremost with
  | here => exact found
  | later wins_over foremost =>
    obtain rfl := List.mem_singleton.mp foremost.mem
    rw [decide_eq_true_eq, (each _ (by simp)).lt_iff (each _ (by simp))] at wins_over
    exact absurd wins_over (by decide)

end Reshape.Function
