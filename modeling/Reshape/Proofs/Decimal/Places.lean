import Reshape.Json.Number
import Reshape.Proofs.Decimal.Rounding

/-! Integers as floats. Floats are compared by their places, first by exponent and then
by mantissa: a larger integer is never a smaller float, and it is a larger one as long as
the integers have at most 53 bits. -/

namespace Reshape.Decimal

open Float.Model Float.Model.UnpackedFloat

/-- Where a finite float lies among all of them: by exponent, then by mantissa. -/
def place : UnpackedFloat → Int
  | .finite sign m e _ => sign.apply ((e + 1075) * 2 ^ 53 + m)
  | _ => 0

/-- A float that is zero, or finite with a mantissa and an exponent of their widths. -/
def IsNumber : UnpackedFloat → Prop
  | .zero _ => True
  | .finite _ m e _ => m < 2 ^ 53 ∧ -1074 ≤ e
  | _ => False

private theorem compare_place {m n : Nat} {e f : Int} (small : m < 2 ^ 53) (also : n < 2 ^ 53) :
    (compare e f).then (compare m n) =
      compare ((e + 1075) * 2 ^ 53 + (m : Int)) ((f + 1075) * 2 ^ 53 + n) := by
  rcases Int.lt_trichotomy e f with less | rfl | more
  · rw [compare_lt_iff_lt.mpr less, Ordering.lt_then, eq_comm, compare_lt_iff_lt]
    omega
  · rw [compare_eq_iff_eq.mpr rfl, Ordering.eq_then]
    rcases Nat.lt_trichotomy m n with less | rfl | more
    · rw [compare_lt_iff_lt.mpr less, eq_comm, compare_lt_iff_lt]
      omega
    · rw [compare_eq_iff_eq.mpr rfl, compare_eq_iff_eq.mpr rfl]
    · rw [compare_gt_iff_gt.mpr more, eq_comm, compare_gt_iff_gt]
      omega
  · rw [compare_gt_iff_gt.mpr more, Ordering.gt_then, eq_comm, compare_gt_iff_gt]
    omega

private theorem compare_neg (x y : Int) : compare (-x) (-y) = (compare x y).swap := by
  rcases Int.lt_trichotomy x y with less | rfl | more
  · rw [compare_lt_iff_lt.mpr less, Ordering.swap_lt, compare_gt_iff_gt]
    omega
  · rw [compare_eq_iff_eq.mpr rfl, compare_eq_iff_eq.mpr rfl, Ordering.swap_eq]
  · rw [compare_gt_iff_gt.mpr more, Ordering.swap_gt, compare_lt_iff_lt]
    omega

/-- Numbers are compared by their places. -/
theorem compare_eq {a b : UnpackedFloat} (ha : IsNumber a) (hb : IsNumber b) :
    a.compare b = some (compare (place a) (place b)) := by
  have lead {m : Nat} {e : Int} (present : 0 < m) (normal : -1074 ≤ e) :
      0 < (e + 1075) * 2 ^ 53 + (m : Int) := by omega
  cases a with
  | infinity | notANumber => cases ha
  | zero s =>
    cases b with
    | infinity | notANumber => cases hb
    | zero t => simp [UnpackedFloat.compare, place]
    | finite t n f present =>
      have positive := lead present hb.2
      cases t <;> simp only [UnpackedFloat.compare, place, Sign.apply, Option.some.injEq]
      · rw [eq_comm, compare_gt_iff_gt]
        omega
      · rw [eq_comm, compare_lt_iff_lt]
        omega
  | finite s m e present =>
    have positive := lead present ha.2
    cases b with
    | infinity | notANumber => cases hb
    | zero t =>
      cases s <;> simp only [UnpackedFloat.compare, place, Sign.apply, Option.some.injEq]
      · rw [eq_comm, compare_lt_iff_lt]
        omega
      · rw [eq_comm, compare_gt_iff_gt]
        omega
    | finite t n f also =>
      have positive' := lead also hb.2
      cases s <;> cases t <;>
        simp only [UnpackedFloat.compare, place, Sign.apply, Option.some.injEq,
          compare_place ha.1 hb.1]
      · rw [compare_neg]
      · rw [eq_comm, compare_lt_iff_lt]
        omega
      · rw [eq_comm, compare_gt_iff_gt]
        omega

def IsFinite (x : Float) : Prop := IsNumber x.toModel.unpack

/-- Where a float lies among all of them. -/
def placeOf (x : Float) : Int := place x.toModel.unpack

variable {x y : Float}

theorem le_iff_place (hx : IsFinite x) (hy : IsFinite y) : x ≤ y ↔ placeOf x ≤ placeOf y := by
  change decide (UnpackedFloat.le x.toModel.unpack y.toModel.unpack = true) = true ↔ _
  rw [decide_eq_true_eq, UnpackedFloat.le, compare_eq hx hy, Option.any_some, Std.isLE_compare]
  rfl

theorem lt_iff_place (hx : IsFinite x) (hy : IsFinite y) : x < y ↔ placeOf x < placeOf y := by
  change decide (UnpackedFloat.lt x.toModel.unpack y.toModel.unpack = true) = true ↔ _
  rw [decide_eq_true_eq, UnpackedFloat.lt, compare_eq hx hy, beq_iff_eq, Option.some.injEq,
    compare_lt_iff_lt]
  rfl

variable {m n : Nat} {a b : Int}

private theorem unpack_neg {sign : Sign} {e : Int} {present : 0 < m}
    (told : x.toModel.unpack = .finite sign m e present) (low : 2 ^ 52 ≤ m) (high : m < 2 ^ 53)
    (normal : -1074 ≤ e) (fits : e ≤ 971) :
    (-x).toModel.unpack = .finite (-sign) m e present := by
  change (Float.Model.pack x.toModel.unpack.neg).unpack = _
  rw [told]
  exact unpack_pack low high normal fits present

/-- The place of the float that a natural number is converted to. -/
def placeOfNat (n : Nat) : Int :=
  if n = 0 then 0 else ((nearest n).2 + 1075) * 2 ^ 53 + (nearest n).1

/-- The place of the float that an integer is converted to. -/
def placeOfInt (n : Int) : Int :=
  if n < 0 then -placeOfNat n.natAbs else placeOfNat n.natAbs

theorem floatOfInt_spec (bounded : a.natAbs ≤ 2 ^ 64) :
    IsFinite (floatOfInt a) ∧ placeOf (floatOfInt a) = placeOfInt a := by
  by_cases zero : a = 0
  · subst zero
    exact ⟨trivial, rfl⟩
  · have positive : a.natAbs ≠ 0 := Int.natAbs_ne_zero.mpr zero
    have small : a.natAbs.log2 ≤ 64 := by
      rw [← Nat.lt_succ_iff, Nat.log2_lt positive]
      omega
    obtain ⟨low, high⟩ := nearest_mantissa positive
    obtain ⟨normal, fits⟩ := nearest_exponent_small small
    have short : (natChars a.natAbs).length ≤ 20 :=
      (Nat.length_toDigits_le_iff (by decide) (by decide)).mpr (lt_of_le_of_lt bounded (by decide))
    have unpacked : (toFloat false a.natAbs 0).toModel.unpack =
        .finite .positive (nearest a.natAbs).1 (nearest a.natAbs).2 (nearest_pos positive) := by
      rw [toFloat_natural positive (by omega)]
      exact unpack_pack low high normal (by omega) _
    have apart : placeOfNat a.natAbs =
        ((nearest a.natAbs).2 + 1075) * 2 ^ 53 + (nearest a.natAbs).1 := if_neg positive
    unfold floatOfInt placeOfInt
    by_cases negative : a < 0
    · have flipped := unpack_neg unpacked low high normal (by omega)
      rw [decide_eq_true negative, if_pos negative, apart]
      change IsNumber (-(toFloat false a.natAbs 0)).toModel.unpack ∧
        place (-(toFloat false a.natAbs 0)).toModel.unpack = _
      rw [flipped]
      exact ⟨⟨high, normal⟩, rfl⟩
    · rw [decide_eq_false negative, if_neg negative, apart, IsFinite, placeOf, unpacked]
      exact ⟨⟨high, normal⟩, rfl⟩

/-- The place of a number is told by its length and by what its first 53 bits are rounded
to. -/
theorem placeOfNat_eq (positive : n ≠ 0) :
    placeOfNat n =
      if rounded (n <<< 53) (n.log2 + 1) < 2 ^ 53 then
        ((n.log2 : Int) + 1023) * 2 ^ 53 + rounded (n <<< 53) (n.log2 + 1)
      else ((n.log2 : Int) + 1024) * 2 ^ 53 + 2 ^ 52 := by
  rw [placeOfNat, if_neg positive, nearest, carry]
  split <;> simp only [Nat.cast_pow, Nat.cast_ofNat] <;> ring

theorem rounded_natural_bounds (positive : n ≠ 0) :
    2 ^ 52 ≤ rounded (n <<< 53) (n.log2 + 1) ∧ rounded (n <<< 53) (n.log2 + 1) ≤ 2 ^ 53 := by
  refine rounded_bounds ?_ (log2_shiftLeft positive 53)
  simp [Nat.shiftLeft_eq, positive]

theorem placeOfNat_bounds (positive : n ≠ 0) :
    ((n.log2 : Int) + 1023) * 2 ^ 53 + 2 ^ 52 ≤ placeOfNat n ∧
      placeOfNat n ≤ ((n.log2 : Int) + 1024) * 2 ^ 53 + 2 ^ 52 := by
  obtain ⟨low, high⟩ := rounded_natural_bounds positive
  rw [placeOfNat_eq positive]
  split <;> omega

theorem log2_le_of_le (le : m ≤ n) (positive : m ≠ 0) : m.log2 ≤ n.log2 :=
  (Nat.le_log2 (by omega)).mpr ((Nat.log2_self_le positive).trans le)

theorem placeOfNat_nonneg (n : Nat) : 0 ≤ placeOfNat n := by
  by_cases zero : n = 0
  · subst zero
    exact Int.le_refl 0
  · have bounds := placeOfNat_bounds zero
    omega

/-- A larger number does not come before a smaller one. -/
theorem placeOfNat_le (le : m ≤ n) : placeOfNat m ≤ placeOfNat n := by
  by_cases zero : m = 0
  · subst zero
    exact placeOfNat_nonneg n
  · have positive : n ≠ 0 := by omega
    rcases Nat.lt_or_eq_of_le (log2_le_of_le le zero) with shorter | same
    · have first := (placeOfNat_bounds zero).2
      have second := (placeOfNat_bounds positive).1
      omega
    · have ordered : rounded (m <<< 53) (n.log2 + 1) ≤ rounded (n <<< 53) (n.log2 + 1) := by
        refine rounded_le ?_ _
        simpa only [Nat.shiftLeft_eq] using Nat.mul_le_mul_right _ le
      obtain ⟨-, high⟩ := rounded_natural_bounds zero
      rw [placeOfNat_eq zero, placeOfNat_eq positive, same]
      rw [same] at high
      split <;> split <;> omega

private theorem placeOfNat_of_small (positive : n ≠ 0) (small : n < 2 ^ 53) :
    placeOfNat n = ((n.log2 : Int) + 1023) * 2 ^ 53 + (n * 2 ^ (52 - n.log2) : Nat) := by
  have short : n.log2 ≤ 52 := Nat.le_of_lt_succ ((Nat.log2_lt positive).mpr small)
  rw [placeOfNat, if_neg positive, nearest_of_log2_le short positive, Nat.shiftLeft_eq]
  ring

/-- A larger number comes after a smaller one of at most 53 bits. -/
theorem placeOfNat_lt (less : m < n) (small : m < 2 ^ 53) : placeOfNat m < placeOfNat n := by
  have positive : n ≠ 0 := by omega
  by_cases zero : m = 0
  · subst zero
    have bounds := placeOfNat_bounds positive
    have none : placeOfNat 0 = 0 := rfl
    omega
  · have short : m.log2 ≤ 52 := Nat.le_of_lt_succ ((Nat.log2_lt zero).mpr small)
    rw [placeOfNat_of_small zero small]
    rcases Nat.lt_or_eq_of_le (log2_le_of_le less.le zero) with shorter | same
    · have within : m * 2 ^ (52 - m.log2) < 2 ^ 53 := by
        calc m * 2 ^ (52 - m.log2) < 2 ^ (m.log2 + 1) * 2 ^ (52 - m.log2) :=
              Nat.mul_lt_mul_of_pos_right Nat.lt_log2_self (by positivity)
          _ = 2 ^ 53 := by rw [← Nat.pow_add]; congr 1; omega
      have bounds := placeOfNat_bounds positive
      omega
    · have short' : n < 2 ^ 53 := (Nat.log2_lt positive).mp (by omega)
      have scaled : m * 2 ^ (52 - n.log2) < n * 2 ^ (52 - n.log2) :=
        Nat.mul_lt_mul_of_pos_right less (by positivity)
      rw [placeOfNat_of_small positive short', same]
      omega

theorem placeOfInt_le (le : a ≤ b) : placeOfInt a ≤ placeOfInt b := by
  have first := placeOfNat_nonneg a.natAbs
  have second := placeOfNat_nonneg b.natAbs
  unfold placeOfInt
  split <;> split
  · have reversed : b.natAbs ≤ a.natAbs := by omega
    have := placeOfNat_le reversed
    omega
  · omega
  · omega
  · exact placeOfNat_le (by omega)

/-- Integers of at most 53 bits stay apart as floats. -/
theorem placeOfInt_lt (less : a < b) (low : -2 ^ 53 ≤ a) (high : b ≤ 2 ^ 53) :
    placeOfInt a < placeOfInt b := by
  have first := placeOfNat_nonneg a.natAbs
  have second := placeOfNat_nonneg b.natAbs
  unfold placeOfInt
  split <;> split
  · have reversed := placeOfNat_lt (m := b.natAbs) (n := a.natAbs) (by omega) (by omega)
    omega
  · have apart := placeOfNat_lt (m := 0) (n := a.natAbs) (by omega) (by decide)
    have none : placeOfNat 0 = 0 := rfl
    omega
  · omega
  · exact placeOfNat_lt (by omega) (by omega)

theorem floatOfInt_le_iff (first : a.natAbs ≤ 2 ^ 64) (second : b.natAbs ≤ 2 ^ 64) :
    floatOfInt a ≤ floatOfInt b ↔ placeOfInt a ≤ placeOfInt b := by
  obtain ⟨number, told⟩ := floatOfInt_spec first
  obtain ⟨also, known⟩ := floatOfInt_spec second
  rw [le_iff_place number also, told, known]

theorem floatOfInt_lt_iff (first : a.natAbs ≤ 2 ^ 64) (second : b.natAbs ≤ 2 ^ 64) :
    floatOfInt a < floatOfInt b ↔ placeOfInt a < placeOfInt b := by
  obtain ⟨number, told⟩ := floatOfInt_spec first
  obtain ⟨also, known⟩ := floatOfInt_spec second
  rw [lt_iff_place number also, told, known]

end Reshape.Decimal
