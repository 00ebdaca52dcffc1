import Mathlib
import Reshape.Decimal.Shortest

/-! The float that a natural number is converted to. All bits of the number after the
first 53 are rounded off, to the nearest and ties to even, which may carry into the
exponent. Packing keeps what fits, and anything larger is an infinity. -/

namespace Reshape.Decimal

open Float.Model Float.Model.UnpackedFloat

/-- Where a mantissa with its two extra bits lies, in quarters of a unit. -/
def quarters (em : ExtendedMantissa) : Nat :=
  4 * em.mantissa + 2 * em.roundBit.toNat + em.stickyBit.toNat

variable {a b : ExtendedMantissa}

private theorem quarters_shiftRightOne (le : quarters a ≤ quarters b) :
    quarters a.shiftRightOne ≤ quarters b.shiftRightOne := by
  have halves (m : Nat) : 4 * (m / 2) + 2 * (m % 2 != 0).toNat = 2 * m := by
    rcases Nat.mod_two_eq_zero_or_one m with even | odd <;> simp [*] <;> omega
  obtain ⟨m, r, s⟩ := a
  obtain ⟨n, t, u⟩ := b
  simp only [quarters, ExtendedMantissa.shiftRightOne, halves] at le ⊢
  cases r <;> cases s <;> cases t <;> cases u <;> simp at le ⊢ <;> omega

theorem quarters_shiftRight (le : quarters a ≤ quarters b) (k : Nat) :
    quarters (a >>> k) ≤ quarters (b >>> k) := by
  induction k with
  | zero => exact le
  | succ k ih => exact quarters_shiftRightOne ih

theorem roundedMantissa_le (le : quarters a ≤ quarters b) :
    a.roundedMantissa ≤ b.roundedMantissa := by
  obtain ⟨m, r, s⟩ := a
  obtain ⟨n, t, u⟩ := b
  simp only [quarters] at le
  cases r <;> cases s <;> cases t <;> cases u <;>
    simp [ExtendedMantissa.roundedMantissa, ExtendedMantissa.accuracy,
      Accuracy.roundToNearestEven] at le ⊢ <;> omega

theorem mantissa_shiftRight (em : ExtendedMantissa) (k : Nat) :
    (em >>> k).mantissa = em.mantissa / 2 ^ k := by
  induction k with
  | zero => exact (Nat.div_one _).symm
  | succ k ih =>
    change (em >>> k).mantissa / 2 = _
    rw [ih, Nat.div_div_eq_div_mul, Nat.pow_succ]

theorem roundedMantissa_bounds (em : ExtendedMantissa) :
    em.mantissa ≤ em.roundedMantissa ∧ em.roundedMantissa ≤ em.mantissa + 1 := by
  obtain ⟨m, r, s⟩ := em
  cases r <;> cases s <;>
    simp [ExtendedMantissa.roundedMantissa, ExtendedMantissa.accuracy,
      Accuracy.roundToNearestEven]
  omega

/-- Bits that are zero are shifted out without a trace. -/
theorem shiftLeft_shiftRight (m k : Nat) :
    (⟨m <<< k, false, false⟩ : ExtendedMantissa) >>> k = ⟨m, false, false⟩ := by
  induction k generalizing m with
  | zero => rfl
  | succ k ih =>
    have doubled : m <<< (k + 1) = (2 * m) <<< k := by
      simp [Nat.shiftLeft_eq, Nat.pow_succ]; ring
    change ((⟨m <<< (k + 1), false, false⟩ : ExtendedMantissa) >>> k).shiftRightOne = _
    rw [doubled, ih]
    simp [ExtendedMantissa.shiftRightOne]

/-- A mantissa without its last `k` bits, rounded to the nearest, ties to even. -/
def rounded (m k : Nat) : Nat :=
  ((⟨m, false, false⟩ : ExtendedMantissa) >>> k).roundedMantissa

variable {m n k : Nat}

theorem rounded_le (le : m ≤ n) (k : Nat) : rounded m k ≤ rounded n k := by
  refine roundedMantissa_le (quarters_shiftRight ?_ k)
  simp only [quarters]
  omega

theorem rounded_shiftLeft (m k : Nat) : rounded (m <<< k) k = m := by
  rw [rounded, shiftLeft_shiftRight]
  rfl

theorem rounded_bounds (positive : m ≠ 0) (long : m.log2 = k + 52) :
    2 ^ 52 ≤ rounded m k ∧ rounded m k ≤ 2 ^ 53 := by
  have bounds := roundedMantissa_bounds ((⟨m, false, false⟩ : ExtendedMantissa) >>> k)
  rw [mantissa_shiftRight] at bounds
  have low : 2 ^ 52 ≤ m / 2 ^ k := by
    rw [Nat.le_div_iff_mul_le (by positivity), ← Nat.pow_add, Nat.add_comm, ← long]
    exact Nat.log2_self_le positive
  have high : m / 2 ^ k < 2 ^ 53 := by
    rw [Nat.div_lt_iff_lt_mul (by positivity), ← Nat.pow_add, Nat.add_comm]
    have less := Nat.lt_log2_self (n := m)
    rwa [long] at less
  exact ⟨low.trans bounds.1, bounds.2.trans high⟩

/-- A mantissa of 53 bits and its exponent; a power of two more gives up its last bit. -/
def carry (mantissa : Nat) (exponent : Int) : Nat × Int :=
  if mantissa < 2 ^ 53 then (mantissa, exponent) else (2 ^ 52, exponent + 1)

theorem carry_mantissa {e : Int} (low : 2 ^ 52 ≤ m) :
    2 ^ 52 ≤ (carry m e).1 ∧ (carry m e).1 < 2 ^ 53 := by
  unfold carry
  split
  · exact ⟨low, ‹_›⟩
  · exact ⟨Nat.le_refl _, Nat.pow_lt_pow_right (by decide) (by decide)⟩

theorem carry_exponent (m : Nat) (e : Int) : e ≤ (carry m e).2 ∧ (carry m e).2 ≤ e + 1 := by
  unfold carry
  split <;> simp

theorem targetExponent_eq (m : Nat) (e : Int) :
    Format.binary64.targetExponent (totalExponent m e) = max (m.log2 + e - 52) (-1074) := by
  simp only [Format.targetExponent, totalExponent, Format.mantissaBits, Format.minExponent]
  norm_num
  omega

theorem shiftToTargetExponent_eq {e : Int} (long : m.log2 = k + 52) (normal : -1074 ≤ e + k) :
    shiftToTargetExponent Format.binary64 m e .exact =
      ((⟨m, false, false⟩ : ExtendedMantissa) >>> k, e + k) := by
  have amount : (max ((m.log2 : Int) + e - 52) (-1074) - e).toNat = k := by omega
  simp only [shiftToTargetExponent, targetExponent_eq, shiftToExponent, amount]
  rfl

theorem log2_eq_of_bounds (low : 2 ^ 52 ≤ m) (high : m < 2 ^ 53) : m.log2 = 52 :=
  (Nat.log2_eq_iff (by omega)).mpr ⟨low, high⟩

private theorem roundWithAccuracy_of_shifts {format : Format} {sign : Sign} {e : Int}
    {accuracy : Accuracy} {first last : ExtendedMantissa × Int}
    (shifted : shiftToTargetExponent format m e accuracy = first)
    (settled : shiftToTargetExponent format first.1.roundedMantissa first.2 .exact = last)
    (present : 0 < last.1.mantissa) :
    roundWithAccuracy format sign m e accuracy =
      .finite sign last.1.mantissa last.2 present := by
  subst shifted settled
  exact dif_neg present.ne'

/-- What is left after the last bits of a mantissa, which has `k + 53`, are rounded off. -/
theorem roundWithAccuracy_eq {e : Int} {last : Nat × Int} (sign : Sign) (positive : m ≠ 0)
    (long : m.log2 = k + 52) (normal : -1074 ≤ e + k)
    (carried : carry (rounded m k) (e + k) = last) (present : 0 < last.1) :
    roundWithAccuracy Format.binary64 sign m e .exact = .finite sign last.1 last.2 present := by
  obtain ⟨low, high⟩ := rounded_bounds positive long
  have settled : shiftToTargetExponent Format.binary64 (rounded m k) (e + k) .exact =
      (⟨last.1, false, false⟩, last.2) := by
    subst carried
    unfold carry
    split
    case isTrue small =>
      rw [shiftToTargetExponent_eq (k := 0) (log2_eq_of_bounds low small) (by omega)]
      simp only [Nat.cast_zero, add_zero]
      rfl
    case isFalse large =>
      have power : rounded m k = 2 ^ 52 <<< 1 := by
        rw [Nat.le_antisymm high (Nat.not_lt.mp large)]
        decide
      rw [power, shiftToTargetExponent_eq (k := 1) (by decide) (by omega), shiftLeft_shiftRight]
      rfl
  exact roundWithAccuracy_of_shifts (shiftToTargetExponent_eq long normal) settled present

/-- The digit in front of a mantissa of 53 bits is not stored. -/
theorem toNat_implicit (low : 2 ^ 52 ≤ m) (high : m < 2 ^ 53) :
    (1#1 ++ BitVec.ofNat 52 m).toNat = m := by
  rw [BitVec.toNat_append, ← Nat.shiftLeft_add_eq_or_of_lt (BitVec.isLt _), BitVec.toNat_ofNat]
  simp only [BitVec.toNat_ofNat, Nat.shiftLeft_eq]
  omega

/-- A float of 53 bits and an exponent in range is packed without loss. -/
theorem unpack_pack {sign : Sign} {e : Int} (low : 2 ^ 52 ≤ m) (high : m < 2 ^ 53)
    (normal : -1074 ≤ e) (fits : e ≤ 971) (present : 0 < m) :
    (Float.Model.pack (.finite sign m e present)).unpack = .finite sign m e present := by
  obtain ⟨biased, told⟩ := Int.eq_ofNat_of_zero_le (a := e + 1023 + 52) (by omega)
  have stored : (BitVec.ofNat 11 biased).toNat = biased := by
    rw [BitVec.toNat_ofNat]
    omega
  have notTop : BitVec.ofNat 11 biased ≠ -1#11 := fun same => by
    have values := congrArg BitVec.toNat same
    rw [stored] at values
    simp at values
    omega
  have notZero : BitVec.ofNat 11 biased ≠ 0#11 := fun same => by
    have values := congrArg BitVec.toNat same
    rw [stored] at values
    simp at values
    omega
  have packed : UnpackedFloat.pack Format.binary64 (.finite sign m e present) =
      packComponents Format.binary64 sign (.ofNat 11 biased) (.ofNat 52 m) := by
    have room : ¬ 2 ^ 11 ≤ (e + 1023 + 52).toNat + 1 := by omega
    have long : m.log2 + 1 = 53 := by rw [log2_eq_of_bounds low high]
    have same : (e + 1023 + 52).toNat = biased := by omega
    exact (if_neg room).trans ((if_pos long).trans (by rw [← same]; rfl))
  unfold Float.Model.unpack Float.Model.pack
  simp only [packed, UnpackedFloat.unpack, unpackExponent_packComponents,
    unpackMantissa_packComponents, unpackSign_packComponents, Sign.ofBitVec_toBitVec]
  rw [if_neg notTop, if_neg notZero]
  simp only [toNat_implicit low high, stored]
  have bias : (Format.binary64.exponentBias : Int) = 1023 := rfl
  congr 1
  rw [bias]
  omega

/-- A larger exponent gives an infinity. -/
theorem unpack_pack_infinity {sign : Sign} {e : Int} (huge : 971 < e) (present : 0 < m) :
    (Float.Model.pack (.finite sign m e present)).unpack = .infinity sign := by
  have full : 2 ^ 11 ≤ (e + 1023 + 52).toNat + 1 := by omega
  have packed : UnpackedFloat.pack Format.binary64 (.finite sign m e present) =
      packedInfinity Format.binary64 sign := if_pos full
  unfold Float.Model.unpack Float.Model.pack
  simp only [packed]
  cases sign <;> rfl

/-- The mantissa and the exponent of the float nearest to a natural number. -/
def nearest (n : Nat) : Nat × Int :=
  carry (rounded (n <<< 53) (n.log2 + 1)) (n.log2 - 52)

theorem log2_shiftLeft (positive : m ≠ 0) (k : Nat) : (m <<< k).log2 = m.log2 + k := by
  have shifted : m <<< k ≠ 0 := by simp [Nat.shiftLeft_eq, positive]
  rw [Nat.log2_eq_iff shifted, Nat.shiftLeft_eq]
  constructor
  · rw [Nat.pow_add]
    exact Nat.mul_le_mul_right _ (Nat.log2_self_le positive)
  · rw [Nat.add_right_comm, Nat.pow_add]
    exact Nat.mul_lt_mul_of_pos_right Nat.lt_log2_self (by positivity)

theorem nearest_mantissa (positive : n ≠ 0) :
    2 ^ 52 ≤ (nearest n).1 ∧ (nearest n).1 < 2 ^ 53 := by
  have shifted : n <<< 53 ≠ 0 := by simp [Nat.shiftLeft_eq, positive]
  refine carry_mantissa (rounded_bounds shifted ?_).1
  rw [log2_shiftLeft positive]

theorem nearest_pos (positive : n ≠ 0) : 0 < (nearest n).1 :=
  Nat.lt_of_lt_of_le (by decide) (nearest_mantissa positive).1

theorem nearest_exponent (n : Nat) :
    (n.log2 : Int) - 52 ≤ (nearest n).2 ∧ (nearest n).2 ≤ n.log2 - 51 := by
  have bounds := carry_exponent (rounded (n <<< 53) (n.log2 + 1)) (n.log2 - 52)
  unfold nearest
  omega

/-- A number of at most 53 bits loses none of them. -/
theorem nearest_of_log2_le (small : n.log2 ≤ 52) (positive : n ≠ 0) :
    nearest n = (n <<< (52 - n.log2), (n.log2 : Int) - 52) := by
  have moved : n <<< 53 = (n <<< (52 - n.log2)) <<< (n.log2 + 1) := by
    rw [← Nat.shiftLeft_add]
    congr 1
    omega
  have room : n <<< (52 - n.log2) < 2 ^ 53 := by
    have long := log2_shiftLeft positive (52 - n.log2)
    refine (Nat.log2_lt ?_).mp ?_
    · simp [Nat.shiftLeft_eq, positive]
    · omega
  rw [nearest, moved, rounded_shiftLeft]
  exact if_pos room

/-- Numbers of at most 53 bits are converted as they are. -/
theorem round_natural (small : n.log2 ≤ 52) (positive : n ≠ 0) :
    UnpackedFloat.round Format.binary64 .positive n 0 =
      .finite .positive (nearest n).1 (nearest n).2 (nearest_pos positive) := by
  have long := log2_shiftLeft positive (52 - n.log2)
  have shifted : n <<< (52 - n.log2) ≠ 0 := by simp [Nat.shiftLeft_eq, positive]
  have amount : (0 - max ((n.log2 : Int) + 0 - 52) (-1074)).toNat = 52 - n.log2 := by omega
  have widened : decreaseExponent n 0 (Format.binary64.targetExponent (totalExponent n 0)) =
      (n <<< (52 - n.log2), (n.log2 : Int) - 52) := by
    rw [targetExponent_eq, decreaseExponent, amount]
    exact Prod.ext rfl (by simp only; omega)
  have whole : rounded (n <<< (52 - n.log2)) 0 = n <<< (52 - n.log2) :=
    rounded_shiftLeft _ 0
  simp only [UnpackedFloat.round, widened]
  refine roundWithAccuracy_eq (k := 0) .positive shifted (by omega) (by omega) ?_ _
  rw [whole, Nat.cast_zero, add_zero, nearest_of_log2_le small positive]
  refine if_pos ?_
  rw [← Nat.log2_lt shifted]
  omega

private theorem ofScientific_product (positive : n ≠ 0) (p : 0 < n <<< 53) :
    UnpackedFloat.ofScientific Format.binary64 n 0 =
      UnpackedFloat.mul Format.binary64 (.finite .positive (n <<< 53) (-53) p)
        (.finite .positive 1 0 Nat.one_pos) := by
  have below : ¬ (0 : Int) < -(2 ^ 11 + (n.log2 : Int)) := by omega
  have above : ¬ (0 : Int) > 2 ^ 11 := by decide
  unfold UnpackedFloat.ofScientific
  rw [dif_neg positive]
  rw [if_neg above]
  rw [if_neg below]
  rw [if_pos (Int.le_refl 0)]
  rfl

theorem mul_finite {e f : Int} {p : 0 < m} {q : 0 < n} :
    UnpackedFloat.mul Format.binary64 (.finite .positive m e p) (.finite .positive n f q) =
      roundWithAccuracy Format.binary64 .positive (m * n) (e + f) .exact := rfl

theorem ofScientific_unpacked (positive : n ≠ 0) :
    UnpackedFloat.ofScientific Format.binary64 n 0 =
      .finite .positive (nearest n).1 (nearest n).2 (nearest_pos positive) := by
  have shifted : n <<< 53 ≠ 0 := by simp [Nat.shiftLeft_eq, positive]
  have long : (n <<< 53).log2 = n.log2 + 1 + 52 := log2_shiftLeft positive 53
  have place : (-53 : Int) + (n.log2 + 1 : Nat) = n.log2 - 52 := by omega
  rw [ofScientific_product positive (Nat.pos_of_ne_zero shifted), mul_finite, mul_one, add_zero]
  refine roundWithAccuracy_eq .positive shifted long (by omega) ?_ _
  rw [place, nearest]

theorem nearest_exponent_small {limit : Nat} (small : n.log2 ≤ limit) :
    -1074 ≤ (nearest n).2 ∧ (nearest n).2 ≤ limit - 51 := by
  have bounds := nearest_exponent n
  omega

/-- A float with a mantissa of 53 bits times one is itself. -/
theorem mul_one_unpacked {e : Int} (low : 2 ^ 52 ≤ m) (high : m < 2 ^ 53) (normal : -1022 ≤ e)
    (present : 0 < m) :
    UnpackedFloat.mul Format.binary64 (.finite .positive m e present)
        (Float.ofBits 4607182418800017408).toModel.unpack =
      .finite .positive m e present := by
  have one : (Float.ofBits 4607182418800017408).toModel.unpack =
      .finite .positive (2 ^ 52) (-52) (by decide) := rfl
  have scaled : m * 2 ^ 52 = m <<< 52 := (Nat.shiftLeft_eq m 52).symm
  have shifted : m <<< 52 ≠ 0 := by rw [← scaled]; positivity
  have long : (m <<< 52).log2 = 52 + 52 := by
    rw [log2_shiftLeft present.ne', log2_eq_of_bounds low high]
  have place : e + -52 + (52 : Nat) = e := by omega
  rw [one, mul_finite, scaled]
  have carried : carry (rounded (m <<< 52) 52) (e + -52 + (52 : Nat)) = (m, e) := by
    rw [rounded_shiftLeft, place]
    exact if_pos high
  exact roundWithAccuracy_eq .positive shifted long (by omega) carried present

/-- The float that a natural number is converted to. -/
theorem ofScientific_model (positive : n ≠ 0) :
    (Float.ofScientific n false 0).toModel =
      .pack (.finite .positive (nearest n).1 (nearest n).2 (nearest_pos positive)) := by
  by_cases fits : n < 2 ^ 53 ∧ 0 ≤ 22
  case pos =>
    have small : n.log2 ≤ 52 := Nat.le_of_lt_succ ((Nat.log2_lt positive).mpr fits.1)
    obtain ⟨low, high⟩ := nearest_mantissa positive
    obtain ⟨normal, bounded⟩ := nearest_exponent_small small
    have word : n.toUInt64.toNat = n :=
      UInt64.toNat_ofNat_of_lt' (fits.1.trans (by decide))
    have whole : n.toUInt64.toFloat.toModel =
        .pack (.finite .positive (nearest n).1 (nearest n).2 (nearest_pos positive)) := by
      have sign : compare (n : Int) 0 = .gt := by
        rw [compare_gt_iff_gt]
        omega
      change Float.Model.pack (UnpackedFloat.normalize _ (n.toUInt64.toNat : Int) 0 _) = _
      rw [word, UnpackedFloat.normalize, sign]
      exact congrArg Float.Model.pack (round_natural small positive)
    have product : (Float.ofScientific n false 0).toModel =
        .pack (UnpackedFloat.mul Format.binary64 n.toUInt64.toFloat.toModel.unpack
          (Float.ofBits 4607182418800017408).toModel.unpack) := by
      unfold Float.ofScientific
      rw [dif_pos fits]
      rfl
    rw [product, whole, unpack_pack low high normal (by omega)]
    rw [mul_one_unpacked low high (by have := nearest_exponent n; omega)]
  case neg =>
    have model : Float.ofScientific n false 0 = ⟨Float.Model.ofScientific n 0⟩ := by
      unfold Float.ofScientific
      rw [dif_neg fits]
      rfl
    rw [model]
    exact congrArg Float.Model.pack (ofScientific_unpacked positive)

theorem toFloat_natural (positive : n ≠ 0) (short : (natChars n).length ≤ 400) :
    (toFloat false n 0).toModel =
      .pack (.finite .positive (nearest n).1 (nearest n).2 (nearest_pos positive)) := by
  have number : ¬ (n = 0 ∨ ((natChars n).length : Int) + 0 < -400) := by omega
  have small : ¬ 400 < ((natChars n).length : Int) + 0 := by omega
  rw [← ofScientific_model positive]
  simp only [toFloat, if_neg number, if_neg small]
  rfl

end Reshape.Decimal
