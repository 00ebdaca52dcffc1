import Reshape.Json.Number
import Reshape.Proofs.Decimal.Rounding

namespace Reshape.Decimal

open Float.Model Float.Model.UnpackedFloat

variable {m n : Nat} {x : Float}

/-- A float that is not below the end of 64 bits with a sign. -/
def IsHuge : UnpackedFloat → Prop
  | .infinity sign => sign = .positive
  | .finite sign m e _ => sign = .positive ∧ 2 ^ 52 ≤ m ∧ m < 2 ^ 53 ∧ 11 ≤ e ∧ e ≤ 971
  | _ => False

theorem toFloat_huge (large : 2 ^ 63 ≤ n) : IsHuge (toFloat false n 0).toModel.unpack := by
  have positive : n ≠ 0 := by omega
  by_cases short : (natChars n).length ≤ 400
  · rw [toFloat_natural positive short]
    obtain ⟨low, high⟩ := nearest_mantissa positive
    have long : 63 ≤ n.log2 := (Nat.le_log2 positive).mpr large
    have exponent := nearest_exponent n
    by_cases fits : (nearest n).2 ≤ 971
    · rw [unpack_pack low high (by omega) fits]
      exact ⟨rfl, low, high, by omega, fits⟩
    · rw [unpack_pack_infinity (by omega)]
      rfl
  · have infinite : toFloat false n 0 = 1.0 / 0.0 := by
      have number : ¬ (n = 0 ∨ ((natChars n).length : Int) + 0 < -400) := by omega
      have beyond : 400 < ((natChars n).length : Int) + 0 := by omega
      simp only [toFloat, if_neg number, if_pos beyond]
      rfl
    rw [infinite]
    rfl

private theorem roundToInt_eq {e : Int} (whole : 0 ≤ e) :
    roundToInt .positive m e = (m * 2 ^ e.toNat : Nat) := by
  have rest : (0 - (e - (e.toNat : Int))).toNat = 0 := by omega
  rw [roundToInt, decreaseExponent]
  simp only [sub_zero, shiftToExponent, rest, ← Nat.shiftLeft_eq]
  rfl

private theorem toNat_ofNatClamp (n : Nat) :
    (UInt64.ofNatClamp n).toNat = min n (UInt64.size - 1) := by
  have bound : UInt64.size = 2 ^ 64 := rfl
  unfold UInt64.ofNatClamp
  split
  · rw [UInt64.toNat_ofNatLT]
    omega
  · rw [UInt64.toNat_ofNatLT]
    omega

theorem toUInt64_huge {u : UnpackedFloat} (huge : IsHuge u) : 2 ^ 63 ≤ u.toUInt64.toNat := by
  rw [UnpackedFloat.toUInt64, toNat_ofNatClamp]
  cases u with
  | zero | notANumber => cases huge
  | infinity sign =>
    obtain rfl : sign = .positive := huge
    decide
  | finite sign m e present =>
    obtain ⟨rfl, low, -, large, -⟩ := huge
    have power : 2 ^ 11 ≤ 2 ^ e.toNat := Nat.pow_le_pow_right (by decide) (by omega)
    have value : 2 ^ 52 * 2 ^ 11 ≤ m * 2 ^ e.toNat := Nat.mul_le_mul low power
    rw [toInt, roundToInt_eq (by omega), Int.toNat_natCast]
    exact Nat.le_min.mpr ⟨value, by decide⟩

theorem not_lt_zero_of_huge (huge : IsHuge x.toModel.unpack) : ¬ x < 0.0 := by
  have zero : (0.0 : Float).toModel.unpack = .zero .positive := rfl
  change ¬ decide (UnpackedFloat.lt x.toModel.unpack (0.0 : Float).toModel.unpack = true) = true
  rw [zero, decide_eq_true_eq, UnpackedFloat.lt]
  revert huge
  cases x.toModel.unpack with
  | zero | notANumber => exact nofun
  | infinity sign =>
    rintro rfl
    decide
  | finite sign m e present =>
    rintro ⟨rfl, -⟩
    exact Bool.false_ne_true

/-- What is far above zero goes far below it and back. -/
theorem unpack_neg_huge (huge : IsHuge x.toModel.unpack) :
    (-x).toModel.unpack = x.toModel.unpack.neg := by
  change (Float.Model.pack x.toModel.unpack.neg).unpack = _
  revert huge
  cases x.toModel.unpack with
  | zero | notANumber => exact nofun
  | infinity sign =>
    rintro rfl
    rfl
  | finite sign m e present =>
    rintro ⟨rfl, low, high, large, fits⟩
    exact unpack_pack low high (by omega) fits present

theorem neg_lt_zero_of_huge (huge : IsHuge x.toModel.unpack) : -x < 0.0 := by
  have zero : (0.0 : Float).toModel.unpack = .zero .positive := rfl
  change decide (UnpackedFloat.lt (-x).toModel.unpack (0.0 : Float).toModel.unpack = true) = true
  rw [unpack_neg_huge huge, zero, decide_eq_true_eq, UnpackedFloat.lt]
  revert huge
  cases x.toModel.unpack with
  | zero | notANumber => exact nofun
  | infinity sign =>
    rintro rfl
    rfl
  | finite sign m e present =>
    rintro ⟨rfl, -⟩
    rfl

private theorem neg_neg_huge (huge : IsHuge x.toModel.unpack) : IsHuge (-(-x)).toModel.unpack := by
  change IsHuge (Float.Model.pack (-x).toModel.unpack.neg).unpack
  rw [unpack_neg_huge huge]
  revert huge
  cases x.toModel.unpack with
  | zero | notANumber => exact nofun
  | infinity sign =>
    rintro rfl
    rfl
  | finite sign m e present =>
    rintro ⟨rfl, low, high, large, fits⟩
    change IsHuge (Float.Model.pack (.finite .positive m e present)).unpack
    rw [unpack_pack low high (by omega) fits]
    exact ⟨rfl, low, high, large, fits⟩

private theorem truncate_huge (huge : IsHuge x.toModel.unpack) :
    Number.truncate x = maxInteger := by
  have large : 2 ^ 63 ≤ x.toUInt64.toNat := toUInt64_huge huge
  rw [Number.truncate, if_neg (not_lt_zero_of_huge huge), maxInteger]
  omega

private theorem truncate_neg_huge (huge : IsHuge x.toModel.unpack) :
    Number.truncate (-x) = minInteger := by
  have large : 2 ^ 63 ≤ (-(-x)).toUInt64.toNat := toUInt64_huge (neg_neg_huge huge)
  rw [Number.truncate, if_pos (neg_lt_zero_of_huge huge), minInteger]
  omega

/-- Integers beyond 64 bits are cut off at the nearest end of them. -/
theorem truncate_toFloat (negative : Bool) (large : 2 ^ 63 ≤ n) :
    Number.truncate (toFloat negative n 0) = if negative then minInteger else maxInteger := by
  cases negative with
  | false => exact truncate_huge (toFloat_huge large)
  | true => exact truncate_neg_huge (toFloat_huge large)

end Reshape.Decimal
