import Mathlib.Data.List.Lex
import Mathlib.Data.String.Basic

namespace Reshape.Text

def bytes (text : String) : List UInt8 :=
  text.toUTF8.data.toList

theorem bytes_eq_flatMap (text : String) :
    bytes text = text.toList.flatMap String.utf8EncodeChar := by
  rw [bytes, String.toUTF8_eq_toByteArray, ← String.utf8Encode_toList, List.utf8Encode,
    List.data_toByteArray]

/-- How many bytes follow the first one in the encoding of a code point. -/
def following (value : Nat) : Nat :=
  if value ≤ 0x7f then 0 else if value ≤ 0x7ff then 1 else if value ≤ 0xffff then 2 else 3

/-- What the first byte of an encoding adds to tell how many bytes follow. -/
def lengthMark : Nat → Nat
  | 0 => 0
  | 1 => 0xc0
  | 2 => 0xe0
  | _ => 0xf0

/-- The first byte of the encoding of a code point. -/
def leading (value : Nat) : Nat :=
  value / 64 ^ following value + lengthMark (following value)

/-- The last `count` digits of a code point to the base 64, as the bytes after the first one. -/
def trailing : Nat → Nat → List UInt8
  | 0, _ => []
  | count + 1, value => UInt8.ofNat (value / 64 ^ count % 64 + 0x80) :: trailing count value

theorem toNat_lt (c : Char) : c.toNat < 0x110000 := by
  rcases c.valid with low | high
  · exact Nat.lt_trans low (by decide)
  · exact high.2

theorem utf8EncodeChar_eq (c : Char) : String.utf8EncodeChar c =
    UInt8.ofNat (leading c.toNat) :: trailing (following c.toNat) c.toNat := by
  have bounded := toNat_lt c
  have same : c.val.toNat = c.toNat := rfl
  rw [leading, following, String.utf8EncodeChar, same]
  generalize c.toNat = value at bounded
  split_ifs <;> simp [trailing, lengthMark] <;> congr 2 <;> omega

/-- The first digits that are different decide. -/
theorem trailing_lt {m n count : Nat} (less : m % 64 ^ count < n % 64 ^ count)
    (rest more : List UInt8) : trailing count m ++ rest < trailing count n ++ more := by
  induction count with
  | zero => simp [Nat.mod_one] at less
  | succ count ih =>
    have low := Nat.mod_lt (m / 64 ^ count) (show 0 < 64 by decide)
    have high := Nat.mod_lt (n / 64 ^ count) (show 0 < 64 by decide)
    rw [Nat.mod_pow_succ, Nat.mod_pow_succ] at less
    rw [trailing, trailing, List.cons_append, List.cons_append, List.cons_lt_cons_iff,
      UInt8.lt_iff_toNat_lt, ← UInt8.toNat_inj, UInt8.toNat_ofNat', UInt8.toNat_ofNat']
    rcases Nat.lt_trichotomy (m / 64 ^ count % 64) (n / 64 ^ count % 64) with digit | digit | digit
    · left; omega
    · rw [digit] at less ⊢
      exact .inr ⟨rfl, ih (Nat.lt_of_add_lt_add_right less)⟩
    · have bounded := Nat.mod_lt n (show 0 < 64 ^ count from Nat.pow_pos (by decide))
      have carried := Nat.mul_le_mul_left (64 ^ count) digit
      rw [Nat.mul_succ] at carried
      omega

private theorem leading_lt {m n : Nat} (less : m < n) :
    leading m < leading n ∨ leading m = leading n ∧ following m = following n ∧
      m % 64 ^ following m < n % 64 ^ following n := by
  simp only [leading, following]
  split_ifs <;> simp only [lengthMark, true_and] <;> omega

private theorem leading_lt_256 (c : Char) : leading c.toNat < 256 := by
  have bounded := toNat_lt c
  simp only [leading, following]
  split_ifs <;> simp only [lengthMark] <;> omega

/-- A smaller character has smaller bytes, whatever follows. -/
theorem utf8EncodeChar_lt {c d : Char} (less : c < d) (rest more : List UInt8) :
    String.utf8EncodeChar c ++ rest < String.utf8EncodeChar d ++ more := by
  have small := leading_lt_256 c
  have also := leading_lt_256 d
  rw [utf8EncodeChar_eq, utf8EncodeChar_eq, List.cons_append, List.cons_append,
    List.cons_lt_cons_iff, UInt8.lt_iff_toNat_lt, UInt8.toNat_ofNat', UInt8.toNat_ofNat',
    Nat.mod_eq_of_lt small, Nat.mod_eq_of_lt also]
  rcases leading_lt (show c.toNat < d.toNat from less) with first | ⟨first, count, later⟩
  · exact .inl first
  · rw [first, count]
    rw [count] at later
    exact .inr ⟨rfl, trailing_lt later rest more⟩

private theorem flatMap_utf8EncodeChar_lt {cs ds : List Char} (less : List.Lex (· < ·) cs ds) :
    cs.flatMap String.utf8EncodeChar < ds.flatMap String.utf8EncodeChar := by
  induction less with
  | nil =>
    rw [List.flatMap_nil, List.flatMap_cons, utf8EncodeChar_eq]
    exact List.Lex.nil
  | rel first => exact utf8EncodeChar_lt first _ _
  | cons later ih => exact List.Lex.append_left _ ih _

/-- Texts are in the order of their bytes. -/
theorem bytes_lt_iff {text other : String} : bytes text < bytes other ↔ text < other := by
  have forward {first second : String} (less : first < second) : bytes first < bytes second := by
    rw [bytes_eq_flatMap, bytes_eq_flatMap]
    exact flatMap_utf8EncodeChar_lt (String.lt_iff_toList_lt.mp less)
  refine ⟨fun less => ?_, forward⟩
  rcases lt_trichotomy text other with before | same | after
  · exact before
  · exact absurd (same ▸ less) (List.lt_irrefl _)
  · exact absurd (forward after) (List.lt_asymm less)

end Reshape.Text
