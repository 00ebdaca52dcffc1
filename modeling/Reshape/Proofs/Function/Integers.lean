import Mathlib.Data.List.TakeWhile
import Reshape.Function.Registry
import Reshape.Proofs.Decimal.Truncation
import Reshape.Proofs.Numerals

namespace Reshape.Decimal

def Fits (n : Int) : Prop := minInteger ≤ n ∧ n ≤ maxInteger

instance : DecidablePred Fits := fun n =>
  inferInstanceAs (Decidable (minInteger ≤ n ∧ n ≤ maxInteger))

def saturate (n : Int) : Int := max minInteger (min n maxInteger)

variable {n : Int} {cs : List Char}

theorem saturate_of_fits (fits : Fits n) : saturate n = n := by
  unfold Fits at fits
  unfold saturate
  omega

theorem saturate_fits (n : Int) : Fits (saturate n) := by
  simp only [Fits, saturate, minInteger, maxInteger]
  omega

theorem keepInteger_eq (n : Int) : keepInteger n = if Fits n then some n else none := rfl

/-- One or more digits and nothing else. -/
def IsNumeral (digits : List Char) : Prop :=
  digits ≠ [] ∧ ∀ c ∈ digits, isDigit c = true

instance : DecidablePred IsNumeral := fun digits =>
  decidable_of_iff (digits ≠ [] ∧ digits.all isDigit = true) (by rw [List.all_eq_true]; rfl)

/-- A text that spells an integer: its digits, after a sign if there is one. -/
inductive Spells : List Char → Int → Prop where
  | unsigned {digits : List Char} (numeral : IsNumeral digits) :
    Spells digits (Nat.ofDigitChars 10 digits 0)
  | plus {digits : List Char} (numeral : IsNumeral digits) :
    Spells ('+' :: digits) (Nat.ofDigitChars 10 digits 0)
  | minus {digits : List Char} (numeral : IsNumeral digits) :
    Spells ('-' :: digits) (-Nat.ofDigitChars 10 digits 0)

variable {digits : List Char}

theorem lowerLetter_of_isDigit {c : Char} (digit : isDigit c = true) : lowerLetter c = c := by
  have range : 48 ≤ c.toNat ∧ c.toNat ≤ 57 := by
    simpa [isDigit, Char.le_def, UInt32.le_iff_toNat_le] using digit
  have small : ¬ ('A' ≤ c && c ≤ 'Z') = true := by
    simp only [Bool.and_eq_true, decide_eq_true_eq, Char.le_def, UInt32.le_iff_toNat_le]
    intro letter
    have low : 65 ≤ c.toNat := letter.1
    omega
  rw [lowerLetter, if_neg small]

namespace IsNumeral

theorem readNat (numeral : IsNumeral digits) :
    readNat digits = some (Nat.ofDigitChars 10 digits 0) := by
  obtain ⟨present, each⟩ := numeral
  cases digits with
  | nil => exact absurd rfl present
  | cons c rest => exact readFrom_of_digits each

theorem head_ne (numeral : IsNumeral digits) {c : Char} (other : isDigit c = false)
    (rest : List Char) : digits ≠ c :: rest := by
  rintro rfl
  simp [numeral.2 c (by simp)] at other

/-- Digits are no word of letters, so they are read as a whole number of any size. -/
theorem readMagnitude (numeral : IsNumeral digits) (negative : Bool) :
    readMagnitude negative digits =
      some (toFloat negative (Nat.ofDigitChars 10 digits 0) 0) := by
  have all : digits.takeWhile isDigit = digits := List.takeWhile_eq_self_iff.mpr numeral.2
  have none : digits.dropWhile isDigit = [] := List.dropWhile_eq_nil_iff.mpr numeral.2
  have letters : digits.map lowerLetter = digits :=
    (List.map_congr_left fun c member => lowerLetter_of_isDigit (numeral.2 c member)).trans
      (List.map_id digits)
  have word {c : Char} (other : isDigit c = false) (rest : List Char) :
      String.ofList digits ≠ String.ofList (c :: rest) :=
    fun same => numeral.head_ne other rest (String.ofList_injective same)
  have infinite : ¬ (String.ofList digits = "inf" ∨ String.ofList digits = "infinity") :=
    not_or.mpr ⟨word (c := 'i') rfl ['n', 'f'],
      word (c := 'i') rfl ['n', 'f', 'i', 'n', 'i', 't', 'y']⟩
  rw [Decimal.readMagnitude, letters, if_neg infinite,
    if_neg (word (c := 'n') rfl ['a', 'n']), readDecimal]
  simp only [takeDigits, all, none, List.isEmpty_nil, List.append_nil, readTenPower,
    numeral.readNat]
  simp [numeral.1]

end IsNumeral

private theorem readInteger_of_spells (spelled : Spells cs n) : readInteger cs = keepInteger n := by
  cases spelled with
  | unsigned numeral =>
    unfold readInteger
    split
    · exact absurd rfl (numeral.head_ne rfl _)
    · exact absurd rfl (numeral.head_ne rfl _)
    · rw [numeral.readNat, Option.bind_some]
  | plus numeral => rw [readInteger, numeral.readNat, Option.bind_some]
  | minus numeral => rw [readInteger, numeral.readNat, Option.bind_some]

/-- The integer that a text is, if it spells one: the nearest one of 64 bits. -/
theorem integerOfText_of_spells (spelled : Spells cs n) :
    Function.integerOfText? cs = some (saturate n) := by
  rw [Function.integerOfText?, readInteger_of_spells spelled, keepInteger_eq]
  split
  · rw [Option.some_or, saturate_of_fits ‹_›]
  · rename_i beyond
    rw [Option.none_or]
    simp only [Fits, saturate, minInteger, maxInteger] at beyond ⊢
    cases spelled with
    | unsigned numeral =>
      unfold readFloat
      split
      · exact absurd rfl (numeral.head_ne rfl _)
      · exact absurd rfl (numeral.head_ne rfl _)
      · rw [numeral.readMagnitude, Option.map_some, truncate_toFloat false (by omega)]
        simp only [maxInteger, Bool.false_eq_true, if_false, Option.some.injEq]
        omega
    | plus numeral =>
      rw [readFloat, numeral.readMagnitude, Option.map_some, truncate_toFloat false (by omega)]
      simp only [maxInteger, Bool.false_eq_true, if_false, Option.some.injEq]
      omega
    | minus numeral =>
      rw [readFloat, numeral.readMagnitude, Option.map_some, truncate_toFloat true (by omega)]
      simp only [minInteger, if_true, Option.some.injEq]
      omega

end Reshape.Decimal

namespace Reshape.Function

open Decimal

variable {value : Json} {n : Int}

/-- The integers that values stand for: an integer for itself, and a text for the one
that it spells between blanks. -/
inductive Denotes : Json → Int → Prop where
  | integer (n : Int) : Denotes (.ofInt n) n
  | text {s : String} {n : Int} (spelled : Spells (Text.trimChars s.toList) n) :
    Denotes (.str s) n

private theorem toInteger_int (n : Int) : Number.toInteger (.int n) = saturate n := by
  rw [Number.toInteger, keepInteger_eq]
  split
  · rw [Option.getD_some, saturate_of_fits ‹_›]
  · rename_i beyond
    rw [Option.getD_none, Number.toFloat, floatOfInt]
    unfold Fits minInteger maxInteger at beyond
    rw [truncate_toFloat _ (by omega)]
    simp only [saturate, minInteger, maxInteger, decide_eq_true_eq]
    split <;> omega

/-- The integer view of a value is the integer of 64 bits nearest to what it stands for. -/
theorem integer?_of_denotes (denotes : Denotes value n) : integer? value = some (saturate n) := by
  cases denotes with
  | integer => rw [← toInteger_int]; rfl
  | text spelled => exact integerOfText_of_spells spelled

end Reshape.Function
