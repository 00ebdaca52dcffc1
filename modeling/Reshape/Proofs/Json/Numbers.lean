import Reshape.Json.Reader
import Reshape.Proofs.Numerals

namespace Reshape.Json

open Decimal

def isNumeric (c : Char) : Bool :=
  isDigit c || c = '.' || isExponentMark c

/-- A text that does not go on with a number in front of it. -/
def Stops (rest : List Char) : Prop :=
  ∀ c ∈ rest.head?, isNumeric c = false

variable {cs rest left digits : List Char}

theorem Stops.cons {c : Char} (other : isNumeric c = false) : Stops (c :: rest) := by
  rintro d ⟨⟩
  exact other

namespace Stops

variable (stops : Stops rest)
include stops

private theorem spanDigits_append (cs : List Char) :
    spanDigits (cs ++ rest) = ((spanDigits cs).1, (spanDigits cs).2 ++ rest) := by
  induction cs with
  | nil =>
    cases rest with
    | nil => rfl
    | cons c rest =>
      have other := stops c rfl
      simp only [isNumeric, Bool.or_eq_false_iff] at other
      simp [spanDigits, other.1.1]
  | cons c cs ih =>
    by_cases digit : isDigit c = true
    · simp only [spanDigits, Prod.mk.injEq] at ih
      simp [spanDigits, digit, ih]
    · simp [spanDigits, digit]

private theorem readWhole_append (read : readWhole cs = some (digits, left)) :
    readWhole (cs ++ rest) = some (digits, left ++ rest) := by
  cases cs with
  | nil => cases read
  | cons c cs =>
    rw [readWhole] at read
    rw [List.cons_append, readWhole, ← List.cons_append, stops.spanDigits_append]
    split at read
    · cases read
      simp [*]
    · obtain ⟨present, same⟩ := Option.ite_none_left_eq_some.mp read
      rw [Option.some.inj same] at present ⊢
      simp [*]

private theorem readFraction_append (read : readFraction cs = some (digits, left)) :
    readFraction (cs ++ rest) = some (digits, left ++ rest) := by
  cases cs with
  | nil =>
    cases read
    cases rest with
    | nil => rfl
    | cons c rest =>
      have other := stops c rfl
      simp only [isNumeric, Bool.or_eq_false_iff, decide_eq_false_iff_not] at other
      simp [readFraction, other.1.2]
  | cons c cs =>
    rw [readFraction] at read
    rw [List.cons_append, readFraction, stops.spanDigits_append]
    split at read
    · obtain ⟨present, same⟩ := Option.ite_none_left_eq_some.mp read
      rw [Option.some.inj same] at present ⊢
      simp [*]
    · cases read
      simp [*]

private theorem readExponent_append {exponent : Option Int}
    (read : readExponent cs = some (exponent, left)) :
    readExponent (cs ++ rest) = some (exponent, left ++ rest) := by
  cases cs with
  | nil =>
    cases read
    cases rest with
    | nil => rfl
    | cons c rest =>
      have other := stops c rfl
      simp only [isNumeric, Bool.or_eq_false_iff] at other
      simp [readExponent, other.2]
  | cons c cs =>
    rw [readExponent] at read
    rw [List.cons_append, readExponent]
    split at read
    · rename_i marked
      rw [if_pos marked]
      cases cs with
      | nil => cases read
      | cons d cs =>
        -- there is a digit after the sign, so it is still the sign with more behind it
        have signed : readSign (d :: cs ++ rest) =
            ((readSign (d :: cs)).1, (readSign (d :: cs)).2 ++ rest) := by
          rw [List.cons_append, readSign, readSign]
          split
          · rfl
          · split <;> rfl
        rw [signed]
        dsimp only at read ⊢
        rw [stops.spanDigits_append]
        obtain ⟨n, found, same⟩ := Option.map_eq_some_iff.mp read
        rw [found]
        simp_all
    · rename_i unmarked
      cases read
      simp [unmarked]

/-- What is read as a number is read so with anything behind it that does not go on with it. -/
theorem readNumber_append {n : Number} (read : readNumber cs = some (n, left)) :
    readNumber (cs ++ rest) = some (n, left ++ rest) := by
  cases cs with
  | nil => cases read
  | cons c cs =>
    have minus : readMinus (c :: cs ++ rest) =
        ((readMinus (c :: cs)).1, (readMinus (c :: cs)).2 ++ rest) := by
      rw [List.cons_append, readMinus, readMinus]
      split <;> rfl
    rw [readNumber, minus]
    rw [readNumber] at read
    dsimp only at read ⊢
    generalize readMinus (c :: cs) = signed at read ⊢
    simp only [Option.bind_eq_bind, Option.bind_eq_some_iff, Prod.exists] at read
    obtain ⟨whole, after, wholes, fraction, later, fractions, exponent, last, exponents, number,
      made, same⟩ := read
    cases same
    simp [stops.readWhole_append wholes, stops.readFraction_append fractions,
      stops.readExponent_append exponents, made]

end Stops

private theorem le_ofDigitChars (cs : List Char) (value : Nat) :
    value ≤ Nat.ofDigitChars 10 cs value := by
  induction cs generalizing value with
  | nil => exact Nat.le_refl value
  | cons c rest ih =>
    rw [Nat.ofDigitChars_cons]
    exact Nat.le_trans (by omega) (ih _)

/-- All digits are taken into a significand that is a word in the end. -/
private theorem takeWord_of_lt {value : Nat} (fits : Nat.ofDigitChars 10 cs value < wordBound) :
    takeWord value cs = (Nat.ofDigitChars 10 cs value, []) := by
  induction cs generalizing value with
  | nil => rfl
  | cons c rest ih =>
    rw [Nat.ofDigitChars_cons] at fits ⊢
    have within : 10 * value + digitValue c < wordBound :=
      Nat.lt_of_le_of_lt (le_ofDigitChars rest _) fits
    rw [takeWord]
    exact (if_pos within).trans (ih fits)

/-- Only the text of zero starts with a zero. -/
private theorem natChars_of_zero {n : Nat} (written : natChars n = '0' :: rest) : rest = [] := by
  induction n using Nat.strongRecOn generalizing rest with
  | _ n ih =>
    by_cases small : n < 10
    · rw [natChars, Nat.toDigits_of_lt_base small] at written
      exact (List.cons.inj written).2.symm
    · rw [natChars, Nat.toDigits_of_base_le (by omega) (by omega)] at written
      cases front : natChars (n / 10) with
      | nil => exact absurd front (natChars_ne_nil _)
      | cons c cs =>
        rw [natChars] at front
        rw [front] at written
        obtain ⟨rfl, -⟩ := List.cons.inj written
        obtain rfl := ih (n / 10) (by omega) front
        have zero : readNat (natChars (n / 10)) = readNat ['0'] := congrArg readNat front
        rw [readNat_natChars] at zero
        have none : n / 10 = 0 := Option.some.inj zero
        omega

private theorem spanDigits_natChars (n : Nat) : spanDigits (natChars n) = (natChars n, []) := by
  have spanned (cs : List Char) (digits : ∀ c ∈ cs, isDigit c = true) :
      spanDigits cs = (cs, []) := by
    induction cs with
    | nil => rfl
    | cons c rest ih =>
      obtain ⟨first, later⟩ := List.forall_mem_cons.mp digits
      have spanned := ih later
      simp only [spanDigits, Prod.mk.injEq] at spanned ⊢
      simp [first, spanned]
  exact spanned _ fun _ => isDigit_of_mem_natChars

private theorem readWhole_natChars (n : Nat) : readWhole (natChars n) = some (natChars n, []) := by
  cases written : natChars n with
  | nil => exact absurd written (natChars_ne_nil n)
  | cons c rest =>
    rw [readWhole]
    split
    · rename_i zero
      subst zero
      rw [natChars_of_zero written]
    · rw [← written, spanDigits_natChars]
      simp [natChars_ne_nil]

private theorem readNumber_natural {n : Nat} (fits : n < wordBound) :
    readNumber (Number.int n).text.toList = some (.int n, []) := by
  have text : (Number.int n).text.toList = natChars n := by
    have natural : ¬(n : Int) < 0 := by omega
    simp only [Number.text, intText, natText, if_neg natural, Int.natAbs_natCast,
      String.toList_ofList]
  have unsigned : readMinus (natChars n) = (false, natChars n) := by
    cases written : natChars n with
    | nil => rfl
    | cons c rest =>
      have digit : isDigit c = true := isDigit_of_mem_natChars (n := n) (by simp [written])
      have plain : c ≠ '-' := by rintro rfl; exact absurd digit (by decide)
      simp [readMinus, plain]
  have value : Nat.ofDigitChars 10 (natChars n) 0 = n := Nat.ofDigitChars_ten_toDigits
  have taken : takeWord 0 (natChars n) = (n, []) := by
    rw [takeWord_of_lt (by rwa [value]), value]
  rw [text, readNumber, unsigned]
  simp [readWhole_natChars, readFraction, readExponent, literal, taken]

private theorem readNumber_negative {n : Nat} (negative : n ≠ 0) (fits : minInteger ≤ -(n : Int)) :
    readNumber (Number.int (-n)).text.toList = some (.int (-n), []) := by
  have text : (Number.int (-n)).text.toList = '-' :: natChars n := by
    have below : -(n : Int) < 0 := by omega
    simp only [Number.text, intText, natText, if_pos below, Int.natAbs_neg, Int.natAbs_natCast,
      String.toList_append, String.toList_ofList]
    rfl
  have value : Nat.ofDigitChars 10 (natChars n) 0 = n := Nat.ofDigitChars_ten_toDigits
  have taken : takeWord 0 (natChars n) = (n, []) := by
    rw [minInteger] at fits
    rw [takeWord_of_lt (by rw [value, wordBound]; omega), value]
  rw [text, readNumber, readMinus]
  simp [readWhole_natChars, readFraction, readExponent, literal, taken, negative, fits]

/-- Integers that fit in 64 bits, with or without a sign, read back. -/
theorem readNumber_integer {n : Int} (low : minInteger ≤ n) (high : n < wordBound) :
    readNumber (Number.int n).text.toList = some (.int n, []) := by
  by_cases negative : n < 0
  · obtain ⟨m, rfl⟩ : ∃ m : Nat, n = -m := ⟨n.natAbs, by omega⟩
    exact readNumber_negative (by omega) low
  · obtain ⟨m, rfl⟩ : ∃ m : Nat, n = m := ⟨n.natAbs, by omega⟩
    exact readNumber_natural (by omega)

end Reshape.Json
