import Reshape.Decimal.Integer
import Reshape.Text.Blank

namespace Reshape.Decimal

theorem isDigit_of_mem_natChars {n : Nat} {c : Char} (member : c ∈ natChars n) :
    isDigit c = true := by
  have digit := Nat.isDigit_of_mem_toDigits (by decide) (by decide) member
  simpa [isDigit, Char.isDigit, Char.le_def] using digit

theorem natChars_ne_nil (n : Nat) : natChars n ≠ [] :=
  Nat.toDigits_ne_nil

theorem not_mem_natChars {c : Char} (other : isDigit c = false) (n : Nat) :
    c ∉ natChars n := by
  intro member
  simp [isDigit_of_mem_natChars member] at other

theorem readFrom_of_digits {value : Nat} {cs : List Char}
    (digits : ∀ c ∈ cs, isDigit c = true) :
    readFrom value cs = some (Nat.ofDigitChars 10 cs value) := by
  induction cs generalizing value with
  | nil => simp [readFrom]
  | cons c rest ih =>
    have first : isDigit c = true := digits c (by simp)
    simp only [readFrom, first, if_true, Nat.ofDigitChars_cons]
    exact ih fun d member => digits d (by simp [member])

theorem readNat_natChars (n : Nat) : readNat (natChars n) = some n := by
  cases written : natChars n with
  | nil => exact absurd written (natChars_ne_nil n)
  | cons c rest =>
    rw [readNat, ← written, readFrom_of_digits fun _ => isDigit_of_mem_natChars]
    exact congrArg some Nat.ofDigitChars_ten_toDigits

theorem readWord_natChars {n : Nat} (bounded : n < wordBound) :
    readWord (natChars n) = some n := by
  simp [readWord, readNat_natChars, Option.filter, bounded]

/-- The text of a number is read as an index if the number fits in 64 bits. -/
theorem readIndexChars_natChars_eq (n : Nat) :
    readIndexChars (natChars n) = (some n).filter (· < wordBound) := by
  have read : readWord (natChars n) = (some n).filter (· < wordBound) := by
    rw [readWord, readNat_natChars]
  cases written : natChars n with
  | nil => exact absurd written (natChars_ne_nil n)
  | cons c rest =>
    have digit : isDigit c = true := isDigit_of_mem_natChars (n := n) (by simp [written])
    have unsigned : c ≠ '+' := by rintro rfl; exact absurd digit (by decide)
    rw [written] at read
    rw [readIndexChars, read]
    simpa using unsigned

theorem readIndexChars_natChars {n : Nat} (bounded : n < wordBound) :
    readIndexChars (natChars n) = some n := by
  simp [readIndexChars_natChars_eq, Option.filter, bounded]

theorem natText_injective {m n : Nat} (same : natText m = natText n) : m = n := by
  have chars : natChars m = natChars n := String.ofList_injective same
  have read := readNat_natChars m
  rw [chars, readNat_natChars] at read
  exact (Option.some.inj read).symm

theorem readWord_bounded {cs : List Char} {n : Nat} (read : readWord cs = some n) :
    n < wordBound := by
  simpa using (Option.filter_eq_some_iff.mp read).2

theorem readIndexChars_bounded {cs : List Char} {n : Nat} (read : readIndexChars cs = some n) :
    n < wordBound := by
  unfold readIndexChars at read
  split at read <;> exact readWord_bounded read

/-- No digit is blank, so trimming leaves a numeral alone. -/
theorem isBlank_of_isDigit {c : Char} (digit : isDigit c = true) : Text.isBlank c = false := by
  have range : 48 ≤ c.toNat ∧ c.toNat ≤ 57 := by
    simpa [isDigit, Char.le_def, UInt32.le_iff_toNat_le] using digit
  simp only [Text.isBlank, Bool.or_eq_false_iff, Bool.and_eq_false_iff, decide_eq_false_iff_not,
    beq_eq_false_iff_ne]
  omega

/-- The digits of an integer, after a minus sign if it is negative. -/
theorem toList_intText (n : Int) :
    (intText n).toList = if n < 0 then '-' :: natChars n.natAbs else natChars n.natAbs := by
  rw [intText, natText]
  split
  · have minus : "-".toList = ['-'] := rfl
    rw [String.toList_append, minus, String.toList_ofList, List.singleton_append]
  · exact String.toList_ofList

theorem toList_intText_ne_nil (n : Int) : (intText n).toList ≠ [] := by
  rw [toList_intText]
  split
  · exact List.cons_ne_nil _ _
  · exact natChars_ne_nil _

theorem readInteger_intText {n : Int} (fits : minInteger ≤ n ∧ n ≤ maxInteger) :
    readInteger (intText n).toList = some n := by
  have kept : keepInteger n = some n := if_pos fits
  rw [toList_intText]
  split
  · rename_i negative
    have same : -(n.natAbs : Int) = n := by omega
    rw [readInteger, readNat_natChars, Option.bind_some, same, kept]
  · rename_i natural
    have same : (n.natAbs : Int) = n := Int.natAbs_of_nonneg (Int.not_lt.mp natural)
    have read := readNat_natChars n.natAbs
    cases written : natChars n.natAbs with
    | nil => exact absurd written (natChars_ne_nil _)
    | cons c rest =>
      have digit : isDigit c = true := isDigit_of_mem_natChars (n := n.natAbs) (by simp [written])
      rw [written] at read
      unfold readInteger
      split
      · cases ‹_ :: _ = _›
        exact absurd digit (by decide)
      · cases ‹_ :: _ = _›
        exact absurd digit (by decide)
      · rw [read, Option.bind_some, same, kept]

/-- An integer is written with digits and a minus sign. -/
theorem mem_intText {n : Int} {c : Char} (member : c ∈ (intText n).toList) :
    c = '-' ∨ isDigit c = true := by
  rw [toList_intText] at member
  split at member
  · rcases List.mem_cons.mp member with minus | digit
    · exact .inl minus
    · exact .inr (isDigit_of_mem_natChars digit)
  · exact .inr (isDigit_of_mem_natChars member)

end Reshape.Decimal

namespace Reshape.Text

/-- A text that is not blank at its ends stays as it is. -/
theorem trimChars_of_ends {cs : List Char} (first : ∀ c ∈ cs.head?, isBlank c = false)
    (last : ∀ c ∈ cs.getLast?, isBlank c = false) : trimChars cs = cs := by
  have kept (ds : List Char) (solid : ∀ d ∈ ds.head?, isBlank d = false) :
      ds.dropWhile isBlank = ds := by
    cases ds with
    | nil => rfl
    | cons d rest => simp [List.dropWhile, solid d rfl]
  rw [trimChars, kept cs first, kept cs.reverse (by rwa [List.head?_reverse]), List.reverse_reverse]

theorem trimChars_of_not_blank {cs : List Char} (solid : ∀ c ∈ cs, isBlank c = false) :
    trimChars cs = cs :=
  trimChars_of_ends (fun c member => solid c (List.mem_of_mem_head? member))
    fun c member => solid c (List.mem_of_mem_getLast? member)

end Reshape.Text
