/-! Sets and maps of code points, given as ranges. A table is written as words of
hexadecimal numbers: `41-5a` is a range, `b5` a single code point and `100-12e/2` every
second one of a range. Sets are joined, cut and complemented by their ranges. -/

namespace Reshape.Text

/-- The value of a hexadecimal digit; other characters count as zero. -/
def hexDigitValue (c : Char) : Nat :=
  if '0' ≤ c ∧ c ≤ '9' then c.toNat - 48
  else if 'a' ≤ c ∧ c ≤ 'f' then c.toNat - 87
  else if 'A' ≤ c ∧ c ≤ 'F' then c.toNat - 55
  else 0

/-- The number that hexadecimal digits stand for. -/
def hexValue (digits : String) : Nat :=
  digits.toList.foldl (fun value c => 16 * value + hexDigitValue c) 0

def lastCode : Nat := 0x10ffff

/-- Ranges of code points, both ends included. -/
structure CodeRanges where
  ranges : List (Nat × Nat)

/-- Joins ranges that overlap or touch, where the ranges start in ascending order. -/
def joinRanges : List (Nat × Nat) → List (Nat × Nat)
  | (low, high) :: (next, last) :: rest =>
    if next ≤ high + 1 then joinRanges ((low, max high last) :: rest)
    else (low, high) :: joinRanges ((next, last) :: rest)
  | ranges => ranges
termination_by ranges => ranges.length

/-- The ranges between some ranges that start in ascending order, from `start` on. -/
def rangesBetween (start : Nat) : List (Nat × Nat) → List (Nat × Nat)
  | [] => if start ≤ lastCode then [(start, lastCode)] else []
  | (low, high) :: rest =>
    if start < low then (start, low - 1) :: rangesBetween (max low (high + 1)) rest
    else rangesBetween (max start (high + 1)) rest

/-- Whether a code point lies in one of some ranges. -/
def covers (ranges : List (Nat × Nat)) (code : Nat) : Bool :=
  ranges.any fun (low, high) => low ≤ code && code ≤ high

def Ascending (ranges : List (Nat × Nat)) : Prop :=
  ranges.Pairwise fun r s => r.1 ≤ s.1

def ascending (ranges : List (Nat × Nat)) : List (Nat × Nat) :=
  ranges.mergeSort fun r s => r.1 ≤ s.1

theorem ascending_sorted (ranges : List (Nat × Nat)) : Ascending (ascending ranges) := by
  have := @List.pairwise_mergeSort (Nat × Nat) (fun r s => decide (r.1 ≤ s.1))
    (by simp only [decide_eq_true_eq]; omega)
    (by simp only [Bool.or_eq_true, decide_eq_true_eq]; omega) ranges
  simpa [Ascending, ascending] using this

theorem covers_ascending (ranges : List (Nat × Nat)) (code : Nat) :
    covers (ascending ranges) code = covers ranges code := by
  rw [Bool.eq_iff_iff]
  simp [covers, ascending]

private theorem covers_cons (low high code : Nat) (rest : List (Nat × Nat)) :
    covers ((low, high) :: rest) code = ((low ≤ code && code ≤ high) || covers rest code) :=
  rfl

private theorem covers_eq_false_of_lt {rest : List (Nat × Nat)} {code : Nat}
    (h : ∀ r ∈ rest, code < r.1) : covers rest code = false := by
  simp only [covers, List.any_eq_false, Bool.and_eq_true, decide_eq_true_eq]
  intro r hr hle
  have := h r hr
  omega

/-- The ranges between others cover what these leave out. -/
theorem covers_rangesBetween {ranges : List (Nat × Nat)} {code : Nat} (start : Nat)
    (h : Ascending ranges) (hcode : code ≤ lastCode) :
    covers (rangesBetween start ranges) code = (start ≤ code && !covers ranges code) := by
  induction ranges generalizing start with
  | nil =>
    rw [rangesBetween]
    split <;> simp [covers] <;> omega
  | cons r rest ih =>
    obtain ⟨low, high⟩ := r
    have hfirst := (List.pairwise_cons.1 h).1
    have hrest := (List.pairwise_cons.1 h).2
    have hout : code < low → covers rest code = false := fun hlt =>
      covers_eq_false_of_lt fun r hr => Nat.lt_of_lt_of_le hlt (hfirst r hr)
    rw [rangesBetween]
    split
    · rw [covers_cons, covers_cons, ih _ hrest, Bool.eq_iff_iff]
      rcases hc : covers rest code with _ | _
      · simp only [Bool.and_eq_true, Bool.or_eq_true, Bool.not_eq_true', decide_eq_true_eq,
          Bool.or_false, Bool.and_eq_false_iff, decide_eq_false_iff_not, Bool.not_false, and_true]
        omega
      · have : low ≤ code := Nat.le_of_not_lt fun hlt => by simp [hout hlt] at hc
        simp only [Bool.and_eq_true, Bool.or_eq_true, decide_eq_true_eq, Bool.or_true,
          Bool.not_true, Bool.false_eq_true, and_false, or_false, iff_false]
        omega
    · rw [covers_cons, ih _ hrest, Bool.eq_iff_iff]
      simp only [Bool.and_eq_true, Bool.not_eq_true', decide_eq_true_eq, Bool.or_eq_false_iff,
        Bool.and_eq_false_iff, decide_eq_false_iff_not]
      constructor
      · rintro ⟨hstart, hrest⟩
        exact ⟨by omega, .inr (by omega), hrest⟩
      · rintro ⟨hstart, hout, hrest⟩
        exact ⟨by omega, hrest⟩

namespace CodeRanges

/-- The range that a word of a table stands for. -/
def rangeOf (word : String) : Nat × Nat :=
  match word.splitOn "-" with
  | [low, high] => (hexValue low, hexValue high)
  | _ => (hexValue word, hexValue word)

/-- The ranges that a word of a table stands for, which may have a stride. -/
def rangesOf (word : String) : List (Nat × Nat) :=
  match word.splitOn "/" with
  | [range, stride] =>
    let (low, high) := rangeOf range
    let stride := hexValue stride
    (List.range ((high - low) / stride + 1)).map fun i => (low + i * stride, low + i * stride)
  | _ => [rangeOf word]

def ofLines (lines : List String) : CodeRanges :=
  ⟨lines.flatMap fun line => (line.splitOn " ").flatMap rangesOf⟩

def containsCode (table : CodeRanges) (code : Nat) : Bool :=
  covers table.ranges code

def contains (table : CodeRanges) (c : Char) : Bool :=
  table.containsCode c.toNat

/-- The set of some ranges, in ascending order and apart from each other. -/
def ofRanges (ranges : List (Nat × Nat)) : CodeRanges :=
  ⟨joinRanges (ascending ranges)⟩

def ofCodes (codes : List Nat) : CodeRanges :=
  ofRanges (codes.map fun code => (code, code))

def unions (sets : List CodeRanges) : CodeRanges :=
  ofRanges (sets.flatMap ranges)

def union (s t : CodeRanges) : CodeRanges :=
  ofRanges (s.ranges ++ t.ranges)

/-- The code points that are not in a set. -/
def complement (s : CodeRanges) : CodeRanges :=
  ⟨rangesBetween 0 (ascending s.ranges)⟩

/-- The code points that two sets share. -/
def intersection (s t : CodeRanges) : CodeRanges :=
  (s.complement.union t.complement).complement

/-- The code points of one set that are not in another. -/
def difference (s t : CodeRanges) : CodeRanges :=
  s.intersection t.complement

/-- The code points of one of two sets that are not in the other. -/
def symmetricDifference (s t : CodeRanges) : CodeRanges :=
  (s.difference t).union (t.difference s)

theorem containsCode_complement (s : CodeRanges) {code : Nat} (h : code ≤ lastCode) :
    s.complement.containsCode code = !s.containsCode code := by
  rw [containsCode, complement, covers_rangesBetween 0 (ascending_sorted s.ranges) h,
    covers_ascending]
  simp [containsCode]

end CodeRanges

/-- A map of code points: each `stride`-th one from `low` to `high` goes to the one
as far above `target` as it is above `low`. -/
structure CodeRun where
  low : Nat
  high : Nat
  stride : Nat
  target : Nat

/-- The code points that a run maps, each with its image. -/
def CodeRun.pairs (run : CodeRun) : List (Nat × Nat) :=
  (List.range ((run.high - run.low) / run.stride + 1)).map fun i =>
    (run.low + i * run.stride, run.target + i * run.stride)

/-- Runs that map code points to code points. -/
structure CodeMap where
  runs : Array CodeRun

namespace CodeMap

/-- The run that a word of a table stands for: `41-5a:1:61` with a range, a stride and
a target, or `b5:39c` for a single code point. -/
def runOf (word : String) : CodeRun :=
  match word.splitOn ":" with
  | [range, stride, target] =>
    let (low, high) := CodeRanges.rangeOf range
    ⟨low, high, hexValue stride, hexValue target⟩
  | [code, target] => ⟨hexValue code, hexValue code, 1, hexValue target⟩
  | _ => ⟨1, 0, 1, 0⟩

def ofLines (lines : List String) : CodeMap :=
  ⟨(lines.flatMap fun line => (line.splitOn " ").map runOf).toArray⟩

/-- The code point that another goes to; itself if no run holds it. -/
def applyCode (map : CodeMap) (code : Nat) : Nat :=
  match map.runs.find? fun run =>
      run.low ≤ code && code ≤ run.high && (code - run.low) % run.stride == 0 with
  | some run => run.target + (code - run.low)
  | none => code

/-- The character that another goes to. -/
def apply (map : CodeMap) (c : Char) : Char :=
  Char.ofNat (map.applyCode c.toNat)

/-- The code points that a map changes, each with its image. -/
def pairs (map : CodeMap) : List (Nat × Nat) :=
  map.runs.toList.flatMap CodeRun.pairs

end CodeMap

end Reshape.Text
