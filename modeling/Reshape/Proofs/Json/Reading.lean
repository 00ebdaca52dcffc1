import Reshape.Proofs.Extension
import Reshape.Proofs.Json.Layouts
import Reshape.Proofs.Json.Numbers

/-! Documents read back as they are written, in any layout: no key may stand twice in an object,
the numbers must read back, and no more containers may be nested than the reader takes. -/

namespace Reshape.Json

variable {cs rest : List Char}

private theorem hexValue?_hexDigit {n : Nat} (digit : n < 16) :
    hexValue? (hexDigit n) = some n := by
  revert n
  decide

private theorem readUnit_hexDigits {n : Nat} (control : n < 32) (rest : List Char) :
    readUnit ('0' :: '0' :: hexDigit (n / 16) :: hexDigit (n % 16) :: rest) = some (n, rest) := by
  have zero : hexValue? '0' = some 0 := rfl
  have high := hexValue?_hexDigit (n := n / 16) (by omega)
  have low := hexValue?_hexDigit (n := n % 16) (by omega)
  have whole : ((0 * 16 + 0) * 16 + n / 16) * 16 + n % 16 = n := by omega
  simp only [readUnit, zero, high, low, Option.bind_eq_bind, Option.bind_some, whole]

/-- The escape of a character reads back as it, in one step. -/
private theorem readText_escapeChar (c : Char) (fuel : Nat) (done rest : List Char) :
    readText (fuel + 1) done ((escapeChar c).toList ++ rest) = readText fuel (c :: done) rest := by
  unfold escapeChar
  split
  · subst c; rfl
  split
  · subst c; rfl
  split
  · subst c; rfl
  split
  · subst c; rfl
  split
  · subst c; rfl
  split
  · subst c; rfl
  split
  · subst c; rfl
  split
  · rename_i control
    have unit : readUnicode ('0' :: '0' :: hexDigit (c.toNat / 16) :: hexDigit (c.toNat % 16) ::
        rest) = some (c, rest) := by
      have plain : c.toNat < 0xD800 := by omega
      simp [readUnicode, readUnit_hexDigits control, plain]
    have spelling : ("\\u00" ++ String.ofList [hexDigit (c.toNat / 16), hexDigit (c.toNat % 16)]).toList
        ++ rest = '\\' :: 'u' :: '0' :: '0' :: hexDigit (c.toNat / 16) :: hexDigit (c.toNat % 16) ::
        rest := by simp
    rw [spelling]
    simp [readText, unit]
  · rename_i quote slash _ _ _ _ _ control
    simp [readText, quote, slash, control]

private theorem readText_quoted {text : List Char} {fuel : Nat} (room : text.length < fuel)
    (done rest : List Char) :
    readText fuel done (text.flatMap (fun c => (escapeChar c).toList) ++ '\x22' :: rest) =
      some (String.ofList (done.reverse ++ text), rest) := by
  induction text generalizing fuel done with
  | nil =>
    obtain ⟨fuel, rfl⟩ := Nat.exists_eq_succ_of_ne_zero (Nat.ne_of_gt room)
    simp [readText]
  | cons c text ih =>
    obtain ⟨fuel, rfl⟩ := Nat.exists_eq_succ_of_ne_zero (Nat.ne_of_gt (Nat.zero_lt_of_lt room))
    rw [List.flatMap_cons, List.append_assoc, readText_escapeChar,
      ih (Nat.lt_of_succ_lt_succ room)]
    simp

private theorem length_le_escaped (text : List Char) :
    text.length ≤ (text.flatMap fun c => (escapeChar c).toList).length := by
  induction text with
  | nil => exact Nat.le_refl _
  | cons c text ih =>
    have present : 0 < (escapeChar c).toList.length := by
      unfold escapeChar
      split_ifs <;> simp
    simp only [List.flatMap_cons, List.length_append, List.length_cons]
    omega

mutual

def nesting : Json → Nat
  | arr items => nestingItems items + 1
  | obj members => nestingMembers members + 1
  | _ => 0

def nestingItems : List Json → Nat
  | [] => 0
  | item :: rest => max (nesting item) (nestingItems rest)

def nestingMembers : Members → Nat
  | [] => 0
  | (_, value) :: rest => max (nesting value) (nestingMembers rest)

end

mutual

/-- A document whose numbers read back, and that has no key twice in an object. -/
def Legible : Json → Prop
  | num n => readNumber n.text.toList = some (n, [])
  | arr items => LegibleItems items
  | obj members => (members.map (·.1)).Nodup ∧ LegibleMembers members
  | _ => True

def LegibleItems : List Json → Prop
  | [] => True
  | item :: rest => Legible item ∧ LegibleItems rest

def LegibleMembers : Members → Prop
  | [] => True
  | (_, value) :: rest => Legible value ∧ LegibleMembers rest

end

/-- An integer of 64 bits, with or without a sign, is legible. -/
theorem legible_integer {n : Int} (low : Decimal.minInteger ≤ n) (high : n < Decimal.wordBound) :
    (num (.int n)).Legible :=
  readNumber_integer low high

private def startsNumber (c : Char) : Bool :=
  c = '-' || Decimal.isDigit c

private theorem startsNumber_of_read {c : Char} {n : Number}
    (read : readNumber (c :: cs) = some (n, rest)) : startsNumber c = true := by
  by_cases minus : c = '-'
  · simp [startsNumber, minus]
  · suffices digit : Decimal.isDigit c = true by simp [startsNumber, digit]
    rw [readNumber, readMinus, if_neg minus] at read
    obtain ⟨⟨whole, after⟩, wholes, -⟩ := Option.bind_eq_some_iff.mp read
    rw [readWhole] at wholes
    split at wholes
    · subst c
      rfl
    · obtain ⟨present, -⟩ := Option.ite_none_left_eq_some.mp wholes
      by_contra other
      simp [spanDigits, other] at present

private theorem ne_of_read {c : Char} {n : Number} (read : readNumber (c :: cs) = some (n, rest))
    {d : Char} (other : startsNumber d = false) : c ≠ d := by
  rintro rfl
  rw [startsNumber_of_read read] at other
  cases other

private theorem skipSpace_cons {c : Char} (visible : isSpace c = false) (cs : List Char) :
    skipSpace (c :: cs) = c :: cs :=
  List.dropWhile_cons_of_neg (by simp [visible])

private theorem skipSpace_blanks {blanks : List Char} (blank : ∀ c ∈ blanks, c = ' ' ∨ c = '\n')
    (cs : List Char) : skipSpace (blanks ++ cs) = skipSpace cs := by
  induction blanks with
  | nil => rfl
  | cons c rest ih =>
    obtain ⟨first, later⟩ := List.forall_mem_cons.mp blank
    have space : isSpace c = true := by rcases first with rfl | rfl <;> rfl
    rw [List.cons_append, skipSpace, List.dropWhile_cons_of_pos space]
    exact ih later

private theorem stops_blanks {blanks : List Char} (blank : ∀ c ∈ blanks, c = ' ' ∨ c = '\n')
    (stops : Stops rest) : Stops (blanks ++ rest) := by
  cases blanks with
  | nil => exact stops
  | cons c cs => exact .cons (by rcases blank c List.mem_cons_self with rfl | rfl <;> rfl)

variable (s : Spacing)

/-- What a document starts with is no blank, and does not close the array around it. -/
private theorem spelled_cons (depth : Nat) {doc : Json} (legible : doc.Legible) :
    ∃ c cs, spelled s depth doc = c :: cs ∧ isSpace c = false ∧ c ≠ ']' := by
  cases doc with
  | null => exact ⟨_, _, rfl, rfl, by decide⟩
  | bool b => cases b <;> exact ⟨_, _, rfl, rfl, by decide⟩
  | str text => exact ⟨_, _, rfl, rfl, by decide⟩
  | num n =>
    rw [Legible] at legible
    cases written : n.text.toList with
    | nil =>
      rw [written] at legible
      cases legible
    | cons c cs =>
      rw [written] at legible
      have apart (d : Char) (other : startsNumber d = false) : c ≠ d := ne_of_read legible other
      refine ⟨c, cs, written, ?_, apart ']' rfl⟩
      simp [isSpace, apart ' ' rfl, apart '\t' rfl, apart '\n' rfl, apart '\x0d' rfl]
  | arr items => cases items <;> exact ⟨_, _, rfl, rfl, by decide⟩
  | obj members => cases members <;> exact ⟨_, _, rfl, rfl, by decide⟩

private theorem skipSpace_spelled (depth : Nat) {doc : Json} (legible : doc.Legible)
    (rest : List Char) : skipSpace (spelled s depth doc ++ rest) = spelled s depth doc ++ rest := by
  obtain ⟨c, cs, written, visible, -⟩ := spelled_cons s depth legible
  rw [written]
  exact skipSpace_cons visible _

private theorem readText_of_length (text : String) {fuel : Nat}
    (enough : (quoted text).length ≤ fuel + 1) (rest : List Char) :
    readText fuel [] (text.toList.flatMap (fun c => (escapeChar c).toList) ++ '\x22' :: rest) =
      some (text, rest) := by
  have short := length_le_escaped text.toList
  rw [quoted, List.length_cons, List.length_append, List.length_singleton] at enough
  rw [readText_quoted (by omega)]
  simp

private theorem quoted_append (text : String) (rest : List Char) :
    quoted text ++ rest =
      '\x22' :: (text.toList.flatMap (fun c => (escapeChar c).toList) ++ '\x22' :: rest) := by
  simp [quoted]

private theorem exists_eq_succ {depth fuel : Nat} {doc : Json} (legible : doc.Legible)
    (enough : 2 * (spelled s depth doc).length ≤ fuel) : ∃ k, fuel = k + 1 := by
  obtain ⟨c, cs, written, -⟩ := spelled_cons s depth legible
  rw [written, List.length_cons] at enough
  exact ⟨fuel - 1, by omega⟩

variable {s} (blank : s.Blank)
include blank

/-- After an item or a member comes a comma or the end of the container. -/
private theorem stops_after (depth : Nat) {c : Char} (ends : isNumeric c = false)
    {more : List Char} (comma : more = [] ∨ more.head? = some ',') (rest : List Char) :
    Stops (more ++ (s.gap depth ++ c :: rest)) := by
  rcases comma with rfl | comma
  · rw [List.nil_append]
    exact stops_blanks (blank.gap depth) (.cons ends)
  · intro d found
    cases more with
    | nil => cases comma
    | cons e more =>
      cases comma
      cases found
      rfl

private theorem skipSpace_gap (depth : Nat) {c : Char} (visible : isSpace c = false)
    (rest : List Char) : skipSpace (s.gap depth ++ c :: rest) = c :: rest := by
  rw [skipSpace_blanks (blank.gap depth), skipSpace_cons visible]

mutual

private theorem readValue_spelled : ∀ (doc : Json) {fuel room depth : Nat} {rest : List Char},
    doc.Legible → doc.nesting ≤ room → 2 * (spelled s depth doc).length ≤ fuel → Stops rest →
      readValue fuel room (spelled s depth doc ++ rest) = some (doc, rest)
  | null, fuel, room, depth, rest, legible, _, enough, _ => by
    obtain ⟨fuel, rfl⟩ := exists_eq_succ s legible enough
    rfl
  | bool true, fuel, room, depth, rest, legible, _, enough, _ => by
    obtain ⟨fuel, rfl⟩ := exists_eq_succ s legible enough
    rfl
  | bool false, fuel, room, depth, rest, legible, _, enough, _ => by
    obtain ⟨fuel, rfl⟩ := exists_eq_succ s legible enough
    rfl
  | num n, fuel, room, depth, rest, legible, _, enough, stops => by
    obtain ⟨fuel, rfl⟩ := exists_eq_succ s legible enough
    obtain ⟨c, cs, written, -⟩ := spelled_cons s depth legible
    rw [Legible] at legible
    rw [written]
    rw [spelled] at written
    rw [written] at legible
    have read := stops.readNumber_append legible
    have apart (d : Char) (other : startsNumber d = false) : c ≠ d := ne_of_read legible other
    rw [List.cons_append] at read ⊢
    simp [readValue, read, apart '\x22' rfl, apart '[' rfl, apart '\x7b' rfl, apart 'n' rfl,
      apart 't' rfl, apart 'f' rfl]
  | str text, fuel, room, depth, rest, legible, _, enough, _ => by
    obtain ⟨fuel, rfl⟩ := exists_eq_succ s legible enough
    rw [spelled] at enough ⊢
    rw [quoted_append, readValue.eq_def]
    dsimp only
    rw [if_pos rfl, readText_of_length text (by omega)]
    rfl
  | arr [], fuel, room, depth, rest, legible, nested, enough, _ => by
    obtain ⟨fuel, rfl⟩ := exists_eq_succ s legible enough
    rw [nesting] at nested
    obtain ⟨room, rfl⟩ := Nat.exists_eq_add_of_le' (Nat.le_of_add_left_le nested)
    rfl
  | arr (item :: items), fuel, room, depth, rest, legible, nested, enough, _ => by
    obtain ⟨fuel, rfl⟩ := exists_eq_succ s legible enough
    rw [nesting] at nested
    obtain ⟨room, rfl⟩ := Nat.exists_eq_add_of_le' (Nat.le_of_add_left_le nested)
    rw [Legible, LegibleItems] at legible
    obtain ⟨c, cs, written, visible, other⟩ := spelled_cons s (depth + 1) legible.1
    -- the first item starts with what closes no array
    have opened : skipSpace (spelledItems s (depth + 1) true (item :: items) ++
        (s.gap depth ++ ']' :: rest)) =
          c :: (cs ++ (spelledItems s (depth + 1) false items ++ (s.gap depth ++ ']' :: rest))) := by
      rw [spelledItems, comma, if_pos rfl, List.nil_append, List.append_assoc, List.append_assoc,
        skipSpace_blanks (blank.gap _), skipSpace_spelled s _ legible.1, written, List.cons_append]
    rw [spelled] at enough ⊢
    simp only [List.length_cons, List.length_append] at enough
    rw [List.cons_append, List.append_assoc, List.append_assoc, List.singleton_append,
      readValue.eq_def]
    dsimp only
    rw [if_neg (by decide), if_pos rfl, opened]
    split
    · rename_i same
      cases same
      exact absurd rfl other
    · rename_i skipped _
      exact readItems_spelled (item :: items) (List.cons_ne_nil _ _) legible
        (Nat.le_of_succ_le_succ nested) (by omega) ((skipSpace_cons visible _).trans opened.symm)
  | obj [], fuel, room, depth, rest, legible, nested, enough, _ => by
    obtain ⟨fuel, rfl⟩ := exists_eq_succ s legible enough
    rw [nesting] at nested
    obtain ⟨room, rfl⟩ := Nat.exists_eq_add_of_le' (Nat.le_of_add_left_le nested)
    rfl
  | obj ((key, value) :: members), fuel, room, depth, rest, legible, nested, enough, _ => by
    obtain ⟨fuel, rfl⟩ := exists_eq_succ s legible enough
    rw [nesting] at nested
    obtain ⟨room, rfl⟩ := Nat.exists_eq_add_of_le' (Nat.le_of_add_left_le nested)
    rw [Legible] at legible
    -- the first member starts with a quote
    obtain ⟨more, opened⟩ : ∃ more, skipSpace (spelledMembers s (depth + 1) true
        ((key, value) :: members) ++ (s.gap depth ++ '\x7d' :: rest)) = '\x22' :: more := by
      rw [spelledMembers, comma, if_pos rfl, List.nil_append, List.append_assoc, List.append_assoc,
        skipSpace_blanks (blank.gap _), quoted_append, skipSpace_cons rfl]
      exact ⟨_, rfl⟩
    rw [spelled] at enough ⊢
    simp only [List.length_cons, List.length_append] at enough
    rw [List.cons_append, List.append_assoc, List.append_assoc, List.singleton_append,
      readValue.eq_def]
    dsimp only
    rw [if_neg (by decide), if_neg (by decide), if_pos rfl, opened]
    exact readMembers_spelled ((key, value) :: members) (List.cons_ne_nil _ _) legible.1 legible.2
      (Nat.le_of_succ_le_succ nested) (by omega) ((skipSpace_cons rfl _).trans opened.symm)

private theorem readItems_spelled : ∀ (items : List Json) {fuel room depth outer : Nat}
    {done : List Json} {cs rest : List Char}, items ≠ [] → LegibleItems items →
      nestingItems items ≤ room → 2 * (spelledItems s depth true items).length + 1 ≤ fuel →
      skipSpace cs = skipSpace (spelledItems s depth true items ++ (s.gap outer ++ ']' :: rest)) →
      readItems fuel room done cs = some (.arr (done.reverse ++ items), rest)
  | [], _, _, _, _, _, _, _, present, _, _, _, _ => absurd rfl present
  | item :: items, fuel, room, depth, outer, done, cs, rest, _, legible, nested, enough, skipped =>
    by
    rw [LegibleItems] at legible
    rw [nestingItems, Nat.max_le] at nested
    rw [spelledItems, comma, if_pos rfl, List.nil_append, List.append_assoc, List.append_assoc,
      skipSpace_blanks (blank.gap depth), skipSpace_spelled s depth legible.1] at skipped
    rw [spelledItems] at enough
    simp only [List.length_append] at enough
    obtain ⟨fuel, rfl⟩ := Nat.exists_eq_add_of_le' (Nat.le_of_add_left_le enough)
    have after : Stops (spelledItems s depth false items ++ (s.gap outer ++ ']' :: rest)) := by
      refine stops_after blank outer rfl ?_ rest
      cases items with
      | nil => exact .inl rfl
      | cons next items => exact .inr rfl
    rw [readItems, skipped, readValue_spelled item legible.1 nested.1 (by omega) after]
    dsimp only
    cases items with
    | nil =>
      rw [spelledItems, List.nil_append, skipSpace_gap blank outer rfl]
      simp
    | cons next items =>
      have parted : spelledItems s depth false (next :: items) =
          ',' :: spelledItems s depth true (next :: items) := by simp [spelledItems, comma]
      rw [parted, List.length_cons] at enough
      rw [parted, List.cons_append, skipSpace_cons rfl]
      refine (readItems_spelled (next :: items) (List.cons_ne_nil _ _) legible.2 nested.2
        (by omega) rfl).trans ?_
      simp

private theorem readMembers_spelled : ∀ (members : Members) {fuel room depth outer : Nat}
    {done : Members} {cs rest : List Char}, members ≠ [] →
      ((done ++ members).map (·.1)).Nodup → LegibleMembers members →
      nestingMembers members ≤ room → 2 * (spelledMembers s depth true members).length + 1 ≤ fuel →
      skipSpace cs =
        skipSpace (spelledMembers s depth true members ++ (s.gap outer ++ '\x7d' :: rest)) →
      readMembers fuel room done cs = some (.obj (done ++ members), rest)
  | [], _, _, _, _, _, _, _, present, _, _, _, _, _ => absurd rfl present
  | (key, value) :: members, fuel, room, depth, outer, done, cs, rest, _, distinct, legible, nested,
      enough, skipped => by
    rw [LegibleMembers] at legible
    rw [nestingMembers, Nat.max_le] at nested
    rw [spelledMembers, comma, if_pos rfl, List.nil_append, List.append_assoc, List.append_assoc,
      skipSpace_blanks (blank.gap depth), quoted_append, skipSpace_cons rfl] at skipped
    rw [spelledMembers] at enough
    simp only [List.length_append, List.length_cons] at enough
    obtain ⟨fuel, rfl⟩ := Nat.exists_eq_add_of_le' (Nat.le_of_add_left_le enough)
    have after : Stops (spelledMembers s depth false members ++ (s.gap outer ++ '\x7d' :: rest)) := by
      refine stops_after blank outer rfl ?_ rest
      cases members with
      | nil => exact .inl rfl
      | cons next members => exact .inr rfl
    rw [List.map_append, List.map_cons] at distinct
    have absent : key ∉ done.map (·.1) := fun present =>
      (List.nodup_append.mp distinct).2.2 key present key List.mem_cons_self rfl
    have added : Members.put key value done = done ++ [(key, value)] := by
      have appended := Members.put_append_of_not_mem absent value []
      rwa [List.append_nil] at appended
    have short : (quoted key).length ≤ fuel + 1 := by omega
    have read := readText_of_length key short
    rw [List.cons_append, List.append_assoc, List.append_assoc] at skipped
    rw [readMembers, skipped]
    have small : 2 * (spelled s depth value).length ≤ fuel := by omega
    have valued := readValue_spelled value legible.1 nested.1 small after
    simp only [read, skipSpace_cons (c := ':') rfl, skipSpace_blanks blank.colon,
      skipSpace_spelled s depth legible.1, valued]
    cases members with
    | nil =>
      rw [spelledMembers, List.nil_append, skipSpace_gap blank outer rfl, added]
      rfl
    | cons next members =>
      have parted : spelledMembers s depth false (next :: members) =
          ',' :: spelledMembers s depth true (next :: members) := by simp [spelledMembers, comma]
      rw [parted, List.length_cons] at enough
      rw [parted, List.cons_append, skipSpace_cons rfl, added]
      refine (readMembers_spelled (next :: members) (List.cons_ne_nil _ _) ?_ legible.2 nested.2
        (by omega) rfl).trans ?_
      · simpa using distinct
      · simp

end

/-- A text with a line feed behind it reads back as its document. -/
theorem parse?_of_spelled {text : String} {doc : Json} (legible : doc.Legible)
    (nested : doc.nesting ≤ maxNesting) (written : text.toList = spelled s 0 doc ++ ['\n']) :
    parse? text = some doc := by
  have stops : Stops ['\n'] := .cons rfl
  have enough : 2 * (spelled s 0 doc).length ≤ 2 * text.toList.length + 2 := by
    rw [written, List.length_append]
    omega
  have read := readValue_spelled blank doc legible nested enough stops
  rw [← written] at read
  have start := skipSpace_spelled s 0 legible ['\n']
  rw [← written] at start
  simp only [parse?, start, read]
  rfl

end Reshape.Json
