import Reshape.Proofs.Regex.Contained

/-! Character classes in a group. A class that is not closed inside the group takes the end of
the group for some of its members, and then never closes. -/

namespace Reshape.Regex

open Outcome

theorem readItem_suffix {f : Flags} {c : Char} {cs rest : List Char} {p : Primitive}
    (done : readItem f (c :: cs) = .ok (p, rest)) : rest <:+ cs := by
  by_cases escape : c = '\\'
  · subst escape
    exact readEscape_suffix done
  · simp only [readItem] at done
    cases done
    exact List.suffix_rfl

theorem readItem_closing {f : Flags} {cs rest : List Char} {p : Primitive}
    (done : readItem f (cs ++ closing) = .ok (p, rest)) :
    (rest <:+ ['$'] ∨ ∃ left, rest = left ++ closing ∧ readItem f cs = .ok (p, left)) ∨
      p = .look .boundary := by
  cases cs with
  | nil => exact .inl (.inl (readItem_suffix done))
  | cons c cs =>
    by_cases escape : c = '\\'
    · subst escape
      exact (readEscape_closing done).imp_right And.left
    · simp only [List.cons_append, readItem] at done ⊢
      cases done
      exact .inl (.inr ⟨cs, rfl, rfl⟩)

/-- What comes after a run of blanks is at the start where there are none. -/
theorem head?_dropWhile_isBlank {cs : List Char} {c : Char} (head : cs.head? = some c) :
    Text.isBlank c ∨ (cs.dropWhile Text.isBlank).head? = some c := by
  obtain ⟨cs, rfl⟩ := List.head?_eq_some_iff.mp head
  by_cases blank : Text.isBlank c
  · exact .inl blank
  · exact .inr (by simp [blank])

/-- The end of the group is neither a bracket nor a hyphen. -/
theorem peek?_closing {f : Flags} {c mark : Char} {cs : List Char} (which : mark ∈ [']', '-']) :
    peek? f (c :: cs ++ closing) = some mark ↔ peek? f (c :: cs) = some mark := by
  have other : mark ≠ ')' := by
    rintro rfl
    exact absurd which (by decide)
  have solid : Text.isBlank mark = false ∧ mark ≠ '#' := by
    rcases List.mem_pair.mp which with rfl | rfl <;> decide
  have plain : (cs ++ closing).head? = some mark ↔ cs.head? = some mark := by
    cases cs with
    | nil => simp [closing, other.symm]
    | cons d cs => rfl
  simp only [peek?, List.cons_append, List.drop_succ_cons, List.drop_zero,
    dropWhile_isBlank_closing]
  split
  · cases ahead : cs.dropWhile Text.isBlank with
    | nil =>
      have absent : cs.head? ≠ some mark := fun head => by
        rcases head?_dropWhile_isBlank head with blank | head
        · simp [solid.1] at blank
        · simp [ahead] at head
      simp [closing, other.symm, absent]
    | cons d more =>
      by_cases comment : d = '#'
      · subst comment
        have absent : cs.head? ≠ some mark := fun head => by
          rcases head?_dropWhile_isBlank head with blank | head
          · simp [solid.1] at blank
          · rw [ahead] at head
            exact solid.2 (Option.some.inj head).symm
        have last : closing.find? (fun c => !Text.isBlank c) = some ')' := by decide
        simp only [List.cons_append, List.find?_append, last]
        cases more.find? fun c => !Text.isBlank c <;> simp [other.symm, absent]
      · simp
  · exact plain

/-- A hyphen makes a range, unless it stands in front of a bracket or of a second hyphen. -/
def StartsRange (f : Flags) (cs : List Char) : Prop :=
  cs.head? = some '-' ∧ peek? f cs ≠ some ']' ∧ peek? f cs ≠ some '-'

instance (f : Flags) (cs : List Char) : Decidable (StartsRange f cs) :=
  inferInstanceAs (Decidable (_ ∧ _ ∧ _))

theorem startsRange_closing {f : Flags} {c : Char} {cs : List Char} :
    StartsRange f (c :: cs ++ closing) ↔ StartsRange f (c :: cs) :=
  and_congr Iff.rfl (and_congr (not_congr (peek?_closing (by decide)))
    (not_congr (peek?_closing (by decide))))

/-- The range of two bounds, in front of what follows. -/
def rangeOf (f : Flags) (first last : Primitive) (rest : List Char) :
    Except SyntaxFault (Member × List Char) := do
  let low ← boundOf f first
  let high ← boundOf f last
  if high < low then .error .classRange
  else .ok (⟨⟨[(low.toNat, high.toNat)]⟩, 0⟩, rest)

theorem rangeOf_contained (f : Flags) (first last : Primitive) :
    Contained (rangeOf f first last) :=
  .lift fun _ => .lift fun _ => .ite _ (.error _) (.ok _)

/-- The rest of an item or a range, after its first item and the blanks after that. -/
def readAfterItem (f : Flags) (first : Primitive) (cs : List Char) :
    Except SyntaxFault (Member × List Char) :=
  if cs.isEmpty then .error .openClass
  else if StartsRange f cs then
    if (advance f cs).isEmpty then .error .openClass
    else do
      let (last, rest) ← readItem f (advance f cs)
      rangeOf f first last rest
  else do
    let member ← memberOf f first
    .ok (member, cs)

theorem readRange_eq (f : Flags) (cs : List Char) :
    readRange f cs = readItem f cs >>= fun (first, rest) => readAfterItem f first (skip f rest) :=
  rfl

theorem readAfterItem_suffix {f : Flags} {first : Primitive} {cs rest : List Char} {m : Member}
    (done : readAfterItem f first cs = .ok (m, rest)) : rest <:+ cs := by
  rw [readAfterItem] at done
  split at done
  · cases done
  split at done
  · split at done
    · cases done
    · obtain ⟨⟨last, middle⟩, item, done⟩ := bind_eq_ok.mp done
      have within := (rangeOf_contained f first last).leaves done
      cases ahead : advance f cs with
      | nil =>
        rw [ahead] at item
        cases item
      | cons c after =>
        rw [ahead] at item
        exact (within.trans (readItem_suffix item)).trans
          ((List.suffix_cons c after).trans (ahead ▸ advance_suffix f cs))
  · obtain ⟨member, found, done⟩ := bind_eq_ok.mp done
    cases done
    exact List.suffix_rfl

/-- What is no character has no place in a class. -/
theorem readAfterItem_look (f : Flags) (condition : Look) (cs : List Char) (m : Member)
    (rest : List Char) : readAfterItem f (.look condition) cs ≠ .ok (m, rest) := by
  intro done
  rw [readAfterItem] at done
  split at done
  · cases done
  split at done
  · split at done
    · cases done
    · obtain ⟨⟨last, middle⟩, item, done⟩ := bind_eq_ok.mp done
      cases done
  · cases done

private theorem readAfterItem_closing (f : Flags) (first : Primitive) (cs : List Char) :
    Agrees closing (readAfterItem f first (cs ++ closing)) (readAfterItem f first cs) := by
  intro m rest done
  cases cs with
  | nil => exact .inl (readAfterItem_suffix done)
  | cons c cs =>
    rw [readAfterItem, if_neg (by simp)] at done ⊢
    split at done
    · rename_i range
      rw [if_pos (startsRange_closing.mp range)]
      rw [List.cons_append, advance_cons] at done
      rw [advance_cons]
      rcases skip_closing f cs with none | some
      · rw [none] at done
        cases done
      · rw [some, if_neg (by simp [closing])] at done
        obtain ⟨⟨last, middle⟩, item, done⟩ := bind_eq_ok.mp done
        have within := (rangeOf_contained f first last).leaves done
        rcases readItem_closing item with (past | ⟨left, rfl, alone⟩) | look
        · exact .inl ((within.trans past).trans (List.suffix_cons _ _))
        · have more : (skip f cs).isEmpty = false := by
            cases ahead : skip f cs with
            | nil =>
              rw [ahead] at alone
              cases alone
            | cons => rfl
          rw [more]
          rcases (rangeOf_contained f first last).inside left done with past | ⟨left, same, done⟩
          · exact .inl (past.trans (List.suffix_cons _ _))
          · exact .inr ⟨left, same, bind_eq_ok.mpr ⟨_, alone, done⟩⟩
        · subst look
          obtain ⟨low, -, done⟩ := bind_eq_ok.mp done
          cases done
    · rename_i single
      rw [if_neg fun range => single (startsRange_closing.mpr range)]
      obtain ⟨member, found, done⟩ := bind_eq_ok.mp done
      cases done
      exact .inr ⟨c :: cs, rfl, bind_eq_ok.mpr ⟨_, found, rfl⟩⟩

theorem readRange_suffix {f : Flags} {c : Char} {cs rest : List Char} {m : Member}
    (done : readRange f (c :: cs) = .ok (m, rest)) : rest <:+ cs := by
  rw [readRange_eq] at done
  obtain ⟨⟨first, middle⟩, item, done⟩ := bind_eq_ok.mp done
  exact ((readAfterItem_suffix done).trans (skip_suffix f middle)).trans (readItem_suffix item)

theorem readRange_closing (f : Flags) (cs : List Char) :
    Agrees closing (readRange f (cs ++ closing)) (readRange f cs) := by
  intro m rest done
  rw [readRange_eq] at done ⊢
  obtain ⟨⟨first, middle⟩, item, done⟩ := bind_eq_ok.mp done
  have within := (readAfterItem_suffix done).trans (skip_suffix f middle)
  rcases readItem_closing item with (past | ⟨left, rfl, alone⟩) | look
  · exact .inl ((within.trans past).trans (List.suffix_cons _ _))
  · dsimp only at done
    rcases skip_closing f left with none | some
    · rw [none] at done
      cases done
    · rw [some] at done
      exact (readAfterItem_closing f first _ done).imp_right fun ⟨left, same, done⟩ =>
        ⟨left, same, bind_eq_ok.mpr ⟨_, alone, done⟩⟩
  · subst look
    exact absurd done (readAfterItem_look f _ _ _ _)

private theorem readHyphens_of_ne {f : Flags} {fuel : Nat} {members : List Member} {c : Char}
    {cs : List Char} (other : c ≠ '-') :
    readHyphens f (fuel + 1) members (c :: cs) = .ok (members, c :: cs) := by
  unfold readHyphens
  split
  · rename_i absurdity
    cases absurdity
  · rename_i same
    exact absurd (List.cons.inj same).1 other
  · rfl

theorem readHyphens_suffix {f : Flags} {fuel : Nat} {members found : List Member}
    {cs rest : List Char} (done : readHyphens f fuel members cs = .ok (found, rest)) :
    rest <:+ cs := by
  induction fuel generalizing members cs with
  | zero => cases done
  | succ fuel ih =>
    unfold readHyphens at done
    split at done
    · cases done
    · exact (ih done).trans (advance_suffix f _)
    · cases done
      exact List.suffix_rfl

theorem readHyphens_closing (f : Flags) (fuel : Nat) {enough : Nat} (members : List Member)
    {cs : List Char} (bound : cs.length < enough) :
    Agrees closing (readHyphens f fuel members (cs ++ closing))
      (readHyphens f enough members cs) := by
  intro found rest done
  induction fuel generalizing members cs enough with
  | zero => cases done
  | succ fuel ih =>
    obtain ⟨enough, rfl⟩ : ∃ less, enough = less + 1 := ⟨enough - 1, by omega⟩
    cases cs with
    | nil => exact .inl (readHyphens_suffix done)
    | cons c cs =>
      rw [List.cons_append] at done
      by_cases hyphen : c = '-'
      · subst hyphen
        simp only [readHyphens, advance_cons] at done ⊢
        rcases skip_closing f cs with none | some
        · rw [none] at done
          cases fuel <;> cases done
        · rw [some] at done
          refine ih _ ?_ done
          exact Nat.lt_of_le_of_lt (skip_suffix f cs).length_le (Nat.lt_of_succ_lt_succ bound)
      · rw [readHyphens_of_ne hyphen] at done ⊢
        cases done
        exact .inr ⟨c :: cs, rfl, rfl⟩

/-- The start of a bracket after its hyphens: a closing bracket that comes first is a member. -/
def openAfter (f : Flags) (negated : Bool) (members : List Member) (cs : List Char) :
    Except SyntaxFault (OpenBracket × List Char) :=
  match members, cs with
  | [], ']' :: _ =>
    if (advance f cs).isEmpty then .error .openClass
    else .ok (⟨negated, none, [⟨.single ']', 0⟩]⟩, advance f cs)
  | _, _ => .ok (⟨negated, none, members⟩, cs)

theorem openAfter_suffix {f : Flags} {negated : Bool} {members : List Member} {cs rest : List Char}
    {b : OpenBracket} (done : openAfter f negated members cs = .ok (b, rest)) : rest <:+ cs := by
  unfold openAfter at done
  split at done
  · split at done
    · cases done
    · cases done
      exact advance_suffix f _
  · cases done
    exact List.suffix_rfl

private theorem openAfter_bracket (f : Flags) (negated : Bool) (cs : List Char) :
    openAfter f negated [] (']' :: cs) =
      if (skip f cs).isEmpty then .error .openClass
      else .ok (⟨negated, none, [⟨.single ']', 0⟩]⟩, skip f cs) :=
  rfl

private theorem openAfter_plain {f : Flags} {negated : Bool} {members : List Member}
    {cs : List Char} (other : members ≠ [] ∨ cs.head? ≠ some ']') :
    openAfter f negated members cs = .ok (⟨negated, none, members⟩, cs) := by
  unfold openAfter
  split
  · exact absurd other (by simp)
  · rfl

private theorem openAfter_closing (f : Flags) (negated : Bool) (members : List Member)
    (cs : List Char) : Agrees closing (openAfter f negated members (cs ++ closing))
      (openAfter f negated members cs) := by
  intro b rest done
  rcases cs with _ | ⟨c, cs⟩
  · exact .inl (openAfter_suffix done)
  · by_cases other : members ≠ [] ∨ c ≠ ']'
    · rw [List.cons_append, openAfter_plain (other.imp id (by simp))] at done
      cases done
      exact .inr ⟨c :: cs, rfl, openAfter_plain (other.imp id (by simp))⟩
    · obtain ⟨rfl, rfl⟩ : members = [] ∧ c = ']' := by simpa [not_or] using other
      rw [List.cons_append, openAfter_bracket] at done
      rw [openAfter_bracket]
      rcases skip_closing f cs with none | some
      · rw [none] at done
        cases done
      · rw [some, if_neg (by simp [closing])] at done
        cases done
        cases skip f cs with
        | nil => exact .inl List.suffix_rfl
        | cons d after => exact .inr ⟨d :: after, rfl, rfl⟩

/-- The start of a bracket after its caret. -/
def readFirst (f : Flags) (fuel : Nat) (negated : Bool) (cs : List Char) :
    Except SyntaxFault (OpenBracket × List Char) := do
  let (members, rest) ← readHyphens f fuel [] cs
  openAfter f negated members rest

theorem readFirst_suffix {f : Flags} {fuel : Nat} {negated : Bool} {cs rest : List Char}
    {b : OpenBracket} (done : readFirst f fuel negated cs = .ok (b, rest)) : rest <:+ cs := by
  obtain ⟨⟨members, middle⟩, hyphens, done⟩ := bind_eq_ok.mp done
  exact (openAfter_suffix done).trans (readHyphens_suffix hyphens)

theorem readFirst_closing (f : Flags) (fuel : Nat) {enough : Nat} (negated : Bool)
    {cs : List Char} (bound : cs.length < enough) :
    Agrees closing (readFirst f fuel negated (cs ++ closing)) (readFirst f enough negated cs) :=
  (readHyphens_closing f fuel [] bound).bind openAfter_suffix fun members left _ =>
    openAfter_closing f negated members left

theorem readOpening_caret {f : Flags} {c : Char} {cs after : List Char}
    (ahead : skip f cs = '^' :: after) :
    readOpening f (c :: cs) = readFirst f (cs.length + 2) true (skip f after) := by
  simp only [readOpening, advance_cons, ahead]
  rfl

theorem readOpening_plain {f : Flags} {c : Char} {cs : List Char}
    (other : (skip f cs).head? ≠ some '^') :
    readOpening f (c :: cs) = readFirst f (cs.length + 2) false (skip f cs) := by
  simp only [readOpening, advance_cons]
  split
  · rename_i ahead
    exact absurd (by rw [ahead]; rfl) other
  · rfl

theorem readOpening_suffix {f : Flags} {c : Char} {cs rest : List Char} {b : OpenBracket}
    (done : readOpening f (c :: cs) = .ok (b, rest)) : rest <:+ cs := by
  by_cases caret : (skip f cs).head? = some '^'
  · obtain ⟨after, ahead⟩ := List.head?_eq_some_iff.mp caret
    rw [readOpening_caret ahead] at done
    exact ((readFirst_suffix done).trans (skip_suffix f after)).trans
      ((List.suffix_cons _ _).trans (ahead ▸ skip_suffix f cs))
  · rw [readOpening_plain caret] at done
    exact (readFirst_suffix done).trans (skip_suffix f cs)

theorem readOpening_closing (f : Flags) (c : Char) (cs : List Char) :
    Agrees closing (readOpening f (c :: cs ++ closing)) (readOpening f (c :: cs)) := by
  intro b rest done
  rw [List.cons_append] at done
  have shorter := (skip_suffix f cs).length_le
  rcases skip_closing f cs with none | whole
  · rw [readOpening_plain (by simp [none]), none] at done
    cases done
  · by_cases caret : (skip f cs).head? = some '^'
    · obtain ⟨after, ahead⟩ := List.head?_eq_some_iff.mp caret
      rw [ahead, List.cons_append] at whole
      rw [ahead] at shorter
      rw [readOpening_caret whole] at done
      rw [readOpening_caret ahead]
      rcases skip_closing f after with none | whole
      · rw [none] at done
        cases done
      · rw [whole] at done
        have further := (skip_suffix f after).length_le
        refine readFirst_closing f _ true ?_ done
        rw [List.length_cons] at shorter
        omega
    · have other : (skip f (cs ++ closing)).head? ≠ some '^' := by
        rw [whole]
        cases ahead : skip f cs with
        | nil => decide
        | cons d after =>
          rw [ahead] at caret
          exact caret
      rw [readOpening_plain other, whole] at done
      rw [readOpening_plain caret]
      exact readFirst_closing f _ false (by omega) done

/-- The rest of a named set, after the colon or the caret that starts it. -/
def namedAfter? (negated : Bool) (cs : List Char) : Option (String × Bool × List Char) :=
  match cs.span (· != ':') with
  | (name, ':' :: ']' :: after) => some (String.ofList name, negated, after)
  | _ => none

theorem readNamed?_plain {cs : List Char} (other : cs.head? ≠ some '^') :
    readNamed? ('[' :: ':' :: cs) = namedAfter? false cs := by
  rcases cs with _ | ⟨c, cs⟩
  · rfl
  · have other : c ≠ '^' := by simpa using other
    simp only [readNamed?, other, List.cons.injEq, false_and, imp_self, implies_true]
    rfl

theorem readNamed?_none {cs : List Char} (other : cs.take 2 ≠ ['[', ':']) :
    readNamed? cs = none := by
  unfold readNamed?
  split
  · exact absurd rfl other
  · rfl

private theorem namedAfter?_suffix {negated negated' : Bool} {cs after : List Char} {name : String}
    (done : namedAfter? negated cs = some (name, negated', after)) : after <:+ cs := by
  rw [namedAfter?, List.span_eq_takeWhile_dropWhile] at done
  split at done
  · rename_i found
    cases done
    exact (((List.suffix_cons _ _).trans (List.suffix_cons _ _)).trans
      ((Prod.mk.inj found).2 ▸ List.dropWhile_suffix _))
  · cases done

private theorem namedAfter?_closing (negated : Bool) (cs : List Char) :
    namedAfter? negated (cs ++ closing) =
      (namedAfter? negated cs).map fun (name, negated, after) =>
        (name, negated, after ++ closing) := by
  simp only [namedAfter?, List.span_eq_takeWhile_dropWhile]
  have gone : closing.dropWhile (· != ':') = [] := by decide
  rcases span_closing gone cs with ⟨alone, inside⟩ | ⟨c, after, alone, inside, same⟩
  · rw [alone, inside]
    rfl
  · rw [alone, inside, same]
    by_cases colon : c = ':'
    · subst colon
      rcases after with _ | ⟨d, after⟩
      · rfl
      · by_cases bracket : d = ']'
        · subst bracket
          rfl
        · simp [bracket]
    · simp [colon]

private theorem readNamed?_suffix {cs after : List Char} {name : String} {negated : Bool}
    (done : readNamed? cs = some (name, negated, after)) : after <:+ cs.drop 1 := by
  by_cases starts : cs.take 2 = ['[', ':']
  · obtain ⟨rest, rfl⟩ : ∃ rest, cs = '[' :: ':' :: rest :=
      ⟨cs.drop 2, by rw [← List.take_append_drop 2 cs, starts]; rfl⟩
    refine List.IsSuffix.trans ?_ (List.suffix_cons ':' rest)
    by_cases caret : rest.head? = some '^'
    · obtain ⟨rest, rfl⟩ := List.head?_eq_some_iff.mp caret
      have named : namedAfter? true rest = some (name, negated, after) := done
      exact (namedAfter?_suffix named).trans (List.suffix_cons _ _)
    · rw [readNamed?_plain caret] at done
      exact namedAfter?_suffix done
  · rw [readNamed?_none starts] at done
    cases done

private theorem readNamed?_closing (cs : List Char) :
    readNamed? (cs ++ closing) =
      (readNamed? cs).map fun (name, negated, after) => (name, negated, after ++ closing) := by
  by_cases starts : cs.take 2 = ['[', ':']
  · obtain ⟨rest, rfl⟩ : ∃ rest, cs = '[' :: ':' :: rest :=
      ⟨cs.drop 2, by rw [← List.take_append_drop 2 cs, starts]; rfl⟩
    rcases rest with _ | ⟨c, rest⟩
    · rfl
    · by_cases caret : c = '^'
      · subst caret
        exact namedAfter?_closing true rest
      · rw [readNamed?_plain (by simpa using caret)]
        exact (readNamed?_plain (by simpa using caret)).trans
          (namedAfter?_closing false (c :: rest))
  · have further : (cs ++ closing).take 2 ≠ ['[', ':'] := fun more =>
      starts ((Contained.take_stable (by decide) (by decide) cs).mp more)
    rw [readNamed?_none starts, readNamed?_none further]
    rfl

/-- The set that a name between `[:` and `:]` stands for, if there is one. -/
def posixNamed? (cs : List Char) : Option (CharSet × Bool × List Char) :=
  (readNamed? cs).bind fun (name, negated, after) =>
    (CharSet.posix? name).map fun s => (s, negated, after)

theorem posixNamed?_suffix {cs after : List Char} {s : CharSet} {negated : Bool}
    (done : posixNamed? cs = some (s, negated, after)) : after <:+ cs.drop 1 := by
  obtain ⟨⟨name, negated, after⟩, named, found⟩ := Option.bind_eq_some_iff.mp done
  obtain ⟨s, -, same⟩ := Option.map_eq_some_iff.mp found
  cases same
  exact readNamed?_suffix named

theorem posixNamed?_closing (cs : List Char) :
    posixNamed? (cs ++ closing) =
      (posixNamed? cs).map fun (s, negated, after) => (s, negated, after ++ closing) := by
  rw [posixNamed?, posixNamed?, readNamed?_closing]
  rcases readNamed? cs with _ | ⟨name, negated, after⟩
  · rfl
  · cases set : CharSet.posix? name <;> simp [set]

/-- One round of reading what follows in the innermost of some open brackets: the set of the
outermost where that closes, or else the brackets that are still open. -/
def readRound (f : Flags) (current : OpenBracket) (outer : List OpenBracket) (cs : List Char) :
    Except SyntaxFault ((Member ⊕ OpenBracket × List OpenBracket) × List Char) :=
  match cs with
  | [] => .error .openClass
  | '[' :: rest =>
    match posixNamed? ('[' :: rest) with
    | some (s, negated, after) => do
      let s ← complementIf f negated (foldSet f s)
      .ok (.inr (current.add ⟨s, 0⟩, outer), after)
    | none => (readOpening f ('[' :: rest)).map fun (inner, after) =>
      (.inr (inner, current :: outer), after)
  | ']' :: rest => do
    let member ← current.close f
    match outer with
    | [] => .ok (.inl member, rest)
    | parent :: outer => .ok (.inr (parent.add member, outer), rest)
  | '&' :: '&' :: rest => .ok (.inr (current.operator f .intersection, outer), rest)
  | '-' :: '-' :: rest => .ok (.inr (current.operator f .difference, outer), rest)
  | '~' :: '~' :: rest => .ok (.inr (current.operator f .symmetricDifference, outer), rest)
  | cs => (readRange f cs).map fun (member, rest) => (.inr (current.add member, outer), rest)

theorem readBrackets_succ (f : Flags) (fuel : Nat) (current : OpenBracket)
    (outer : List OpenBracket) (cs : List Char) :
    readBrackets f (fuel + 1) current outer cs =
      readRound f current outer (skip f cs) >>= fun (state, rest) =>
        match state with
        | .inl member => .ok (member, rest)
        | .inr (inner, around) => readBrackets f fuel inner around rest := by
  rw [readBrackets]
  generalize skip f cs = ahead
  split
  · rfl
  · simp only [readRound, posixNamed?]
    generalize (readNamed? _).bind _ = named
    rcases named with _ | ⟨s, negated, after⟩
    · simp only [map_bind]
    · simp only [bind_assoc, ok_bind]
  · simp only [readRound, bind_assoc]
    cases outer <;> rfl
  · rfl
  · rfl
  · rfl
  · rw [readRound, map_bind]
    all_goals assumption

theorem readRound_suffix {f : Flags} {current : OpenBracket} {outer : List OpenBracket}
    {cs rest : List Char} {state : Member ⊕ OpenBracket × List OpenBracket}
    (done : readRound f current outer cs = .ok (state, rest)) : rest <:+ cs.drop 1 := by
  unfold readRound at done
  split at done
  · cases done
  · split at done
    · rename_i named
      obtain ⟨set, -, done⟩ := bind_eq_ok.mp done
      cases done
      exact posixNamed?_suffix named
    · obtain ⟨⟨inner, after⟩, opening, same⟩ := map_eq_ok.mp done
      cases same
      exact readOpening_suffix opening
  · obtain ⟨member, -, done⟩ := bind_eq_ok.mp done
    split at done <;> (cases done; exact List.suffix_rfl)
  · cases done
    exact List.suffix_cons _ _
  · cases done
    exact List.suffix_cons _ _
  · cases done
    exact List.suffix_cons _ _
  · obtain ⟨⟨member, after⟩, range, same⟩ := map_eq_ok.mp done
    cases same
    rcases cs with _ | ⟨c, cs⟩
    · cases range
    · exact readRange_suffix range

/-- What is no bracket and no operator is an item or a range. -/
theorem readRound_plain {f : Flags} {current : OpenBracket} {outer : List OpenBracket} {c : Char}
    {cs : List Char} (bracket : c ∉ ['[', ']'])
    (operator : ∀ mark ∈ ['&', '-', '~'], (c :: cs).take 2 ≠ [mark, mark]) :
    readRound f current outer (c :: cs) =
      (readRange f (c :: cs)).map fun (member, rest) =>
        (.inr (current.add member, outer), rest) := by
  rw [readRound]
  · rintro ⟨⟩
  · rintro rest ⟨⟩
    exact bracket (by simp)
  · rintro rest ⟨⟩
    exact bracket (by simp)
  · rintro rest ⟨⟩
    exact operator '&' (by simp) rfl
  · rintro rest ⟨⟩
    exact operator '-' (by simp) rfl
  · rintro rest ⟨⟩
    exact operator '~' (by simp) rfl

/-- A round does the same `inside` a group as `alone`, where the end of the group does not stand
after the characters, or it takes that end for a member, but then the bracket is still open. -/
def RoundAgrees
    (inside alone : Except SyntaxFault ((Member ⊕ OpenBracket × List OpenBracket) × List Char)) :
    Prop :=
  ∀ ⦃state rest⦄, inside = .ok (state, rest) →
    (∃ brackets, state = .inr brackets) ∧ rest <:+ closing ∨
      ∃ left, rest = left ++ closing ∧ alone = .ok (state, left)

/-- What is read leaves the bracket open. -/
theorem RoundAgrees.of_agrees {α : Type} {inside alone : Except SyntaxFault (α × List Char)}
    (agrees : Agrees closing inside alone) (opened : α → OpenBracket × List OpenBracket) :
    RoundAgrees (inside.map fun (a, rest) => (.inr (opened a), rest))
      (alone.map fun (a, rest) => (.inr (opened a), rest)) := by
  intro state rest done
  obtain ⟨⟨a, rest⟩, done, same⟩ := map_eq_ok.mp done
  cases same
  rcases agrees done with past | ⟨left, same, found⟩
  · exact .inl ⟨⟨_, rfl⟩, past⟩
  · exact .inr ⟨left, same, map_eq_ok.mpr ⟨_, found, rfl⟩⟩

section Rounds

variable {f : Flags} {current : OpenBracket} {outer : List OpenBracket}

theorem readRound_opening (cs : List Char) :
    RoundAgrees (readRound f current outer ('[' :: (cs ++ closing)))
      (readRound f current outer ('[' :: cs)) := by
  have named := posixNamed?_closing ('[' :: cs)
  rw [List.cons_append] at named
  simp only [readRound, named]
  rcases posixNamed? ('[' :: cs) with _ | ⟨s, negated, after⟩
  · exact .of_agrees (readOpening_closing f '[' cs) fun inner => (inner, current :: outer)
  · intro state rest done
    obtain ⟨s, complement, done⟩ := bind_eq_ok.mp done
    cases done
    exact .inr ⟨after, rfl, bind_eq_ok.mpr ⟨s, complement, rfl⟩⟩

theorem readRound_end (cs : List Char) :
    RoundAgrees (readRound f current outer (']' :: (cs ++ closing)))
      (readRound f current outer (']' :: cs)) := by
  intro state rest done
  simp only [readRound] at done ⊢
  obtain ⟨member, closed, done⟩ := bind_eq_ok.mp done
  rw [closed]
  cases outer <;> (cases done; exact .inr ⟨cs, rfl, rfl⟩)

private theorem readRound_operator {mark : Char} (which : mark ∈ ['&', '-', '~']) (cs : List Char) :
    RoundAgrees (readRound f current outer (mark :: mark :: (cs ++ closing)))
      (readRound f current outer (mark :: mark :: cs)) := by
  intro state rest done
  simp only [List.mem_cons, List.not_mem_nil, or_false] at which
  rcases which with rfl | rfl | rfl <;> (cases done; exact .inr ⟨cs, rfl, rfl⟩)

private theorem readRound_member {c : Char} {cs : List Char} (bracket : c ∉ ['[', ']'])
    (operator : ∀ mark ∈ ['&', '-', '~'], (c :: cs).take 2 ≠ [mark, mark]) :
    RoundAgrees (readRound f current outer (c :: (cs ++ closing)))
      (readRound f current outer (c :: cs)) := by
  have further (mark) (which : mark ∈ ['&', '-', '~']) :
      (c :: (cs ++ closing)).take 2 ≠ [mark, mark] := by
    have other : mark ≠ ')' := by
      rintro rfl
      exact absurd which (by decide)
    exact fun twice => operator mark which
      ((Contained.take_stable other other (c :: cs)).mp twice)
  rw [readRound_plain bracket further, readRound_plain bracket operator]
  exact .of_agrees (readRange_closing f (c :: cs)) fun member => (current.add member, outer)

private theorem readRound_closing (cs : List Char) :
    RoundAgrees (readRound f current outer (cs ++ closing)) (readRound f current outer cs) := by
  rcases cs with _ | ⟨c, cs⟩
  · intro state rest done
    have within := (readRound_suffix done).trans (List.suffix_cons ')' ['$'])
    rw [List.nil_append, closing, readRound_plain (by decide) (by simp)] at done
    obtain ⟨⟨member, after⟩, range, same⟩ := map_eq_ok.mp done
    cases same
    exact .inl ⟨⟨_, rfl⟩, within⟩
  rw [List.cons_append]
  by_cases opens : c = '['
  · rw [opens]
    exact readRound_opening cs
  by_cases closes : c = ']'
  · rw [closes]
    exact readRound_end cs
  by_cases operator : ∃ mark ∈ ['&', '-', '~'], (c :: cs).take 2 = [mark, mark]
  · obtain ⟨mark, which, twice⟩ := operator
    obtain ⟨after, rfl⟩ : ∃ after, cs = mark :: after := by
      rcases cs with _ | ⟨d, after⟩
      · simp at twice
      · exact ⟨after, by simp at twice; rw [twice.2]⟩
    obtain rfl : c = mark := by simpa using twice
    exact readRound_operator which after
  · exact readRound_member (by simp [opens, closes]) fun mark which twice =>
      operator ⟨mark, which, twice⟩

end Rounds

theorem readBrackets_suffix {f : Flags} {fuel : Nat} {current : OpenBracket}
    {outer : List OpenBracket} {cs rest : List Char} {m : Member}
    (done : readBrackets f fuel current outer cs = .ok (m, rest)) : rest <:+ cs := by
  induction fuel generalizing current outer cs with
  | zero => cases done
  | succ fuel ih =>
    rw [readBrackets_succ] at done
    obtain ⟨⟨state, middle⟩, round, done⟩ := bind_eq_ok.mp done
    have within := (readRound_suffix round).trans ((List.drop_suffix 1 _).trans (skip_suffix f cs))
    rcases state with member | ⟨inner, around⟩
    · cases done
      exact within
    · exact (ih done).trans within

theorem readBrackets_closing (f : Flags) (fuel : Nat) {enough : Nat} (current : OpenBracket)
    (outer : List OpenBracket) {cs : List Char} (bound : cs.length ≤ enough) :
    Agrees ['$'] (readBrackets f fuel current outer (cs ++ closing))
      (readBrackets f enough current outer cs) := by
  intro m rest done
  induction fuel generalizing enough current outer cs with
  | zero => cases done
  | succ fuel ih =>
    rw [readBrackets_succ] at done
    obtain ⟨⟨state, middle⟩, round, after⟩ := bind_eq_ok.mp done
    rcases skip_closing f cs with none | whole
    · rw [none] at round
      cases round
    · rw [whole] at round
      rcases readRound_closing _ round with ⟨⟨⟨inner, around⟩, rfl⟩, past⟩ | ⟨left, rfl, alone⟩
      · rcases List.suffix_cons_iff.mp past with rfl | past
        · -- The whole end of the group is left, and without it nothing would be.
          exact (@ih 0 inner around [] (Nat.le_refl _) after).imp_right
            fun ⟨_, _, absurdity⟩ => nomatch absurdity
        · exact .inl ((readBrackets_suffix after).trans past)
      · have shorter := (readRound_suffix alone).length_le
        have within := (skip_suffix f cs).length_le
        obtain ⟨enough, rfl⟩ : ∃ less, enough = less + 1 := by
          rcases cs with _ | ⟨c, cs⟩
          · rw [skip_nil] at alone
            cases alone
          · exact ⟨enough - 1, by simp at bound; omega⟩
        rw [readBrackets_succ]
        rcases state with member | ⟨inner, around⟩
        · cases after
          exact .inr ⟨left, rfl, bind_eq_ok.mpr ⟨_, alone, rfl⟩⟩
        · rw [List.length_drop] at shorter
          rcases ih inner around (by omega : left.length ≤ enough) after with past | more
          · exact .inl past
          · obtain ⟨last, same, after⟩ := more
            exact .inr ⟨last, same, bind_eq_ok.mpr ⟨_, alone, after⟩⟩

/-- Brackets that are open at the end of the group go past it. -/
theorem readBrackets_past {f : Flags} {fuel : Nat} {current : OpenBracket}
    {outer : List OpenBracket} {cs rest : List Char} {m : Member} (past : cs <:+ closing)
    (done : readBrackets f fuel current outer cs = .ok (m, rest)) : rest <:+ ['$'] := by
  rcases List.suffix_cons_iff.mp past with rfl | past
  · rcases readBrackets_closing f fuel current outer (Nat.le_refl [].length) done with past | more
    · exact past
    · obtain ⟨_, _, absurdity⟩ := more
      cases absurdity
  · exact (readBrackets_suffix done).trans past

theorem readClass_contained (f : Flags) (c : Char) : Contained fun cs => readClass f (c :: cs) where
  leaves done := by
    obtain ⟨⟨bracket, middle⟩, opening, done⟩ := bind_eq_ok.mp done
    exact (readBrackets_suffix done).trans (readOpening_suffix opening)
  inside cs m rest done := by
    obtain ⟨⟨bracket, middle⟩, opening, done⟩ := bind_eq_ok.mp done
    rcases readOpening_closing f c cs opening with past | ⟨left, rfl, alone⟩
    · exact .inl (readBrackets_past past done)
    · have shorter := (readOpening_suffix alone).length_le
      have room : left.length ≤ 2 * (c :: cs).length + 2 := by
        rw [List.length_cons]
        omega
      rcases readBrackets_closing f _ bracket [] room done with past | ⟨last, same, after⟩
      · exact .inl past
      · exact .inr ⟨last, same, bind_eq_ok.mpr ⟨_, alone, after⟩⟩

end Reshape.Regex
