import Mathlib.Data.List.TakeDrop
import Reshape.Proofs.Outcome
import Reshape.Regex.Bracket

/-! Readers of the parts of an expression, where the expression stands in a group. What a reader
makes of characters does not depend on the end of the group after them, unless the reader
takes that end for something else and goes past it. -/

namespace Reshape.Regex

open Outcome

/-- The end of a group, and of the text, after an expression. -/
def closing : List Char := [')', '$']

theorem ne_cons_of_head? {c : Char} {cs : List Char} (other : cs.head? ≠ some c)
    (tail : List Char) : cs ≠ c :: tail := by
  rintro rfl
  exact other rfl

abbrev ReaderOf (α : Type) := List Char → Except SyntaxFault (α × List Char)

/-- A reader does the same `inside` a group as `alone`, where the end of the group does not stand
after the characters, unless no more is left to it than the end `slack` of the whole. -/
def Agrees {α : Type} (slack : List Char) (inside alone : Except SyntaxFault (α × List Char)) :
    Prop :=
  ∀ ⦃a rest⦄, inside = .ok (a, rest) →
    rest <:+ slack ∨ ∃ left, rest = left ++ closing ∧ alone = .ok (a, left)

namespace Agrees

variable {α β : Type} {slack : List Char} {inside alone : Except SyntaxFault (α × List Char)}

theorem bind {next : α × List Char → Except SyntaxFault (β × List Char)}
    (first : Agrees slack inside alone)
    (leaves : ∀ {a b rest after}, next (a, rest) = .ok (b, after) → after <:+ rest)
    (second : ∀ a left, alone = .ok (a, left) →
      Agrees slack (next (a, left ++ closing)) (next (a, left))) :
    Agrees slack (inside >>= next) (alone >>= next) := by
  intro b rest done
  obtain ⟨⟨a, middle⟩, done, after⟩ := bind_eq_ok.mp done
  rcases first done with past | ⟨left, rfl, found⟩
  · exact .inl ((leaves after).trans past)
  · exact (second a left found after).imp_right fun ⟨left, same, after⟩ =>
      ⟨left, same, bind_eq_ok.mpr ⟨_, found, after⟩⟩

theorem map (first : Agrees slack inside alone) (g : α → β) :
    Agrees slack (inside.map fun (a, rest) => (g a, rest))
      (alone.map fun (a, rest) => (g a, rest)) := by
  intro b rest done
  obtain ⟨⟨a, rest⟩, done, same⟩ := map_eq_ok.mp done
  cases same
  exact (first done).imp_right fun ⟨left, same, found⟩ =>
    ⟨left, same, map_eq_ok.mpr ⟨_, found, rfl⟩⟩

end Agrees

/-- A reader leaves an end of its characters, and in front of the end of a group it either goes
past the parenthesis or reads what it reads without it. -/
structure Contained {α : Type} (read : ReaderOf α) : Prop where
  leaves : ∀ {cs a rest}, read cs = .ok (a, rest) → rest <:+ cs
  inside : ∀ cs, Agrees ['$'] (read (cs ++ closing)) (read cs)

namespace Contained

variable {α β : Type} {read : ReaderOf α}

theorem ok (a : α) : Contained fun cs => .ok (a, cs) where
  leaves done := by
    cases done
    exact List.suffix_rfl
  inside cs _ _ done := by
    cases done
    exact .inr ⟨_, rfl, rfl⟩

theorem error (fault : SyntaxFault) : Contained fun _ => (.error fault : Except _ (α × _)) where
  leaves absurdity := nomatch absurdity
  inside _ _ _ absurdity := nomatch absurdity

theorem ite {read' : ReaderOf α} (test : Prop) [Decidable test] (first : Contained read)
    (second : Contained read') : Contained fun cs => if test then read cs else read' cs := by
  split
  · exact first
  · exact second

theorem bind {next : α × List Char → Except SyntaxFault (β × List Char)} (first : Contained read)
    (second : ∀ a, Contained fun rest => next (a, rest)) :
    Contained fun cs => read cs >>= next where
  leaves done := by
    obtain ⟨⟨a, rest⟩, done, after⟩ := bind_eq_ok.mp done
    exact ((second a).leaves after).trans (first.leaves done)
  inside cs := (first.inside cs).bind (second _).leaves fun a left _ => (second a).inside left

/-- A step that reads nothing. -/
theorem lift {x : Except SyntaxFault α} {next : α → ReaderOf β} (second : ∀ a, Contained (next a)) :
    Contained fun cs => x >>= fun a => next a cs := by
  cases x with
  | error fault => exact .error fault
  | ok a => exact second a

theorem map (first : Contained read) (g : α → β) :
    Contained fun cs => (read cs).map fun (a, rest) => (g a, rest) where
  leaves done := by
    obtain ⟨⟨a, rest⟩, done, same⟩ := map_eq_ok.mp done
    cases same
    exact first.leaves done
  inside cs := (first.inside cs).map g

/-- A reader that needs a character is looked at after that one. -/
theorem of_cons (none : ∀ a rest, read [] ≠ .ok (a, rest))
    (some : ∀ c, Contained fun cs => read (c :: cs)) : Contained read where
  leaves {cs a rest} done := by
    cases cs with
    | nil => exact absurd done (none a rest)
    | cons c cs => exact ((some c).leaves done).trans (List.suffix_cons c cs)
  inside cs a rest done := by
    cases cs with
    | nil => exact .inl ((some ')').leaves done)
    | cons c cs => exact (some c).inside cs done

/-- A choice that the end of the group does not change. -/
theorem choose {read' : ReaderOf α} {test : List Char → Prop} [DecidablePred test]
    (stable : ∀ cs, test (cs ++ closing) ↔ test cs) (first : Contained read)
    (second : Contained read') : Contained fun cs => if test cs then read cs else read' cs where
  leaves {cs a rest} done := by
    split at done
    · exact first.leaves done
    · exact second.leaves done
  inside cs := by
    by_cases holds : test cs
    · rw [if_pos holds, if_pos ((stable cs).mpr holds)]
      exact first.inside cs
    · rw [if_neg holds, if_neg fun further => holds ((stable cs).mp further)]
      exact second.inside cs

theorem head?_stable {c : Char} (other : c ≠ ')') (cs : List Char) :
    (cs ++ closing).head? = some c ↔ cs.head? = some c := by
  rcases cs with _ | ⟨first, cs⟩
  · simp [closing, other.symm]
  · rfl

theorem take_stable {c d : Char} (first : c ≠ ')') (second : d ≠ ')') (cs : List Char) :
    (cs ++ closing).take 2 = [c, d] ↔ cs.take 2 = [c, d] := by
  rcases cs with _ | ⟨e, _ | ⟨e', cs⟩⟩
  · simp [closing, first.symm]
  · simp [closing, second.symm]
  · rfl

/-- A reader that treats one character at the start in a way of its own. -/
theorem branch {c : Char} {special plain : ReaderOf α} (other : c ≠ ')')
    (first : Contained special) (second : Contained plain)
    (marked : ∀ cs, read (c :: cs) = special (c :: cs))
    (usual : ∀ cs, cs.head? ≠ some c → read cs = plain cs) : Contained read := by
  have same : read = fun cs => if cs.head? = some c then special cs else plain cs := by
    funext cs
    by_cases head : cs.head? = some c
    · obtain ⟨cs, rfl⟩ := List.head?_eq_some_iff.mp head
      rw [if_pos head, marked]
    · rw [if_neg head, usual cs head]
  rw [same]
  exact choose (head?_stable other) first second

end Contained

theorem dropBlanks_suffix (inComment : Bool) (cs : List Char) :
    dropBlanks inComment cs <:+ cs := by
  induction cs generalizing inComment with
  | nil => exact List.suffix_rfl
  | cons c cs ih =>
    rw [dropBlanks]
    split
    · exact (ih _).trans (List.suffix_cons c cs)
    split
    · exact (ih _).trans (List.suffix_cons c cs)
    split
    · exact (ih _).trans (List.suffix_cons c cs)
    · exact List.suffix_rfl

/-- A comment that is still open goes on to the end. -/
theorem dropBlanks_closing (inComment : Bool) (cs : List Char) :
    dropBlanks inComment (cs ++ closing) = [] ∨
      dropBlanks inComment (cs ++ closing) = dropBlanks inComment cs ++ closing := by
  induction cs generalizing inComment with
  | nil => cases inComment <;> simp [closing, dropBlanks, Text.isBlank]
  | cons c cs ih =>
    simp only [List.cons_append, dropBlanks]
    split
    · exact ih _
    split
    · exact ih _
    split
    · exact ih _
    · exact .inr rfl

theorem skip_nil (f : Flags) : skip f [] = [] := by
  rw [skip]
  split <;> rfl

theorem skip_suffix (f : Flags) (cs : List Char) : skip f cs <:+ cs := by
  rw [skip]
  split
  · exact dropBlanks_suffix false cs
  · exact List.suffix_rfl

theorem skip_closing (f : Flags) (cs : List Char) :
    skip f (cs ++ closing) = [] ∨ skip f (cs ++ closing) = skip f cs ++ closing := by
  rw [skip, skip]
  split
  · exact dropBlanks_closing false cs
  · exact .inr rfl

theorem advance_cons (f : Flags) (c : Char) (cs : List Char) :
    advance f (c :: cs) = skip f cs :=
  rfl

theorem advance_suffix (f : Flags) (cs : List Char) : advance f cs <:+ cs :=
  (skip_suffix f _).trans (List.drop_suffix 1 cs)

theorem advance_closing (f : Flags) : advance f closing = ['$'] := by
  rw [advance, skip]
  split <;> simp [closing, dropBlanks, Text.isBlank]

theorem Contained.skipped {α : Type} {read : ReaderOf α} (contained : Contained read) (f : Flags) :
    Contained fun cs => read (skip f cs) where
  leaves done := (contained.leaves done).trans (skip_suffix f _)
  inside cs a rest done := by
    rcases skip_closing f cs with none | some
    · rw [none] at done
      exact .inl ((contained.leaves done).trans List.nil_suffix)
    · rw [some] at done
      exact contained.inside _ done

theorem Contained.dropped {α : Type} {read : ReaderOf α} (contained : Contained read) :
    Contained fun cs => read (cs.drop 1) where
  leaves done := (contained.leaves done).trans (List.drop_suffix 1 _)
  inside cs a rest done := by
    cases cs with
    | nil => exact .inl (contained.leaves done)
    | cons c cs => exact contained.inside _ done

theorem Contained.advanced {α : Type} {read : ReaderOf α} (contained : Contained read) (f : Flags) :
    Contained fun cs => read (advance f cs) :=
  (contained.skipped f).dropped

theorem dropWhile_isBlank_closing (cs : List Char) :
    (cs ++ closing).dropWhile Text.isBlank = cs.dropWhile Text.isBlank ++ closing := by
  rw [List.dropWhile_append]
  split
  · rename_i blank
    rw [List.isEmpty_iff.mp blank]
    decide
  · rfl

/-- A character that does not come in a group does not come in its end either. -/
theorem span_closing {stop : Char} (gone : closing.dropWhile (· != stop) = []) (cs : List Char) :
    cs.dropWhile (· != stop) = [] ∧ (cs ++ closing).dropWhile (· != stop) = [] ∨
      ∃ c after, cs.dropWhile (· != stop) = c :: after ∧
        (cs ++ closing).dropWhile (· != stop) = c :: (after ++ closing) ∧
        (cs ++ closing).takeWhile (· != stop) = cs.takeWhile (· != stop) := by
  rw [List.dropWhile_append]
  cases found : cs.dropWhile (· != stop) with
  | nil => exact .inl ⟨rfl, gone⟩
  | cons c after =>
    have whole : cs.takeWhile (· != stop) ++ cs.dropWhile (· != stop) = cs :=
      List.takeWhile_append_dropWhile
    have sizes := congrArg List.length whole
    rw [found, List.length_append, List.length_cons] at sizes
    refine .inr ⟨c, after, rfl, rfl, ?_⟩
    rw [List.takeWhile_append, if_neg (by omega)]

theorem readHexDigits_contained (f : Flags) (count : Nat) : Contained (readHexDigits f count) := by
  induction count with
  | zero => exact .ok []
  | succ count ih =>
    refine .of_cons (by simp [readHexDigits]) fun c => ?_
    simp only [readHexDigits, advance_cons]
    exact .ite _ ((ih.skipped f).bind fun digits => .ok (c :: digits)) (.error _)

/-- Characters up to a brace are not looked for after the group. -/
theorem readUntil_eq_none {f : Flags} {stop : Char} {cs : List Char} (absent : stop ∉ cs)
    (fuel : Nat) : readUntil f stop fuel cs = none := by
  induction fuel generalizing cs with
  | zero => rfl
  | succ fuel ih =>
    cases cs with
    | nil => rfl
    | cons c cs =>
      obtain ⟨different, absent⟩ : stop ≠ c ∧ stop ∉ cs := by simpa using absent
      have later : readUntil f stop fuel (advance f (c :: cs)) = none :=
        ih fun member => absent ((skip_suffix f cs).subset member)
      simp [readUntil, different.symm, later]

private theorem readUntil_suffix {f : Flags} {stop : Char} {fuel : Nat} {cs found rest : List Char}
    (done : readUntil f stop fuel cs = some (found, rest)) : rest <:+ cs := by
  induction fuel generalizing cs found with
  | zero => cases done
  | succ fuel ih =>
    cases cs with
    | nil => cases done
    | cons c cs =>
      rw [readUntil] at done
      split at done
      · cases done
        exact List.suffix_rfl
      · obtain ⟨⟨more, after⟩, done, same⟩ := Option.map_eq_some_iff.mp done
        cases same
        exact (ih done).trans (advance_suffix f _)

private theorem readUntil_closing {f : Flags} {stop : Char} {fuel enough : Nat}
    {cs found rest : List Char} (absent : stop ∉ closing) (bound : cs.length ≤ enough)
    (done : readUntil f stop fuel (cs ++ closing) = some (found, rest)) :
    ∃ left, rest = left ++ closing ∧ readUntil f stop enough cs = some (found, left) := by
  induction fuel generalizing cs found enough with
  | zero => cases done
  | succ fuel ih =>
    cases cs with
    | nil =>
      rw [List.nil_append, readUntil_eq_none absent] at done
      cases done
    | cons c cs =>
      obtain ⟨enough, rfl⟩ : ∃ less, enough = less + 1 := ⟨enough - 1, by simp at bound; omega⟩
      rw [List.cons_append, readUntil] at done
      rw [readUntil]
      split at done
      · rename_i same
        cases done
        exact ⟨c :: cs, rfl, if_pos same⟩
      · rename_i different
        rw [if_neg different]
        obtain ⟨⟨more, after⟩, done, same⟩ := Option.map_eq_some_iff.mp done
        cases same
        rw [advance_cons] at done
        rcases skip_closing f cs with none | some
        · rw [none, readUntil_eq_none (by simp)] at done
          cases done
        · rw [some] at done
          have shorter := Nat.le_trans (skip_suffix f cs).length_le (Nat.le_of_succ_le_succ bound)
          obtain ⟨left, rfl, alone⟩ := ih shorter done
          exact ⟨left, rfl, by rw [advance_cons, alone]; rfl⟩

/-- What stands between a brace and the one after it is read inside the group. -/
theorem Contained.braced {α : Type} {next : List Char → ReaderOf α} (f : Flags)
    (fault : SyntaxFault) (contained : ∀ found, Contained (next found)) :
    Contained fun cs =>
      match readUntil f '\x7d' cs.length (advance f cs) with
      | none => .error fault
      | some (found, rest) => next found rest := by
  refine .of_cons (by simp [readUntil]) fun c =>
    ⟨fun {cs a rest} done => ?_, fun cs a rest done => ?_⟩
  · split at done
    · cases done
    · rename_i found after between
      exact ((contained found).leaves done).trans
        ((readUntil_suffix between).trans (skip_suffix f cs))
  · split at done
    · cases done
    · rename_i found after between
      simp only [advance_cons] at between ⊢
      rcases skip_closing f cs with none | some
      · rw [none, readUntil_eq_none (by simp)] at between
        cases between
      · rw [some] at between
        have shorter := Nat.le_succ_of_le (skip_suffix f cs).length_le
        obtain ⟨left, rfl, alone⟩ := readUntil_closing (by decide) shorter between
        rw [List.length_cons, alone]
        exact (contained found).inside _ done

private theorem hexNumber_contained (f : Flags) (count : Nat) : Contained (fun cs => do
    let (digits, rest) ← readHexDigits f count cs
    match hexChar? digits with
    | some c => .ok (Primitive.literal c (count == 2), rest)
    | none => .error .hexadecimal) := by
  refine (readHexDigits_contained f count).bind fun digits => ?_
  dsimp only
  cases hexChar? digits with
  | none => exact .error _
  | some c => exact .ok _

private theorem hexCode_contained (f : Flags) (digits : List Char) : Contained fun cs =>
    if digits.isEmpty || !digits.all isHexDigit then .error .hexadecimal
    else
      match hexChar? digits with
      | some c => .ok (Primitive.literal c false, advance f cs)
      | none => .error .hexadecimal := by
  refine .ite _ (.error _) ?_
  cases hexChar? digits with
  | none => exact .error _
  | some c => exact (Contained.ok _).advanced f

theorem readHex_contained (f : Flags) (count : Nat) : Contained (readHex f count) := by
  refine .branch (c := '\x7b') (by decide) (.braced f .hexadecimal (hexCode_contained f))
    (hexNumber_contained f count) (fun cs => rfl) fun cs head => ?_
  unfold readHex
  split
  · exact absurd rfl head
  · rfl

theorem foundProperty_contained (f : Flags) (negated : Bool) (found : Option (CharSet × Bool)) :
    Contained fun cs =>
      match found with
      | none => .error .property
      | some (s, unequal) =>
        if f.unicode then do
          let s ← complementIf f (negated != unequal) (foldSet f s)
          .ok (Primitive.set s, cs)
        else .error .notUnicode := by
  rcases found with _ | ⟨s, unequal⟩
  · exact .error _
  · exact .ite _ (.lift fun s => .ok _) (.error _)

private theorem letterProperty_contained (f : Flags) (negated : Bool) : Contained fun cs =>
    match cs with
    | [] => .error .escape
    | c :: rest =>
      if c = '\\' then .error .property
      else
        match (CharSet.byName? [c]).map fun s => (s, false) with
        | none => .error .property
        | some (s, unequal) =>
          if f.unicode then do
            let s ← complementIf f (negated != unequal) (foldSet f s)
            .ok (Primitive.set s, skip f rest)
          else .error .notUnicode :=
  .of_cons (by simp) fun _ => .ite _ (.error _) ((foundProperty_contained f negated _).skipped f)

theorem readProperty_contained (f : Flags) (negated : Bool) :
    Contained (readProperty f negated) := by
  refine .branch (c := '\x7b') (by decide)
    (.braced f .escape fun found => (foundProperty_contained f negated (propertySet? found)).dropped)
    (letterProperty_contained f negated) (fun cs => rfl) fun cs head => ?_
  rcases cs with _ | ⟨c, cs⟩
  · rfl
  · have other : c ≠ '\x7b' := by simpa using head
    simp only [readProperty]
    rfl

/-- The characters at the start for which a test holds, blanks that do not count left out, and
what follows. -/
def readWhile (test : Char → Bool) (f : Flags) : Nat → List Char → List Char × List Char
  | 0, cs => ([], cs)
  | fuel + 1, cs =>
    match cs with
    | [] => ([], [])
    | c :: _ =>
      if test c then
        let (found, rest) := readWhile test f fuel (advance f cs)
        (c :: found, rest)
      else ([], cs)

theorem readWhile_suffix (test : Char → Bool) (f : Flags) (fuel : Nat) (cs : List Char) :
    (readWhile test f fuel cs).2 <:+ cs := by
  induction fuel generalizing cs with
  | zero => exact List.suffix_rfl
  | succ fuel ih =>
    cases cs with
    | nil => exact List.suffix_rfl
    | cons c cs =>
      rw [readWhile]
      split
      · exact (ih _).trans (advance_suffix f _)
      · exact List.suffix_rfl

/-- Characters of a kind end before the end of the group, unless a comment hides that. -/
theorem readWhile_closing {test : Char → Bool} (refuses : test ')' = false) (f : Flags)
    {fuel enough : Nat} {cs : List Char} (wide : cs.length ≤ fuel) (bound : cs.length ≤ enough) :
    (readWhile test f fuel (cs ++ closing)).2 = [] ∨
      ∃ found left, readWhile test f fuel (cs ++ closing) = (found, left ++ closing) ∧
        readWhile test f enough cs = (found, left) := by
  induction fuel generalizing cs enough with
  | zero =>
    obtain rfl : cs = [] := List.length_eq_zero_iff.mp (Nat.le_zero.mp wide)
    exact .inr ⟨[], [], rfl, by cases enough <;> rfl⟩
  | succ fuel ih =>
    cases cs with
    | nil => exact .inr ⟨[], [], by simp [closing, readWhile, refuses], by cases enough <;> rfl⟩
    | cons c cs =>
      obtain ⟨enough, rfl⟩ : ∃ less, enough = less + 1 := ⟨enough - 1, by simp at bound; omega⟩
      rw [List.cons_append, readWhile, readWhile]
      split
      · rw [advance_cons, advance_cons]
        rcases skip_closing f cs with none | some
        · rw [none]
          exact .inl (by cases fuel <;> rfl)
        · have shorter := (skip_suffix f cs).length_le
          rw [some]
          refine (ih (Nat.le_trans shorter (Nat.le_of_succ_le_succ wide))
            (Nat.le_trans shorter (Nat.le_of_succ_le_succ bound))).imp id ?_
          rintro ⟨found, left, inside, alone⟩
          exact ⟨c :: found, left, by rw [inside], by rw [alone]⟩
      · exact .inr ⟨[], c :: cs, rfl, rfl⟩

private theorem readBoundaryName_eq (f : Flags) (fuel : Nat) (cs : List Char) :
    readBoundaryName f fuel cs = readWhile isBoundaryChar f fuel cs := by
  induction fuel generalizing cs with
  | zero => rfl
  | succ fuel ih => cases cs <;> simp only [readBoundaryName, readWhile, ih]

/-- The boundary whose name stands in braces, from its name on. -/
def readNamedBoundary (f : Flags) (fuel : Nat) (cs : List Char) :
    Except SyntaxFault (Primitive × List Char) :=
  match readWhile isBoundaryChar f fuel cs with
  | (name, '\x7d' :: after) =>
    match boundaryNamed? (String.ofList name) with
    | some condition => .ok (.look condition, after)
    | none => .error .wordBoundary
  | _ => .error .wordBoundary

theorem readBoundary_brace (f : Flags) (cs : List Char) :
    readBoundary f ('\x7b' :: cs) =
      match skip f cs with
      | [] => .error .wordBoundary
      | c :: inner =>
        if !isBoundaryChar c then .ok (.look .boundary, '\x7b' :: cs)
        else readNamedBoundary f (cs.length + 1) (c :: inner) := by
  simp only [readBoundary, advance_cons, readBoundaryName_eq, readNamedBoundary, List.length_cons]
  cases skip f cs with
  | nil => rfl
  | cons c inner =>
    dsimp only
    congr 1
    rcases readWhile isBoundaryChar f (cs.length + 1) (c :: inner) with ⟨name, _ | ⟨d, after⟩⟩
    · rfl
    · by_cases brace : d = '\x7d'
      · subst brace
        rfl
      · simp [brace]

theorem readBoundary_of_head {f : Flags} {cs : List Char} (other : cs.head? ≠ some '\x7b') :
    readBoundary f cs = .ok (.look .boundary, cs) := by
  rw [readBoundary]
  exact ne_cons_of_head? other

private theorem readNamedBoundary_suffix {f : Flags} {fuel : Nat} {cs rest : List Char}
    {p : Primitive} (done : readNamedBoundary f fuel cs = .ok (p, rest)) : rest <:+ cs := by
  have name := readWhile_suffix isBoundaryChar f fuel cs
  rw [readNamedBoundary] at done
  split at done
  · rename_i closed
    rw [closed] at name
    split at done
    · cases done
      exact (List.suffix_cons _ _).trans name
    · cases done
  · cases done

private theorem readNamedBoundary_closing {f : Flags} {fuel enough : Nat} {cs rest : List Char}
    {p : Primitive} (wide : cs.length ≤ fuel) (bound : cs.length ≤ enough)
    (done : readNamedBoundary f fuel (cs ++ closing) = .ok (p, rest)) :
    ∃ left, rest = left ++ closing ∧ readNamedBoundary f enough cs = .ok (p, left) := by
  rw [readNamedBoundary] at done ⊢
  rcases readWhile_closing (by decide : isBoundaryChar ')' = false) f wide bound
    with hidden | ⟨name, left, inside, alone⟩
  · split at done
    · rename_i closed
      rw [closed] at hidden
      cases hidden
    · cases done
  · rw [inside] at done
    rw [alone]
    rcases left with _ | ⟨d, left⟩
    · simp [closing] at done
    · by_cases brace : d = '\x7d'
      · subst brace
        cases named : boundaryNamed? (String.ofList name) with
        | none => simp [named] at done
        | some condition =>
          simp only [List.cons_append, named] at done ⊢
          cases done
          exact ⟨left, rfl, rfl⟩
      · simp [brace] at done

theorem readBoundary_suffix {f : Flags} {cs rest : List Char} {p : Primitive}
    (done : readBoundary f cs = .ok (p, rest)) : rest <:+ cs := by
  by_cases head : cs.head? = some '\x7b'
  · obtain ⟨cs, rfl⟩ := List.head?_eq_some_iff.mp head
    rw [readBoundary_brace] at done
    split at done
    · cases done
    · rename_i c inner ahead
      split at done
      · cases done
        exact List.suffix_rfl
      · have within : c :: inner <:+ cs := ahead ▸ skip_suffix f cs
        exact (readNamedBoundary_suffix done).trans (within.trans (List.suffix_cons _ cs))
  · rw [readBoundary_of_head head] at done
    cases done
    exact List.suffix_rfl

/-- In front of the end of the group, a brace after `\b` is left to be the start of a
repetition. -/
theorem readBoundary_closing {f : Flags} {cs rest : List Char} {p : Primitive}
    (done : readBoundary f (cs ++ closing) = .ok (p, rest)) :
    (∃ left, rest = left ++ closing ∧ readBoundary f cs = .ok (p, left)) ∨
      p = .look .boundary ∧ ∃ more, rest = '\x7b' :: more ∧ skip f more = closing := by
  by_cases head : cs.head? = some '\x7b'
  · obtain ⟨cs, rfl⟩ := List.head?_eq_some_iff.mp head
    rw [List.cons_append, readBoundary_brace] at done
    rw [readBoundary_brace]
    rcases skip_closing f cs with none | some
    · rw [none] at done
      cases done
    · rw [some] at done
      cases ahead : skip f cs with
      | nil =>
        rw [ahead] at done
        cases done
        exact .inr ⟨rfl, cs ++ closing, rfl, by rw [some, ahead]; rfl⟩
      | cons c inner =>
        rw [ahead] at done
        dsimp only [List.cons_append] at done ⊢
        have shorter : (c :: inner).length ≤ cs.length := ahead ▸ (skip_suffix f cs).length_le
        split at done
        · cases done
          exact .inl ⟨'\x7b' :: cs, rfl, if_pos ‹_›⟩
        · rw [if_neg ‹_›]
          refine .inl (readNamedBoundary_closing ?_ (Nat.le_succ_of_le shorter) done)
          rw [List.length_append]
          omega
  · have further : (cs ++ closing).head? ≠ some '\x7b' := fun brace =>
      head ((Contained.head?_stable (by decide) cs).mp brace)
    rw [readBoundary_of_head further] at done
    cases done
    exact .inl ⟨cs, rfl, readBoundary_of_head head⟩

/-- The letters that have a meaning after a backslash, other than that of a word boundary. -/
def escapeLetters : List Char :=
  ['x', 'u', 'U', 'p', 'P', 'd', 's', 'w', 'D', 'S', 'W', 'a', 'f', 't', 'n', 'r', 'v', 'A', 'z',
    'B', '<', '>']

theorem readEscape_contained (f : Flags) {c : Char} (other : c ≠ 'b') :
    Contained fun cs => readEscape f (c :: cs) := by
  have perl (letter : Char) : Contained fun cs =>
      (perlSet f letter).map fun s => (Primitive.set s, cs) := by
    cases perlSet f letter with
    | error fault => exact .error fault
    | ok s => exact .ok _
  by_cases letter : c ∈ escapeLetters
  · simp only [escapeLetters, List.mem_cons, List.not_mem_nil, or_false] at letter
    rcases letter with rfl | rfl | rfl | rfl | rfl | rfl | rfl | rfl | rfl | rfl | rfl | rfl | rfl |
      rfl | rfl | rfl | rfl | rfl | rfl | rfl | rfl | rfl
    · exact (readHex_contained f 2).skipped f
    · exact (readHex_contained f 4).skipped f
    · exact (readHex_contained f 8).skipped f
    · exact (readProperty_contained f false).skipped f
    · exact (readProperty_contained f true).skipped f
    · exact perl 'd'
    · exact perl 's'
    · exact perl 'w'
    · exact perl 'D'
    · exact perl 'S'
    · exact perl 'W'
    all_goals exact .ok _
  · have plain : Contained fun cs =>
        if isEscapable c then .ok (Primitive.literal c false, cs) else .error .escape :=
      .ite _ (.ok _) (.error _)
    simp only [readEscape]
    refine .ite _ (.error _) (.ite _ (.ok _) ?_)
    refine (congrArg Contained (funext fun cs => ?_)).mpr plain
    split <;> first | rfl | exact absurd (by decide) letter | exact absurd rfl other

theorem readEscape_suffix {f : Flags} {cs rest : List Char} {p : Primitive}
    (done : readEscape f cs = .ok (p, rest)) : rest <:+ cs := by
  cases cs with
  | nil => cases done
  | cons c cs =>
    refine List.IsSuffix.trans ?_ (List.suffix_cons c cs)
    by_cases boundary : c = 'b'
    · subst boundary
      exact readBoundary_suffix done
    · exact (readEscape_contained f boundary).leaves done

/-- An escape is read inside the group, but for the boundary in front of an open brace. -/
theorem readEscape_closing {f : Flags} {cs rest : List Char} {p : Primitive}
    (done : readEscape f (cs ++ closing) = .ok (p, rest)) :
    (rest <:+ ['$'] ∨ ∃ left, rest = left ++ closing ∧ readEscape f cs = .ok (p, left)) ∨
      p = .look .boundary ∧ ∃ more, rest = '\x7b' :: more ∧ skip f more = closing := by
  cases cs with
  | nil => exact .inl (.inl ((readEscape_contained f (by decide)).leaves done))
  | cons c cs =>
    by_cases boundary : c = 'b'
    · subst boundary
      exact (readBoundary_closing done).imp_left .inr
    · exact .inl ((readEscape_contained f boundary).inside cs done)

end Reshape.Regex
