import Reshape.Proofs.Regex.ContainedClasses
import Reshape.Regex.Expression

namespace Reshape.Regex

open Outcome

theorem readCountDigits_eq (f : Flags) (fuel : Nat) (cs : List Char) :
    readCountDigits f fuel cs = readWhile Decimal.isDigit f fuel cs := by
  induction fuel generalizing cs with
  | zero => rfl
  | succ fuel ih => cases cs <;> simp only [readCountDigits, readWhile, ih]

theorem dropCountBlanks_eq (f : Flags) (fuel : Nat) (cs : List Char) :
    dropCountBlanks f fuel cs = (readWhile Text.isBlank f fuel cs).2 := by
  induction fuel generalizing cs with
  | zero => rfl
  | succ fuel ih =>
    rcases cs with _ | ⟨c, cs⟩
    · rfl
    · simp only [dropCountBlanks, readWhile, ih]
      split <;> rfl

/-- The digits of a count, and what follows the blanks after them. -/
def countText (f : Flags) (cs : List Char) : List Char × List Char :=
  let found := readWhile Decimal.isDigit f cs.length (cs.dropWhile Text.isBlank)
  (found.1, (readWhile Text.isBlank f found.2.length found.2).2)

theorem countText_contained (f : Flags) : Contained fun cs => .ok (countText f cs) where
  leaves {cs digits rest} done := by
    have blanks := readWhile_suffix Text.isBlank f
    have digits := readWhile_suffix Decimal.isDigit f cs.length (cs.dropWhile Text.isBlank)
    cases done
    exact ((blanks _ _).trans digits).trans (List.dropWhile_suffix _)
  inside cs digits rest done := by
    have shorter : (cs.dropWhile Text.isBlank).length ≤ cs.length :=
      (List.dropWhile_suffix _).length_le
    have wide : (cs.dropWhile Text.isBlank).length ≤ (cs ++ closing).length := by
      rw [List.length_append]
      omega
    cases done
    simp only [countText, dropWhile_isBlank_closing]
    rcases readWhile_closing (by decide : Decimal.isDigit ')' = false) f wide shorter
      with hidden | ⟨digits, left, inside, alone⟩
    · rw [hidden]
      exact .inl List.nil_suffix
    · rw [inside, alone]
      have room : left.length ≤ (left ++ closing).length := by simp
      rcases readWhile_closing (by decide : Text.isBlank ')' = false) f room (Nat.le_refl _)
        with hidden | ⟨blanks, last, inside, alone⟩
      · rw [hidden]
        exact .inl List.nil_suffix
      · rw [inside, alone]
        exact .inr ⟨last, rfl, rfl⟩

/-- The count that digits spell, where one fits. -/
theorem counted_contained (digits : List Char) : Contained fun rest =>
    match Decimal.readNat digits with
    | none => .ok ((none : Option Nat), rest)
    | some n => if n < 4294967296 then .ok (some n, rest) else .error .repetition := by
  cases Decimal.readNat digits with
  | none => exact .ok none
  | some n => exact .ite _ (.ok (some n)) (.error _)

private theorem readCount_eq (f : Flags) (cs : List Char) :
    readCount f cs = Except.ok (countText f cs) >>= fun (digits, rest) =>
      match Decimal.readNat digits with
      | none => .ok ((none : Option Nat), rest)
      | some n => if n < 4294967296 then .ok (some n, rest) else .error .repetition := by
  simp only [readCount, readCountDigits_eq, dropCountBlanks_eq, countText]
  rfl

theorem readCount_contained (f : Flags) : Contained (readCount f) := by
  rw [funext (readCount_eq f)]
  exact (countText_contained f).bind counted_contained

theorem readLazy_contained : Contained fun cs => .ok (readLazy cs) := by
  refine .branch (c := '?') (by decide) (Contained.ok true).dropped (.ok false) (fun cs => rfl)
    fun cs head => ?_
  rw [readLazy]
  exact ne_cons_of_head? head

/-- The upper bound of a repetition, after the comma. -/
def readBound (f : Flags) (cs : List Char) : Except SyntaxFault (Option Nat × List Char) :=
  match cs with
  | '\x7d' :: after => .ok (none, '\x7d' :: after)
  | after => do
    let (most, rest) ← readCount f after
    match most with
    | none => .error .repetition
    | some most => .ok (some most, rest)

theorem readBound_of_head {f : Flags} {cs : List Char} (other : cs.head? ≠ some '\x7d') :
    readBound f cs = (do
      let (most, rest) ← readCount f cs
      match most with
      | none => .error .repetition
      | some most => .ok (some most, rest)) := by
  rw [readBound]
  exact ne_cons_of_head? other

private theorem readBound_contained (f : Flags) : Contained (readBound f) := by
  refine .branch (c := '\x7d') (by decide) (.ok none) ((readCount_contained f).bind fun most => ?_)
    (fun cs => rfl) fun cs => readBound_of_head
  cases most with
  | none => exact .error _
  | some most => exact .ok _

/-- The upper bound of a repetition, after its lower one. -/
def readUpper (f : Flags) (least : Nat) (cs : List Char) :
    Except SyntaxFault (Option Nat × List Char) :=
  match cs with
  | ',' :: _ => readBound f (advance f cs)
  | _ => .ok (some least, cs)

theorem readUpper_of_head {f : Flags} {least : Nat} {cs : List Char}
    (other : cs.head? ≠ some ',') : readUpper f least cs = .ok (some least, cs) := by
  rw [readUpper]
  exact ne_cons_of_head? other

theorem readUpper_contained (f : Flags) (least : Nat) : Contained (readUpper f least) :=
  .branch (c := ',') (by decide) ((readBound_contained f).advanced f) (.ok (some least))
    (fun _ => rfl) fun _ => readUpper_of_head

/-- The end of a repetition in braces, after its bounds. -/
def readBrace (g : OpenGroup) (least : Nat) (most : Option Nat) (cs : List Char) :
    Except SyntaxFault (OpenGroup × List Char) :=
  match cs with
  | '\x7d' :: _ =>
    let (lazy, rest) := readLazy (advance g.flags cs)
    if most.any (· < least) then .error .repetition
    else do
      let g ← repeatLast g least most lazy
      .ok (g, rest)
  | _ => .error .repetition

private theorem readBrace_contained (g : OpenGroup) (least : Nat) (most : Option Nat) :
    Contained (readBrace g least most) := by
  have repeated : Contained (fun cs => Except.ok (readLazy cs) >>= fun (lazy, rest) =>
      if most.any (· < least) then .error .repetition
      else do
        let g ← repeatLast g least most lazy
        .ok (g, rest)) :=
    readLazy_contained.bind fun lazy => .ite _ (.error _) (.lift fun g => .ok g)
  refine .branch (c := '\x7d') (by decide) (repeated.advanced g.flags) (.error .repetition)
    (fun cs => rfl) fun cs head => ?_
  rw [readBrace]
  exact ne_cons_of_head? head

theorem readCounted_eq (g : OpenGroup) (cs : List Char) :
    readCounted g cs = (do
      let _ ← repeatLast g 0 none false
      let (least, rest) ← readCount g.flags (advance g.flags cs)
      match least with
      | none => .error .repetition
      | some least => do
        let (most, rest) ← readUpper g.flags least rest
        readBrace g least most rest) := by
  unfold readCounted
  refine congrArg _ (funext fun _ => congrArg _ (funext fun counted => ?_))
  obtain ⟨_ | least, rest⟩ := counted
  · rfl
  · dsimp only
    split
    · simp only [readUpper]
      split
      · rename_i ahead
        rw [ahead]
        rfl
      · rename_i other
        rw [readBound_of_head fun head => ?_]
        · rw [bind_assoc]
          refine congrArg _ (funext fun counted => ?_)
          obtain ⟨_ | most, rest⟩ := counted <;> rfl
        · obtain ⟨after, same⟩ := List.head?_eq_some_iff.mp head
          exact other after same
    · rename_i other
      rw [readUpper_of_head fun head => ?_]
      · rfl
      · obtain ⟨after, same⟩ := List.head?_eq_some_iff.mp head
        exact other after same

theorem readCounted_contained (g : OpenGroup) (c : Char) :
    Contained fun cs => readCounted g (c :: cs) := by
  simp only [readCounted_eq, advance_cons]
  refine .lift fun _ => ((readCount_contained g.flags).skipped g.flags).bind fun least => ?_
  cases least with
  | none => exact .error _
  | some least =>
    exact (readUpper_contained g.flags least).bind fun most => readBrace_contained g least most

theorem readFlags_suffix {f g : Flags} {seen : List Char} {minus dangling unchanged : Bool}
    {cs rest : List Char} (done : readFlags f seen minus dangling cs = .ok (g, unchanged, rest)) :
    rest <:+ cs := by
  induction cs generalizing f seen minus dangling with
  | nil => cases done
  | cons c cs ih =>
    rw [readFlags] at done
    split at done
    · split at done
      · cases done
      · cases done
        exact List.suffix_rfl
    refine List.IsSuffix.trans ?_ (List.suffix_cons c cs)
    split at done
    · split at done
      · cases done
      · exact ih done
    split at done
    · cases done
    split at done
    · exact ih done
    · cases done

/-- A change of flags may end with the group. -/
theorem readFlags_closing {f g : Flags} {seen : List Char} {minus dangling unchanged : Bool}
    {cs rest : List Char}
    (done : readFlags f seen minus dangling (cs ++ closing) = .ok (g, unchanged, rest)) :
    rest = closing ∨
      ∃ left, rest = left ++ closing ∧
        readFlags f seen minus dangling cs = .ok (g, unchanged, left) := by
  induction cs generalizing f seen minus dangling with
  | nil =>
    rw [List.nil_append, closing, readFlags, if_pos (.inr rfl)] at done
    split at done
    · cases done
    · cases done
      exact .inl rfl
  | cons c cs ih =>
    rw [List.cons_append, readFlags] at done
    rw [readFlags]
    split at done
    · rename_i ends
      rw [if_pos ends]
      split at done
      · cases done
      · rename_i complete
        cases done
        exact .inr ⟨c :: cs, rfl, if_neg complete⟩
    rename_i inner
    rw [if_neg inner]
    split at done
    · rename_i sign
      rw [if_pos sign]
      split at done
      · cases done
      · rename_i first
        rw [if_neg first]
        exact ih done
    rename_i letter
    rw [if_neg letter]
    split at done
    · cases done
    rename_i fresh
    rw [if_neg fresh]
    cases set : f.set? c (!minus) with
    | none =>
      rw [set] at done
      cases done
    | some f =>
      rw [set] at done
      exact ih done

theorem readGroupName_contained (names : List String) : Contained (readGroupName names) where
  leaves {cs name rest} done := by
    simp only [readGroupName, List.span_eq_takeWhile_dropWhile] at done
    split at done
    · rename_i c after found
      have within : c :: after <:+ cs := (Prod.mk.inj found).2 ▸ List.dropWhile_suffix _
      split at done
      · cases done
      split at done
      · cases done
      · cases done
        exact (List.suffix_cons c _).trans within
    · cases done
  inside cs name rest done := by
    have gone : closing.dropWhile (· != '>') = [] := by decide
    rw [readGroupName, List.span_eq_takeWhile_dropWhile] at done ⊢
    rcases span_closing gone cs with ⟨alone, inside⟩ | ⟨c, after, alone, inside, same⟩
    · rw [inside] at done
      cases done
    · rw [inside, same] at done
      rw [alone]
      dsimp only at done ⊢
      split at done
      · cases done
      rename_i valid
      rw [if_neg valid]
      split at done
      · cases done
      rename_i fresh
      cases done
      exact .inr ⟨after, rfl, if_neg fresh⟩

namespace Reader

variable (r : Reader)

/-- What stands after the flags of a group: the end of a change of flags, or a colon. -/
def afterFlags (inner : Flags) (unchanged : Bool) (cs : List Char) :
    Except SyntaxFault (Reader × List Char) :=
  match cs with
  | ')' :: after =>
    if unchanged then .error .nothingToRepeat
    else .ok ({ r with current := { r.current with flags := inner }.add ⟨.empty, 0, false⟩ }, after)
  | _ => .ok (r.enter inner false, cs.drop 1)

variable {r} in
private theorem afterFlags_suffix {inner : Flags} {unchanged : Bool} {cs rest : List Char}
    {r' : Reader}
    (done : r.afterFlags inner unchanged cs = .ok (r', rest)) : rest <:+ cs.drop 1 := by
  unfold afterFlags at done
  split at done
  · split at done
    · cases done
    · cases done
      exact List.suffix_rfl
  · cases done
    exact List.suffix_rfl

private theorem afterFlags_closing (inner : Flags) (unchanged : Bool) (c : Char) (cs : List Char) :
    r.afterFlags inner unchanged (c :: cs ++ closing) =
      (r.afterFlags inner unchanged (c :: cs)).map fun (r, rest) => (r, rest ++ closing) := by
  by_cases changes : c = ')'
  · subst changes
    cases unchanged <;> rfl
  · have other {cs : List Char} : (c :: cs).head? ≠ some ')' := by simpa using changes
    rw [List.cons_append, afterFlags, afterFlags]
    · rfl
    all_goals exact ne_cons_of_head? other

/-- A change of flags, or a group with flags, after its question mark. -/
def readFlagGroup (cs : List Char) : Except SyntaxFault (Reader × List Char) := do
  let (inner, unchanged, after) ← readFlags r.current.flags [] false false cs
  r.afterFlags inner unchanged after

private theorem readFlagGroup_contained : Contained r.readFlagGroup where
  leaves {cs r' rest} done := by
    obtain ⟨⟨inner, unchanged, after⟩, flags, done⟩ := bind_eq_ok.mp done
    exact ((afterFlags_suffix done).trans (List.drop_suffix 1 _)).trans (readFlags_suffix flags)
  inside cs r' rest done := by
    obtain ⟨⟨inner, unchanged, after⟩, flags, done⟩ := bind_eq_ok.mp done
    rcases readFlags_closing flags with rfl | ⟨_ | ⟨c, left⟩, rfl, alone⟩
    · exact .inl (afterFlags_suffix done)
    · exact .inl (afterFlags_suffix done)
    · dsimp only at done
      rw [afterFlags_closing] at done
      obtain ⟨⟨r', last⟩, after, same⟩ := map_eq_ok.mp done
      cases same
      exact .inr ⟨last, rfl, bind_eq_ok.mpr ⟨_, alone, after⟩⟩

private theorem openNamed_contained : Contained r.openNamed :=
  (readGroupName_contained r.names).bind fun _ => .ok _

/-- What follows the question mark of a group. -/
def readMark (cs : List Char) : Except SyntaxFault (Reader × List Char) :=
  if cs.head? = some '=' then .error .lookAround
  else if cs.head? = some '!' then .error .lookAround
  else if cs.take 2 = ['<', '='] then .error .lookAround
  else if cs.take 2 = ['<', '!'] then .error .lookAround
  else if cs.take 2 = ['P', '<'] then r.openNamed (cs.drop 2)
  else if cs.head? = some '<' then r.openNamed (cs.drop 1)
  else r.readFlagGroup cs

theorem readMark_contained : Contained r.readMark := by
  have named := r.openNamed_contained
  have twice : Contained fun cs => r.openNamed (cs.drop 2) := by
    have := named.dropped.dropped
    simpa using this
  refine .choose (Contained.head?_stable (by decide)) (.error _) ?_
  refine .choose (Contained.head?_stable (by decide)) (.error _) ?_
  refine .choose (Contained.take_stable (by decide) (by decide)) (.error _) ?_
  refine .choose (Contained.take_stable (by decide) (by decide)) (.error _) ?_
  refine .choose (Contained.take_stable (by decide) (by decide)) twice ?_
  exact .choose (Contained.head?_stable (by decide)) named.dropped r.readFlagGroup_contained

private theorem cons_of_take {c d : Char} {cs : List Char} (starts : cs.take 2 = [c, d]) :
    cs = c :: d :: cs.drop 2 := by
  rw [← List.take_append_drop 2 cs, starts]
  rfl

private theorem readGroup_mark {cs rest : List Char}
    (ahead : skip r.current.flags cs = '?' :: rest) : r.readGroup cs = r.readMark rest := by
  rw [readGroup, ahead]
  by_cases equal : rest.head? = some '='
  · obtain ⟨rest, rfl⟩ := List.head?_eq_some_iff.mp equal
    rfl
  by_cases bang : rest.head? = some '!'
  · obtain ⟨rest, rfl⟩ := List.head?_eq_some_iff.mp bang
    rfl
  by_cases behind : rest.take 2 = ['<', '=']
  · rw [cons_of_take behind]
    rfl
  by_cases notBehind : rest.take 2 = ['<', '!']
  · rw [cons_of_take notBehind]
    rfl
  by_cases named : rest.take 2 = ['P', '<']
  · rw [cons_of_take named]
    rfl
  rw [readMark, if_neg equal, if_neg bang, if_neg behind, if_neg notBehind, if_neg named]
  by_cases angle : rest.head? = some '<'
  · rw [if_pos angle]
    obtain ⟨rest, rfl⟩ := List.head?_eq_some_iff.mp angle
    split <;> rename_i same
    case h_3 =>
      cases same
      exact absurd rfl behind
    case h_4 =>
      cases same
      exact absurd rfl notBehind
    case h_6 =>
      cases same
      rfl
    case h_7 different =>
      cases same
      exact absurd rfl (different rest)
    case h_8 => exact absurd rfl (same _)
    all_goals cases same
  · rw [if_neg angle]
    split <;> rename_i same
    case h_7 =>
      cases same
      rfl
    case h_8 => exact absurd rfl (same _)
    all_goals
      cases same
      contradiction

theorem readGroup_eq (cs : List Char) :
    r.readGroup cs =
      if (skip r.current.flags cs).head? = some '?' then
        r.readMark ((skip r.current.flags cs).drop 1)
      else .ok (r.enter r.current.flags true, skip r.current.flags cs) := by
  by_cases mark : (skip r.current.flags cs).head? = some '?'
  · obtain ⟨rest, ahead⟩ := List.head?_eq_some_iff.mp mark
    rw [if_pos mark, r.readGroup_mark ahead, ahead]
    rfl
  · rw [if_neg mark, readGroup]
    generalize skip r.current.flags cs = ahead at mark
    split
    all_goals first | rfl | exact absurd rfl mark

private theorem readGroup_contained : Contained r.readGroup := by
  have marked : Contained fun cs =>
      if cs.head? = some '?' then r.readMark (cs.drop 1)
      else .ok (r.enter r.current.flags true, cs) :=
    .choose (Contained.head?_stable (by decide)) r.readMark_contained.dropped (.ok _)
  rw [show r.readGroup = _ from funext r.readGroup_eq]
  exact marked.skipped r.current.flags

private theorem repeatMark_contained (least : Nat) (most : Option Nat) :
    Contained (r.repeatMark least most) := by
  have lazy : Contained (fun cs => Except.ok (readLazy cs) >>= fun (lazy, rest) => do
      let g ← repeatLast r.current least most lazy
      .ok (r.update g, rest)) :=
    readLazy_contained.bind fun lazy => .lift fun g => .ok (r.update g)
  exact lazy

/-- The characters that have a meaning of their own, but for the backslash. -/
def marks : List Char := ['(', ')', '|', '[', '?', '*', '+', '\x7b', '.', '^', '$']

theorem step_contained {c : Char} (plain : c ≠ '\\') : Contained (r.step c) := by
  have single (p : Except SyntaxFault Pattern) : Contained fun cs =>
      p.map fun p => (r.add p 0, cs) := by
    cases p with
    | error fault => exact .error fault
    | ok p => exact .ok _
  by_cases marked : c ∈ marks
  · simp only [marks, List.mem_cons, List.not_mem_nil, or_false] at marked
    rcases marked with rfl | rfl | rfl | rfl | rfl | rfl | rfl | rfl | rfl | rfl | rfl
    · exact r.readGroup_contained
    · have closed : Contained fun cs => r.close.map fun r => (r, cs) := by
        cases r.close with
        | error fault => exact .error fault
        | ok r => exact .ok r
      exact closed
    · exact .ok _
    · exact (readClass_contained r.current.flags '[').map fun m => r.add (.set m.set) m.height
    · exact r.repeatMark_contained 0 (some 1)
    · exact r.repeatMark_contained 0 none
    · exact r.repeatMark_contained 1 none
    · exact (readCounted_contained r.current '\x7b').map r.update
    · exact single (dot r.current.flags)
    · exact .ok _
    · exact .ok _
  · have literal := single (literal r.current.flags c false)
    refine (congrArg Contained (funext fun cs => ?_)).mpr literal
    unfold step
    split <;> first | rfl | exact absurd (by decide) marked | exact absurd rfl plain

variable {r} in
theorem step_suffix {c : Char} {cs rest : List Char} {r' : Reader}
    (done : r.step c cs = .ok (r', rest)) : rest <:+ cs := by
  by_cases escape : c = '\\'
  · subst escape
    obtain ⟨⟨p, after⟩, read, done⟩ := bind_eq_ok.mp done
    obtain ⟨p, -, done⟩ := bind_eq_ok.mp done
    cases done
    exact readEscape_suffix read
  · exact (r.step_contained escape).leaves done

variable {r} in
/-- A step is made inside the group, but for the boundary in front of an open brace. -/
theorem step_closing {c : Char} {cs rest : List Char} {r' : Reader}
    (done : r.step c (cs ++ closing) = .ok (r', rest)) :
    (rest <:+ ['$'] ∨ ∃ left, rest = left ++ closing ∧ r.step c cs = .ok (r', left)) ∨
      ∃ more, rest = '\x7b' :: more ∧ skip r'.current.flags more = closing := by
  by_cases escape : c = '\\'
  · subst escape
    obtain ⟨⟨p, after⟩, read, done⟩ := bind_eq_ok.mp done
    obtain ⟨q, found, done⟩ := bind_eq_ok.mp done
    cases done
    refine (readEscape_closing read).imp (Or.imp_right ?_) And.right
    exact fun ⟨left, same, alone⟩ =>
      ⟨left, same, bind_eq_ok.mpr ⟨_, alone, bind_eq_ok.mpr ⟨q, found, rfl⟩⟩⟩
  · exact .inl ((r.step_contained escape).inside cs done)

/-- A reader inside one more group, which is around all others. -/
def within (base : OpenGroup) : Reader :=
  { r with outer := r.outer ++ [base] }

private theorem openNamed_within (base : OpenGroup) (cs : List Char) :
    (r.within base).openNamed cs =
      (r.openNamed cs).map fun (r', rest) => (r'.within base, rest) := by
  rw [openNamed, openNamed]
  change readGroupName r.names cs >>= _ = _
  cases readGroupName r.names cs <;> rfl

private theorem readFlagGroup_within (base : OpenGroup) (cs : List Char) :
    (r.within base).readFlagGroup cs =
      (r.readFlagGroup cs).map fun (r', rest) => (r'.within base, rest) := by
  rw [readFlagGroup, readFlagGroup]
  change readFlags r.current.flags [] false false cs >>= _ = _
  rcases readFlags r.current.flags [] false false cs with _ | ⟨inner, unchanged, after⟩
  · rfl
  · dsimp only [ok_bind]
    unfold afterFlags
    split
    · cases unchanged <;> rfl
    · rfl

private theorem readMark_within (base : OpenGroup) (cs : List Char) :
    (r.within base).readMark cs =
      (r.readMark cs).map fun (r', rest) => (r'.within base, rest) := by
  unfold readMark
  split
  · rfl
  split
  · rfl
  split
  · rfl
  split
  · rfl
  split
  · exact r.openNamed_within base _
  split
  · exact r.openNamed_within base _
  · exact r.readFlagGroup_within base cs

private theorem readGroup_within (base : OpenGroup) (cs : List Char) :
    (r.within base).readGroup cs =
      (r.readGroup cs).map fun (r', rest) => (r'.within base, rest) := by
  rw [readGroup_eq, readGroup_eq]
  change (if (skip r.current.flags cs).head? = some '?' then _ else _) = _
  split
  · exact r.readMark_within base _
  · rfl

private theorem repeatMark_within (base : OpenGroup) (least : Nat) (most : Option Nat)
    (cs : List Char) :
    (r.within base).repeatMark least most cs =
      (r.repeatMark least most cs).map fun (r', rest) => (r'.within base, rest) := by
  let lazy := (readLazy cs).1
  change (repeatLast r.current least most lazy >>= _) =
    Except.map _ (repeatLast r.current least most lazy >>= _)
  cases repeatLast r.current least most lazy <;> rfl

/-- A step of a reader does not depend on a group around all others, unless it closes that. -/
theorem step_within (base : OpenGroup) {c : Char} (inner : c ≠ ')' ∨ r.outer ≠ [])
    (cs : List Char) :
    (r.within base).step c cs = (r.step c cs).map fun (r', rest) => (r'.within base, rest) := by
  have map_map {α β γ : Type} (x : Except SyntaxFault α) (f : α → β) (g : β → γ) :
      (x.map f).map g = x.map fun a => g (f a) := by
    cases x <;> rfl
  unfold step
  split
  · exact r.readGroup_within base cs
  · rw [map_map]
    rcases r with ⟨current, _ | ⟨parent, outer⟩, names⟩
    · exact absurd rfl (inner.resolve_left fun other => other rfl)
    · rfl
  · rfl
  · rw [map_map]
    rfl
  · exact r.repeatMark_within base 0 (some 1) cs
  · exact r.repeatMark_within base 0 none cs
  · exact r.repeatMark_within base 1 none cs
  · rw [map_map]
    rfl
  · change readEscape r.current.flags cs >>= _ = Except.map _ (readEscape r.current.flags cs >>= _)
    rcases readEscape r.current.flags cs with _ | ⟨p, rest⟩
    · rfl
    · change primitive r.current.flags p >>= _ = Except.map _ (primitive r.current.flags p >>= _)
      cases primitive r.current.flags p <;> rfl
  · rw [map_map]
    rfl
  · rfl
  · rfl
  · rw [map_map]
    rfl

/-- An expression ends too early where a group is open. -/
theorem run_nil {fuel : Nat} {whole : Part} (outer : r.outer ≠ []) :
    run fuel r [] ≠ .ok whole := by
  intro done
  cases fuel with
  | zero => cases done
  | succ fuel =>
    rw [run, skip_nil] at done
    simp [outer] at done

theorem run_past {fuel : Nat} {cs : List Char} {whole : Part} (outer : r.outer ≠ [])
    (past : cs <:+ ['$']) : run fuel r cs ≠ .ok whole := by
  intro done
  rcases List.suffix_cons_iff.mp past with rfl | past
  · cases fuel with
    | zero => cases done
    | succ fuel =>
      have ahead : skip r.current.flags ['$'] = ['$'] := advance_closing r.current.flags
      rw [run, ahead] at done
      exact run_nil (r.add (dollar r.current.flags) 0) outer done
  · obtain rfl := List.suffix_nil.mp past
    exact r.run_nil outer done

/-- A brace in front of the end of a group starts no repetition. -/
theorem run_brace {fuel : Nat} {more : List Char} {whole : Part}
    (ahead : skip r.current.flags more = closing) : run fuel r ('\x7b' :: more) ≠ .ok whole := by
  intro done
  cases fuel with
  | zero => cases done
  | succ fuel =>
    have solid : skip r.current.flags ('\x7b' :: more) = '\x7b' :: more := by
      rw [skip]
      split <;> simp [dropBlanks, Text.isBlank]
    rw [run, solid] at done
    obtain ⟨⟨r', rest⟩, step, -⟩ := bind_eq_ok.mp done
    obtain ⟨⟨g, rest⟩, counted, -⟩ := map_eq_ok.mp step
    rw [readCounted_eq] at counted
    obtain ⟨_, -, counted⟩ := bind_eq_ok.mp counted
    obtain ⟨⟨least, rest⟩, count, counted⟩ := bind_eq_ok.mp counted
    rw [advance_cons, ahead] at count
    have none : readCount r.current.flags closing = .ok (none, closing) := rfl
    rw [none] at count
    cases count
    cases counted

/-- The end of the text, after the groups of an expression are closed. -/
theorem run_dollar {g : OpenGroup} {names : List String} {fuel : Nat} {whole : Part}
    (done : run fuel ⟨g, [], names⟩ ['$'] = .ok whole) :
    whole = (g.add ⟨dollar g.flags, 0, true⟩).body := by
  have ahead : skip g.flags ['$'] = ['$'] := advance_closing g.flags
  rcases fuel with _ | _ | fuel
  · cases done
  · rw [run, ahead] at done
    cases done
  · rw [run, ahead] at done
    change run (fuel + 1) ⟨g.add ⟨dollar g.flags, 0, true⟩, [], names⟩ [] = _ at done
    rw [run, skip_nil] at done
    cases done
    rfl

variable {r} in
/-- The end of the group closes it and ends the text, where no other group is open. -/
theorem run_end {base : OpenGroup} {fuel : Nat} {r' : Reader} {whole : Part}
    (closed : (r.within base).close = .ok r') (done : run fuel r' ['$'] = .ok whole) :
    r.outer = [] ∧ whole = ((base.add r.current.close).add ⟨dollar base.flags, 0, true⟩).body := by
  rcases r with ⟨current, _ | ⟨parent, around⟩, names⟩
  · cases closed
    exact ⟨rfl, run_dollar done⟩
  · cases closed
    exact absurd done (run_past _ (by simp) List.suffix_rfl)

variable {r} in
/-- A step inside the group, when it does not close that, is the step alone, or else nothing that
follows makes the expression whole. -/
theorem step_enclosed {base : OpenGroup} {c : Char} {cs after : List Char} {next : Reader}
    (inner : c ≠ ')' ∨ r.outer ≠ [])
    (done : (r.within base).step c (cs ++ closing) = .ok (next, after)) :
    (∃ r' left, r.step c cs = .ok (r', left) ∧ next = r'.within base ∧ after = left ++ closing) ∨
      ∀ fuel whole, run fuel next after ≠ .ok whole := by
  rw [r.step_within base inner] at done
  obtain ⟨⟨r', after⟩, step, same⟩ := map_eq_ok.mp done
  cases same
  rcases step_closing step with (past | ⟨left, rfl, alone⟩) | ⟨more, rfl, brace⟩
  · exact .inr fun fuel whole => run_past _ (by simp [within]) past
  · exact .inl ⟨r', left, alone, rfl, rfl⟩
  · exact .inr fun fuel whole => run_brace _ brace

variable {r} in
/-- An expression in a group is the expression alone, and then the end of the text, unless a
parenthesis in it closes the group. -/
theorem run_within {base : OpenGroup} {fuel enough : Nat} {cs : List Char} {whole : Part}
    (bound : cs.length < enough)
    (done : run fuel (r.within base) (cs ++ closing) = .ok whole) :
    run enough r cs = .error .unopenedGroup ∨
      ∃ g : OpenGroup, run enough r cs = .ok g.body ∧
        whole = ((base.add g.close).add ⟨dollar base.flags, 0, true⟩).body := by
  induction fuel generalizing r cs enough with
  | zero => cases done
  | succ fuel ih =>
    obtain ⟨enough, rfl⟩ : ∃ less, enough = less + 1 := ⟨enough - 1, by omega⟩
    have flags : (r.within base).current.flags = r.current.flags := rfl
    rw [run, flags] at done
    rw [run]
    rcases skip_closing r.current.flags cs with none | some
    · rw [none] at done
      simp [within] at done
    rw [some] at done
    cases ahead : skip r.current.flags cs with
    | nil =>
      rw [ahead] at done
      obtain ⟨⟨r', rest⟩, step, done⟩ := bind_eq_ok.mp done
      obtain ⟨r', closed, same⟩ := map_eq_ok.mp step
      cases same
      obtain ⟨outermost, rfl⟩ := run_end closed done
      exact .inr ⟨r.current, if_pos (by simp [outermost]), rfl⟩
    | cons c rest =>
      have shorter := (skip_suffix r.current.flags cs).length_le
      rw [ahead, List.length_cons] at shorter
      rw [ahead] at done
      obtain ⟨⟨next, after⟩, step, done⟩ := bind_eq_ok.mp done
      by_cases last : c = ')' ∧ r.outer = []
      · obtain ⟨rfl, none⟩ := last
        refine .inl ?_
        rcases r with ⟨current, outer, names⟩
        subst none
        rfl
      · rw [List.append_eq] at step
        rcases step_enclosed (not_and_or.mp last) step with ⟨r', left, alone, rfl, rfl⟩ | broken
        · have within := (step_suffix alone).length_le
          dsimp only
          rw [alone]
          exact ih (by omega : left.length < enough) done
        · exact absurd done (broken fuel whole)

end Reader

end Reshape.Regex
