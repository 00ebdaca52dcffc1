import Reshape.Proofs.Numerals
import Reshape.Proofs.Outcome
import Reshape.Transform.Formula

/-! How the text between the parentheses of a call falls into arguments. A quote opens or closes
a quoted text wherever it stands, and outside quoted texts parentheses are counted; a comma ends
an argument where none is open. -/

namespace Reshape.Transform.Formula

open Outcome

variable {cs rest : List Char} {depth : Nat}

/-- What can stand after `depth` open parentheses up to the end of an argument: outside quoted
texts it closes these parentheses and all that it opens, and commas stand inside of them. -/
inductive Completes : Nat → List Char → Prop where
  | done : Completes 0 []
  | char {depth : Nat} {c : Char} {rest : List Char} (plain : c ∉ ['\'', '(', ')'])
      (inside : c = ',' → depth ≠ 0) (later : Completes depth rest) : Completes depth (c :: rest)
  | quoted {depth : Nat} {inner rest : List Char} (unquoted : '\'' ∉ inner)
      (later : Completes depth rest) : Completes depth ('\'' :: inner ++ '\'' :: rest)
  | opening {depth : Nat} {rest : List Char} (later : Completes (depth + 1) rest) :
      Completes depth ('(' :: rest)
  | closing {depth : Nat} {rest : List Char} (later : Completes depth rest) :
      Completes (depth + 1) (')' :: rest)

theorem Completes.append {more : Nat} (first : Completes depth cs) (second : Completes more rest) :
    Completes (depth + more) (cs ++ rest) := by
  induction first with
  | done => simpa using second
  | char plain inside _ ih => exact .char plain (fun comma => by have := inside comma; omega) ih
  | @quoted depth inner _ unquoted _ ih =>
    have joined := Completes.quoted unquoted ih
    simpa using joined
  | opening _ ih => exact .opening (by rwa [Nat.add_right_comm])
  | closing _ ih =>
    rw [Nat.add_right_comm]
    exact .closing ih

theorem completes_of_plain (plain : ∀ c ∈ cs, c ∉ ['\'', '(', ')', ',']) : Completes 0 cs := by
  induction cs with
  | nil => exact .done
  | cons c rest ih =>
    have first := plain c (by simp)
    refine .char (fun other => first (by simp_all)) (fun comma => absurd ?_ first) ?_
    · simp [comma]
    · exact ih fun d member => plain d (by simp [member])

/-- A quoted text is part of the argument that it stands in. -/
theorem splitParts_quoted {inner : List Char} (unquoted : '\'' ∉ inner) (current : List Char) :
    splitParts depth true current (inner ++ '\'' :: rest) =
      splitParts depth false ('\'' :: inner.reverse ++ current) rest := by
  induction inner generalizing current with
  | nil => simp [splitParts]
  | cons c inner ih =>
    have other : c ≠ '\'' := fun same => unquoted (by simp [same])
    rw [List.cons_append, splitParts, if_neg other, if_pos rfl,
      ih fun member => unquoted (by simp [member])]
    simp

/-- What completes an argument is taken into it. -/
theorem splitParts_append (completes : Completes depth cs) (current : List Char) :
    splitParts depth false current (cs ++ rest) =
      splitParts 0 false (cs.reverse ++ current) rest := by
  induction completes generalizing current with
  | done => rfl
  | @char depth c later plain inside _ ih =>
    simp only [List.mem_cons, List.not_mem_nil, or_false, not_or] at plain
    have stays : ¬(c = ',' ∧ depth = 0) := fun both => inside both.1 both.2
    rw [List.cons_append, splitParts, if_neg plain.1, if_neg (by simp), if_neg plain.2.1,
      if_neg plain.2.2, if_neg stays, ih]
    simp
  | @quoted depth inner later unquoted _ ih =>
    rw [List.append_assoc, List.cons_append, List.cons_append, splitParts, if_pos rfl,
      Bool.not_false, splitParts_quoted unquoted, ih]
    simp
  | opening _ ih =>
    rw [List.cons_append, splitParts, if_neg (by decide), if_neg (by simp), if_pos rfl, ih]
    simp
  | closing _ ih =>
    rw [List.cons_append, splitParts, if_neg (by decide), if_neg (by simp), if_neg (by decide),
      if_pos rfl, if_neg (Nat.succ_ne_zero _), Nat.add_sub_cancel, ih]
    simp

theorem splitParts_of_completes (completes : Completes depth cs) (current : List Char) :
    splitParts depth false current cs = .ok [current.reverse ++ cs] := by
  have split : splitParts depth false current (cs ++ []) =
      splitParts 0 false (cs.reverse ++ current) [] := splitParts_append completes current
  rw [List.append_nil] at split
  simp [split, splitParts]

/-- The split gives back complete arguments that commas join. -/
theorem splitParts_intercalate {part : List Char} {parts : List (List Char)}
    (complete : ∀ p ∈ part :: parts, Completes 0 p) :
    splitParts 0 false [] ([','].intercalate (part :: parts)) = .ok (part :: parts) := by
  induction parts generalizing part with
  | nil =>
    rw [List.intercalate_singleton]
    exact splitParts_of_completes (complete part (by simp)) []
  | cons next parts ih =>
    have later := ih fun p member => complete p (List.mem_cons_of_mem _ member)
    rw [List.intercalate_cons_cons, List.append_assoc, splitParts_append (complete part (by simp)),
      List.singleton_append, splitParts, if_neg (by decide), if_neg (by simp), if_neg (by decide),
      if_neg (by decide), if_pos ⟨rfl, rfl⟩, later]
    simp [Except.map]

/-- Arguments with commas between them stand in parentheses. -/
theorem completes_intercalate {parts : List (List Char)} (complete : ∀ p ∈ parts, Completes 0 p) :
    Completes 1 ([','].intercalate parts ++ [')']) := by
  have last : Completes 1 [')'] := .closing .done
  induction parts with
  | nil => exact last
  | cons part rest ih =>
    have first := complete part (by simp)
    cases rest with
    | nil => simpa using first.append last
    | cons next more =>
      have later := ih fun p member => complete p (List.mem_cons_of_mem _ member)
      have comma : Completes 1 (',' :: ([','].intercalate (next :: more) ++ [')'])) :=
        .char (by decide) (fun _ => Nat.one_ne_zero) later
      simpa using first.append comma

private theorem splitParts_ne_nil (depth : Nat) (quoted : Bool) (current cs : List Char) :
    splitParts depth quoted current cs ≠ .ok [] := by
  induction cs generalizing depth quoted current with
  | nil => rw [splitParts]; split_ifs <;> simp
  | cons c rest ih =>
    rw [splitParts]
    split_ifs
    all_goals first
      | exact ih _ _ _
      | simp [map_eq_ok]

/-- A text that is one argument completes it. In a quoted text the quote that ends it comes
first. -/
theorem completes_of_splitParts {quoted : Bool} {current part : List Char}
    (whole : splitParts depth quoted current cs = .ok [part]) :
    if quoted then ∃ inner rest, '\'' ∉ inner ∧ cs = inner ++ '\'' :: rest ∧ Completes depth rest
    else Completes depth cs := by
  induction cs generalizing depth quoted current with
  | nil =>
    rw [splitParts] at whole
    split_ifs at whole with open_quote opened
    obtain rfl : depth = 0 := by simpa using opened
    rw [if_neg open_quote]
    exact .done
  | cons c cs ih =>
    rw [splitParts] at whole
    split_ifs at whole with quote inside opens closes none ends
    · subst quote
      cases quoted with
      | true => exact ⟨[], cs, by simp, rfl, ih whole⟩
      | false =>
        obtain ⟨inner, rest, unquoted, rfl, later⟩ := ih whole
        exact .quoted unquoted later
    · have later := ih whole
      rw [if_pos inside] at later ⊢
      obtain ⟨inner, rest, unquoted, rfl, completes⟩ := later
      exact ⟨c :: inner, rest, by simp [unquoted, Ne.symm quote], rfl, completes⟩
    all_goals rw [if_neg inside]
    · rw [opens]
      have later := ih whole
      rw [if_neg inside] at later
      exact .opening later
    · obtain ⟨depth, rfl⟩ := Nat.exists_eq_succ_of_ne_zero none
      have later := ih whole
      rw [if_neg inside] at later
      rw [closes]
      exact .closing later
    · obtain ⟨later, split, same⟩ := map_eq_ok.mp whole
      obtain rfl : later = [] := (List.cons.inj same).2
      exact absurd split (splitParts_ne_nil _ _ _ _)
    · have later := ih whole
      rw [if_neg inside] at later
      refine .char (by simp [quote, opens, closes]) (fun comma zero => ends ⟨comma, zero⟩) later

end Reshape.Transform.Formula
