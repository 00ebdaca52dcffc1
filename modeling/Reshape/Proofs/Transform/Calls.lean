import Mathlib.Data.List.TakeDrop
import Reshape.Proofs.Transform.Arguments

namespace Reshape.Transform.Formula

open Decimal Outcome

variable {functions : Registry}

/-- Whether a call can have a name: it is made of the characters of names. -/
def IsName (name : String) : Prop :=
  name ≠ "" ∧ ∀ c ∈ name.toList, isNameChar c = true

/-- A function of a registry under a name that a call can have. -/
structure Callee (functions : Registry) where
  name : String
  function : Function
  registered : functions.get? name = some function
  isName : IsName name

mutual

/-- A call with the current value as its argument, or with arguments of its own. -/
inductive Call (functions : Registry) where
  | current (callee : Callee functions)
  | applied (callee : Callee functions) (args : List (Argument functions))

inductive Argument (functions : Registry) where
  | quoted (text : String) (unquoted : '\'' ∉ text.toList)
  | integer (n : Int) (fits : minInteger ≤ n ∧ n ≤ maxInteger)
  | truth (value : Bool)
  | null
  | call (call : Call functions)

end

mutual

def Call.chars : Call functions → List Char
  | .current callee => callee.name.toList
  | .applied callee args =>
    callee.name.toList ++ '(' :: ([','].intercalate (Call.parts args) ++ [')'])

def Argument.chars : Argument functions → List Char
  | .quoted text _ => '\'' :: text.toList ++ ['\'']
  | .integer n _ => (intText n).toList
  | .truth value => (if value then "true" else "false").toList
  | .null => "null".toList
  | .call c => '=' :: c.chars

def Call.parts : List (Argument functions) → List (List Char)
  | [] => []
  | arg :: rest => arg.chars :: Call.parts rest

end

mutual

def Call.formula : Call functions → Formula
  | .current callee => .callCurrent callee.name callee.function
  | .applied callee args => .call callee.name callee.function (Call.formulas args)

def Argument.formula : Argument functions → Formula
  | .quoted text _ => .literal (.str text)
  | .integer n _ => .literal (.ofInt n)
  | .truth value => .literal (.bool value)
  | .null => .literal .null
  | .call c => c.formula

def Call.formulas : List (Argument functions) → List Formula
  | [] => []
  | arg :: rest => arg.formula :: Call.formulas rest

end

def Call.text (c : Call functions) : String :=
  String.ofList ('=' :: c.chars)

theorem isNameChar_of_isDigit {c : Char} (digit : isDigit c = true) : isNameChar c = true := by
  simp [isNameChar, digit]

theorem isBlank_of_isNameChar {c : Char} (name : isNameChar c = true) : Text.isBlank c = false := by
  rw [isNameChar, Bool.or_eq_true, Bool.or_eq_true, Bool.or_eq_true] at name
  have letter (range : 65 ≤ c.toNat ∧ c.toNat ≤ 122) : Text.isBlank c = false := by
    simp only [Text.isBlank, Bool.or_eq_false_iff, Bool.and_eq_false_iff, decide_eq_false_iff_not,
      beq_eq_false_iff_ne]
    omega
  rcases name with ((lower | upper) | digit) | underscore
  · have range : 97 ≤ c.toNat ∧ c.toNat ≤ 122 := by
      simpa [Char.le_def, UInt32.le_iff_toNat_le] using lower
    exact letter ⟨by omega, by omega⟩
  · have range : 65 ≤ c.toNat ∧ c.toNat ≤ 90 := by
      simpa [Char.le_def, UInt32.le_iff_toNat_le] using upper
    exact letter ⟨by omega, by omega⟩
  · exact isBlank_of_isDigit digit
  · rw [beq_iff_eq.mp underscore]
    rfl

/-- What has only characters of names and minus signs is one argument. -/
theorem completes_of_names {cs : List Char} (named : ∀ c ∈ cs, c = '-' ∨ isNameChar c = true) :
    Completes 0 cs := by
  refine completes_of_plain fun c member mark => ?_
  rw [List.mem_cons, List.mem_cons, List.mem_cons, List.mem_singleton] at mark
  rcases named c member with rfl | name
  · simp at mark
  · rcases mark with rfl | rfl | rfl | rfl <;> exact absurd name (by decide)

theorem completes_of_name {cs : List Char} (named : cs.all isNameChar = true) : Completes 0 cs :=
  completes_of_names fun c member => .inr (List.all_eq_true.mp named c member)

variable (callee : Callee functions)

theorem Callee.not_mem {c : Char} (other : isNameChar c = false) : c ∉ callee.name.toList :=
  fun member => by simp [callee.isName.2 c member] at other

theorem Callee.toList_ne_nil : callee.name.toList ≠ [] :=
  fun empty => callee.isName.1 (String.toList_eq_nil_iff.mp empty)

theorem Callee.trimChars_name : Text.trimChars callee.name.toList = callee.name.toList :=
  Text.trimChars_of_not_blank fun c member => isBlank_of_isNameChar (callee.isName.2 c member)

theorem Callee.completes_name : Completes 0 callee.name.toList :=
  completes_of_names fun c member => .inr (callee.isName.2 c member)

theorem Callee.resolve_name :
    resolve functions callee.name.toList = .ok (callee.name, callee.function) := by
  have filled : callee.name.toList.isEmpty = false := by simp [callee.toList_ne_nil]
  have spelled : callee.name.toList.all isNameChar = true := by simpa using callee.isName.2
  simp [resolve, callee.trimChars_name, filled, spelled, callee.registered]

/-- The name of a call ends at the parenthesis. -/
theorem Callee.splitCall_name (after : List Char) :
    splitCall (callee.name.toList ++ after) =
      (callee.name.toList ++ (splitCall after).1, (splitCall after).2) := by
  have before : ∀ c ∈ callee.name.toList, (c != '(') = true := fun c member => by
    simpa using fun same : c = '(' => callee.not_mem (by decide) (same ▸ member)
  rw [splitCall, splitCall, List.span_eq_takeWhile_dropWhile, List.span_eq_takeWhile_dropWhile,
    List.takeWhile_append_of_pos before, List.dropWhile_append_of_pos before]
  cases after.dropWhile (· != '(') <;> rfl

private theorem Callee.trimChars_applied (inner : List Char) :
    Text.trimChars (callee.name.toList ++ '(' :: (inner ++ [')'])) =
      callee.name.toList ++ '(' :: (inner ++ [')']) := by
  refine Text.trimChars_of_ends (fun c first => ?_) fun c last => ?_
  · rw [List.head?_append_of_ne_nil _ callee.toList_ne_nil] at first
    exact isBlank_of_isNameChar (callee.isName.2 c (List.mem_of_mem_head? first))
  · rw [← List.cons_append, ← List.append_assoc, List.getLast?_concat] at last
    cases last
    rfl

theorem Callee.readCallWith_alone (call : CallReader) :
    readCallWith functions call callee.name.toList =
      .ok (.callCurrent callee.name callee.function) := by
  have alone : splitCall callee.name.toList = (callee.name.toList, none) := by
    have name := callee.splitCall_name []
    rwa [List.append_nil, show splitCall [] = ([], none) from rfl, List.append_nil] at name
  rw [readCallWith, callee.trimChars_name, alone]
  simp [callee.resolve_name, Except.map]

/-- What stands in the parentheses of a call is split and read. -/
theorem Callee.readCallWith_applied (call : CallReader) (inner : List Char) :
    readCallWith functions call (callee.name.toList ++ '(' :: (inner ++ [')'])) =
      match splitArgs inner with
      | .error unclosed =>
        .error (unclosed.fault (String.ofList (callee.name.toList ++ '(' :: (inner ++ [')']))))
      | .ok parts => (readArgs call parts).map (.call callee.name callee.function) := by
  have closing : beforeClosing? (inner ++ [')']) = some inner := by simp [beforeClosing?]
  have opening : splitCall ('(' :: (inner ++ [')'])) = ([], some (inner ++ [')'])) := rfl
  rw [readCallWith, callee.trimChars_applied, callee.splitCall_name, opening]
  cases split : splitArgs inner with
  | error unclosed => simp [closing, split]
  | ok parts =>
    cases read : readArgs call parts <;>
      simp [closing, split, read, callee.resolve_name, Except.map]

theorem plainValue_intText {n : Int} (fits : minInteger ≤ n ∧ n ≤ maxInteger) :
    plainValue (intText n).toList = .ofInt n := by
  have word (text : String) (letter : ∃ c ∈ text.toList, c ≠ '-' ∧ isDigit c = false) :
      intText n ≠ text := by
    rintro rfl
    obtain ⟨c, member, other, digit⟩ := letter
    rcases mem_intText member with minus | also
    · exact other minus
    · simp [digit] at also
  rw [plainValue, String.ofList_toList, if_neg (word _ ⟨'t', by decide, by decide, rfl⟩),
    if_neg (word _ ⟨'f', by decide, by decide, rfl⟩),
    if_neg (word _ ⟨'n', by decide, by decide, rfl⟩), readInteger_intText fits]

mutual

theorem Call.completes_chars : ∀ c : Call functions, Completes 0 c.chars
  | .current callee => callee.completes_name
  | .applied callee args =>
    callee.completes_name.append (.opening (completes_intercalate (Call.completes_parts args)))

theorem Argument.completes_chars : ∀ a : Argument functions, Completes 0 a.chars
  | .quoted _ unquoted => .quoted unquoted .done
  | .integer n _ => completes_of_names fun c member =>
    (mem_intText member).imp_right isNameChar_of_isDigit
  | .truth true => show Completes 0 "true".toList from completes_of_name (by decide)
  | .truth false => show Completes 0 "false".toList from completes_of_name (by decide)
  | .null => show Completes 0 "null".toList from completes_of_name (by decide)
  | .call c => .char (by decide) (by decide) c.completes_chars

theorem Call.completes_parts : ∀ args : List (Argument functions), ∀ p ∈ Call.parts args,
    Completes 0 p
  | [], _, member => nomatch member
  | arg :: rest, p, member => by
    rcases List.mem_cons.mp member with rfl | later
    · exact arg.completes_chars
    · exact Call.completes_parts rest p later

end

/-- A call ends with a character of a name or with a parenthesis. -/
theorem Call.exists_last (c : Call functions) :
    ∃ last, c.chars.getLast? = some last ∧ Text.isBlank last = false := by
  cases c with
  | current callee =>
    refine ⟨_, List.getLast?_eq_some_getLast callee.toList_ne_nil, ?_⟩
    exact isBlank_of_isNameChar (callee.isName.2 _ (List.getLast_mem _))
  | applied callee args =>
    refine ⟨')', ?_, rfl⟩
    rw [Call.chars, ← List.cons_append, ← List.append_assoc, List.getLast?_concat]

/-- No blank is at the ends of an argument, which is not empty. -/
theorem Argument.trimChars_chars (a : Argument functions) :
    Text.trimChars a.chars = a.chars ∧ a.chars.all Text.isBlank = false := by
  cases a with
  | quoted text _ =>
    have ends : ('\'' :: text.toList ++ ['\'']).getLast? = some '\'' := List.getLast?_concat
    refine ⟨Text.trimChars_of_ends (fun c first => ?_) fun c last => ?_, rfl⟩
    · cases first
      rfl
    · rw [chars, ends] at last
      cases last
      rfl
  | integer n _ =>
    have solid : ∀ c ∈ (intText n).toList, Text.isBlank c = false := by
      intro c member
      rcases mem_intText member with rfl | digit
      · rfl
      · exact isBlank_of_isDigit digit
    refine ⟨Text.trimChars_of_not_blank solid, ?_⟩
    obtain ⟨c, member⟩ := List.exists_mem_of_ne_nil _ (toList_intText_ne_nil n)
    simpa using ⟨c, member, solid c member⟩
  | truth value => cases value <;> exact ⟨rfl, rfl⟩
  | null => exact ⟨rfl, rfl⟩
  | call c =>
    obtain ⟨end_char, found, solid⟩ := c.exists_last
    refine ⟨Text.trimChars_of_ends (fun d first => ?_) fun d last => ?_, rfl⟩
    · cases first
      rfl
    · rw [chars, List.getLast?_cons, found] at last
      cases last
      exact solid

theorem splitArgs_parts (args : List (Argument functions)) :
    splitArgs ([','].intercalate (Call.parts args)) = .ok (Call.parts args) := by
  cases args with
  | nil => rfl
  | cons arg rest =>
    have solid : ([','].intercalate (Call.parts (arg :: rest))).all Text.isBlank = false := by
      have first := arg.trimChars_chars.2
      cases rest <;> simp [Call.parts, first]
    rw [splitArgs, solid]
    exact splitParts_intercalate (Call.completes_parts (arg :: rest))

theorem length_le_intercalate {part : List Char} {parts : List (List Char)}
    (member : part ∈ parts) : part.length ≤ ([','].intercalate parts).length := by
  induction parts with
  | nil => cases member
  | cons first rest ih =>
    cases rest with
    | nil =>
      exact Nat.le_of_eq (by rw [List.mem_singleton.mp member, List.intercalate_singleton])
    | cons next more =>
      rw [List.intercalate_cons_cons, List.length_append, List.length_append]
      rcases List.mem_cons.mp member with rfl | later
      · omega
      · have shorter := ih later
        omega

/-- An argument that no mark starts is a plain value. -/
theorem readArg_unmarked {call : CallReader} {cs : List Char} (filled : cs ≠ [])
    (unmarked : ∀ c ∈ cs.head?, c ∉ ['\'', '=', '@', '^']) :
    readArg call cs = .ok (.literal (plainValue cs)) := by
  cases cs with
  | nil => exact absurd rfl filled
  | cons c rest =>
    have other := unmarked c rfl
    simp only [List.mem_cons, List.not_mem_nil, or_false, not_or] at other
    unfold readArg unquote?
    split
    · simp_all
    · split <;> simp_all

mutual

/-- A call is read as it was written if there is room for the calls in it. -/
theorem Call.readCall_chars : ∀ (c : Call functions) (depth : Nat), c.chars.length ≤ depth →
    readCall functions depth c.chars = .ok c.formula
  | c, 0, fits => by
    obtain ⟨last, found, -⟩ := c.exists_last
    simp [List.length_eq_zero_iff.mp (Nat.le_zero.mp fits)] at found
  | .current callee, depth + 1, _ => callee.readCallWith_alone _
  | .applied callee args, depth + 1, fits => by
    have read := Call.readArgs_parts args depth fun part member => by
      have shorter := length_le_intercalate member
      simp only [Call.chars, List.length_append, List.length_cons] at fits
      omega
    rw [readCall, Call.chars, callee.readCallWith_applied, splitArgs_parts]
    simp only [read, Except.map, Call.formula]

theorem Argument.readArg_chars : ∀ (a : Argument functions) (depth : Nat),
    a.chars.length ≤ depth + 1 → readArg (readCall functions depth) a.chars = .ok a.formula
  | .quoted text _, _, _ => by
    simp [readArg, unquote?, Argument.chars, Argument.formula]
  | .integer n fits, depth, _ => by
    rw [Argument.chars, readArg_unmarked (toList_intText_ne_nil n) fun c first => ?_,
      plainValue_intText fits, Argument.formula]
    rcases mem_intText (List.mem_of_mem_head? first) with rfl | digit
    · decide
    · rw [List.mem_cons, List.mem_cons, List.mem_cons, List.mem_singleton]
      rintro (rfl | rfl | rfl | rfl) <;> exact absurd digit (by decide)
  | .truth true, _, _ => rfl
  | .truth false, _, _ => rfl
  | .null, _, _ => rfl
  | .call c, depth, fits => c.readCall_chars depth (Nat.le_of_succ_le_succ fits)

theorem Call.readArgs_parts : ∀ (args : List (Argument functions)) (depth : Nat),
    (∀ part ∈ Call.parts args, part.length ≤ depth + 1) →
      readArgs (readCall functions depth) (Call.parts args) = .ok (Call.formulas args)
  | [], _, _ => rfl
  | arg :: rest, depth, fits => by
    have first := arg.readArg_chars depth (fits _ (by simp [Call.parts]))
    have later := Call.readArgs_parts rest depth fun part member =>
      fits part (List.mem_cons_of_mem _ member)
    simp [Call.parts, readArgs, arg.trimChars_chars.1, first, later, Call.formulas]

end

/-- A call that is written out is read as the call that it is. -/
theorem read_text (c : Call functions) : read functions (.str c.text) = .ok c.formula := by
  rw [read, readText, Call.text, String.toList_ofList]
  exact c.readCall_chars _ (Nat.le_refl _)

/-- The function that makes a text of its argument. -/
def textCallee : Callee .builtins where
  name := "toString"
  function := Function.toText
  registered := rfl
  isName := ⟨by decide, List.all_eq_true.mp (by decide)⟩

/-- Whatever stands in quotes is no part of the call around it. -/
example : (Call.applied textCallee [.quoted "a,(=@" (by decide), .integer (-5) (by decide),
    .call (.current textCallee)]).text = "=toString('a,(=@',-5,=toString)" :=
  rfl

end Reshape.Transform.Formula
