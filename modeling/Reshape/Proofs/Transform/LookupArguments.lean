import Reshape.Proofs.Transform.Calls

namespace Reshape.Transform.Formula

open Outcome

variable {functions : Registry} {cs inner : List Char} {formula : Formula}

theorem length_readArgs {call : CallReader} {parts : List (List Char)} {args : List Formula}
    (read : readArgs call parts = .ok args) : args.length = parts.length := by
  induction parts generalizing args with
  | nil =>
    cases read
    rfl
  | cons part rest ih =>
    rw [readArgs] at read
    obtain ⟨arg, -, read⟩ := bind_eq_ok.mp read
    obtain ⟨more, later, read⟩ := bind_eq_ok.mp read
    cases read
    rw [List.length_cons, List.length_cons, ih later]

/-- A call that is read has a name that a call can have. -/
theorem isName_of_readCallWith {call : CallReader} {name : String} {f : Function}
    {args : List Formula} (read : readCallWith functions call cs = .ok (.call name f args)) :
    IsName name := by
  have resolved : ∃ written, resolve functions written = .ok (name, f) := by
    rw [readCallWith] at read
    split at read
    · obtain ⟨_, _, other⟩ := map_eq_ok.mp read
      cases other
    · split at read
      · cases read
      · split at read
        · cases read
        · obtain ⟨_, _, read⟩ := bind_eq_ok.mp read
          obtain ⟨found, resolved, same⟩ := bind_eq_ok.mp read
          cases same
          exact ⟨_, resolved⟩
  obtain ⟨written, resolved⟩ := resolved
  simp only [resolve] at resolved
  split at resolved
  · cases resolved
  · rename_i valid
    split at resolved
    · cases resolved
      simpa [IsName] using valid
    · cases resolved

def lookupChars (inner : List Char) : List Char :=
  '@' :: '(' :: (inner ++ [')'])

private theorem trimChars_lookupChars (inner : List Char) :
    Text.trimChars (lookupChars inner) = lookupChars inner := by
  refine Text.trimChars_of_ends (fun c first => ?_) fun c last => ?_
  · cases first
    rfl
  · rw [lookupChars, ← List.cons_append, ← List.cons_append, List.getLast?_concat] at last
    cases last
    rfl

/-- A lookup is one argument where its text completes one. -/
theorem splitArgs_lookupChars {part : List Char} :
    splitArgs (lookupChars inner) = .ok [part] ↔ Completes 0 (lookupChars inner) ∧
      part = lookupChars inner := by
  have solid : (lookupChars inner).all Text.isBlank = false := rfl
  rw [splitArgs, solid, if_neg Bool.false_ne_true]
  constructor
  · intro whole
    have completes : Completes 0 (lookupChars inner) := by
      simpa using completes_of_splitParts whole
    refine ⟨completes, ?_⟩
    have same := whole.symm.trans (splitParts_of_completes completes [])
    simpa using same
  · rintro ⟨completes, rfl⟩
    exact splitParts_of_completes completes []

/-- A lookup that is read alone becomes the one argument of a call just where its text completes
an argument. -/
theorem readCallWith_lookup (callee : Callee functions) (call : CallReader)
    (alone : readLookup (lookupChars inner) = .ok formula) :
    readCallWith functions call (callee.name.toList ++ '(' :: (lookupChars inner ++ [')'])) =
        .ok (.call callee.name callee.function [formula]) ↔
      Completes 0 (lookupChars inner) := by
  rw [callee.readCallWith_applied]
  constructor
  · intro read
    cases split : splitArgs (lookupChars inner) with
    | error unclosed => simp [split] at read
    | ok parts =>
      rw [split] at read
      obtain ⟨args, arguments, same⟩ := map_eq_ok.mp read
      cases same
      obtain ⟨part, rfl⟩ := List.length_eq_one_iff.mp (length_readArgs arguments).symm
      exact (splitArgs_lookupChars.mp split).1
  · intro completes
    have argument : readArg call (lookupChars inner) = .ok formula := alone
    have whole := splitArgs_lookupChars.mpr ⟨completes, rfl⟩
    simp [whole, readArgs, trimChars_lookupChars, argument, Except.map]

/-- The value of a call with one argument is what the function makes of the value of that, where
null stands for none. -/
theorem evaluate_call_one (w : Walk) (context : Json) (current : Option Json) (name : String)
    (f : Function) (arg : Formula) :
    evaluate w context current (.call name f [arg]) =
      (evaluate w context current arg).map fun value => f [value.getD .null] := by
  cases value : evaluate w context current arg <;> simp [evaluate, evaluateArgs, value, Except.map]

/-- A lookup whose keys have no quotes and parentheses completes an argument. -/
theorem completes_lookupChars (plain : ∀ c ∈ inner, c ∉ ['\'', '(', ')']) :
    Completes 0 (lookupChars inner) := by
  refine .char (by decide) (by decide) (.opening ?_)
  induction inner with
  | nil => exact .closing .done
  | cons c rest ih =>
    have later := ih fun d member => plain d (List.mem_cons_of_mem _ member)
    exact .char (plain c (by simp)) (fun _ => Nat.one_ne_zero) later

/-- A lookup in parentheses that is a formula alone is the one argument of a call just where the
call can have its name and the text of the lookup completes an argument. The call then makes its
value of that of the lookup. -/
theorem read_lookup_argument {name path : String} {f : Function}
    (registered : functions.get? name = some f)
    (alone : read functions (.str ("@(" ++ path ++ ")")) = .ok formula) :
    (read functions (.str ("=" ++ name ++ "(" ++ ("@(" ++ path ++ ")") ++ ")")) =
        .ok (.call name f [formula]) ↔
      IsName name ∧ Completes 0 ("@(" ++ path ++ ")").toList) ∧
      ∀ w context current, evaluate w context current (.call name f [formula]) =
        (evaluate w context current formula).map fun value => f [value.getD .null] := by
  have chars : ("@(" ++ path ++ ")").toList = lookupChars path.toList := by
    simp [lookupChars]
  have written : ("=" ++ name ++ "(" ++ ("@(" ++ path ++ ")") ++ ")").toList =
      '=' :: (name.toList ++ '(' :: (lookupChars path.toList ++ [')'])) := by
    simp [lookupChars]
  have looked : readLookup (lookupChars path.toList) = .ok formula := by
    rwa [read, readText, chars] at alone
  have called (call : CallReader) :
      readCallWith functions call (name.toList ++ '(' :: (lookupChars path.toList ++ [')'])) =
          .ok (.call name f [formula]) ↔
        IsName name ∧ Completes 0 (lookupChars path.toList) := by
    constructor
    · intro read
      have isName := isName_of_readCallWith read
      exact ⟨isName, (readCallWith_lookup ⟨name, f, registered, isName⟩ call looked).mp read⟩
    · rintro ⟨isName, completes⟩
      exact (readCallWith_lookup ⟨name, f, registered, isName⟩ call looked).mpr completes
  refine ⟨?_, fun w context current => evaluate_call_one w context current name f formula⟩
  rw [read, readText, written, chars]
  simp only
  generalize List.length _ = depth
  cases depth <;> exact called _

/-- A lookup of a key with a comma in it, as the argument of a call. -/
theorem read_lookup_argument_comma :
    read .builtins (.str "@(1,a\\,b)") = .ok (.lookup ⟨1, [.key "a,b"]⟩) ∧
      read .builtins (.str "=toString(@(1,a\\,b))") =
        .ok (.call "toString" Function.toText [.lookup ⟨1, [.key "a,b"]⟩]) := by
  have alone : read .builtins (.str ("@(" ++ "1,a\\,b" ++ ")")) =
      .ok (.lookup ⟨1, [.key "a,b"]⟩) := rfl
  have plain : ∀ c ∈ "1,a\\,b".toList, c ∉ ['\'', '(', ')'] := by simp
  have completes : Completes 0 ("@(" ++ "1,a\\,b" ++ ")").toList := completes_lookupChars plain
  exact ⟨alone, (read_lookup_argument textCallee.registered alone).1.mpr
    ⟨textCallee.isName, completes⟩⟩

/-- The split knows no escapes: an escaped parenthesis of a key closes the lookup, so that the
next one is too many. In a key that no escape protects a comma splits the lookup in two. -/
example : splitArgs "@(1,a\\))".toList = .error .parenthesis ∧
    splitArgs "@(1,a),(b)".toList = .ok ["@(1,a)".toList, "(b)".toList] :=
  ⟨rfl, rfl⟩

end Reshape.Transform.Formula
