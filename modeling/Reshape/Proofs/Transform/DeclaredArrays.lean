import Reshape.Proofs.Addressing
import Reshape.Proofs.Spec.Duplicates
import Reshape.Proofs.Spreading
import Reshape.Proofs.Unordered.Default

/-! Arrays that a default declares with brackets after a key. The key is escaped, so it may be
any text; the brackets are found in the text as it is written, and what was escaped before
them can hide them. -/

namespace Reshape

open Key Spec Decimal Outcome

namespace Decimal

private theorem isDigit_of_readFrom {cs : List Char} {value n : Nat}
    (read : readFrom value cs = some n) : ∀ c ∈ cs, isDigit c = true := by
  induction cs generalizing value with
  | nil => simp
  | cons c rest ih =>
    rw [readFrom] at read
    split at read
    · rename_i digit
      exact List.forall_mem_cons.mpr ⟨digit, ih read⟩
    · cases read

private theorem isDigit_of_readWord {cs : List Char} {n : Nat} (read : readWord cs = some n) :
    ∀ c ∈ cs, isDigit c = true := by
  have found := (Option.filter_eq_some_iff.mp read).1
  cases cs with
  | nil => simp
  | cons c rest => exact isDigit_of_readFrom found

/-- The text of an index is digits, with a plus sign in front if there is one. -/
theorem mem_index {text : String} {index : Nat} (read : readIndex text = some index) :
    ∀ c ∈ text.toList, c = '+' ∨ isDigit c = true := by
  rw [readIndex] at read
  unfold readIndexChars at read
  split at read
  · rename_i rest signed
    rw [signed]
    exact List.forall_mem_cons.mpr
      ⟨.inl rfl, fun c member => .inr (isDigit_of_readWord read c member)⟩
  · exact fun c member => .inr (isDigit_of_readWord read c member)

theorem not_mem_index {text : String} {index : Nat} (read : readIndex text = some index) {c : Char}
    (unsigned : c ≠ '+') (other : isDigit c = false) : c ∉ text.toList := by
  intro member
  rcases mem_index read c member with sign | digit
  · exact unsigned sign
  · rw [other] at digit
    cases digit

end Decimal

namespace Key

private theorem escapeChars_of_free {cs : List Char} (free : ∀ c ∈ cs, c ∉ reserved) :
    escapeChars cs = cs := by
  induction cs with
  | nil => rfl
  | cons c rest ih =>
    obtain ⟨first, later⟩ := List.forall_mem_cons.mp free
    have kept := ih later
    simp only [escapeChars] at kept ⊢
    simp [escapeOne, first, kept]

/-- The text of an index is its own escape. -/
theorem escape_index {text : String} {index : Nat} (read : readIndex text = some index) :
    escape text = text := by
  have free : ∀ c ∈ text.toList, c ∉ reserved := by
    intro c member held
    have other : reserved.all (fun d => d != '+' && !isDigit d) = true := rfl
    have each : c ≠ '+' ∧ isDigit c = false := by simpa using List.all_eq_true.mp other c held
    exact not_mem_index read each.1 each.2 member
  rw [escape, escapeChars_of_free free, String.ofList_toList]

/-- An escape stands in front of its character. -/
theorem getLast?_escapeChars (cs : List Char) : (escapeChars cs).getLast? = cs.getLast? := by
  rcases List.eq_nil_or_concat cs with rfl | ⟨rest, c, rfl⟩
  · rfl
  · have last : (escapeOne c).getLast? = some c := by
      unfold escapeOne
      split <;> rfl
    rw [List.concat_eq_append, escapeChars, List.flatMap_append, List.flatMap_singleton,
      List.getLast?_append, last, Option.some_or, List.getLast?_append]
    rfl

theorem toList_escape (text : String) : (escape text).toList = escapeChars text.toList :=
  String.toList_ofList

/-- Brackets after an escaped key that is not empty are no part of an element. -/
theorem readKey_bracketed (path : Pointer) {text : String} (filled : text ≠ "") :
    readKey path (escape text ++ "[]") =
      .error ⟨path, .grammar ⟨escape text ++ "[]", .misplacedBracket⟩⟩ := by
  obtain ⟨c, rest, chars⟩ := List.exists_cons_of_ne_nil (mt String.toList_eq_nil_iff.mp filled)
  have brackets : Spells ['[', ']'] [.plain '[', .plain ']'] := .plain (by decide)
  have spelled : Spells (escapeChars text.toList ++ ['[', ']'])
      (text.toList.map quoted ++ [.plain '[', .plain ']']) :=
    (Spells.escaped text.toList).append brackets
  have joined : escape text ++ "[]" = String.ofList (escapeChars text.toList ++ ['[', ']']) := by
    rw [String.ofList_append]
    rfl
  have free {d : Char} (held : d ∈ reserved) (other : d ≠ '[' ∧ d ≠ ']') :
      contains (text.toList.map quoted ++ [.plain '[', .plain ']']) d = false := by
    simp [contains_quoted _ held, other.1.symm, other.2.symm]
  have first : startsWith (text.toList.map quoted ++ [.plain '[', .plain ']']) '[' = false := by
    rw [chars]
    exact quoted_is c (by decide)
  have opened : contains (text.toList.map quoted ++ [.plain '[', .plain ']']) '[' = true := by
    simp
  have read : Element.parse (escape text ++ "[]") =
      .error ⟨escape text ++ "[]", .misplacedBracket⟩ := by
    have lexed :
        lex (escape text ++ "[]") = text.toList.map quoted ++ [.plain '[', .plain ']'] := by
      rw [joined, spelled.lex_eq]
    have looks := free (d := '@') (by decide) (by decide)
    have star := free (d := '*') (by decide) (by decide)
    have dollar := free (d := '$') (by decide) (by decide)
    simp only [Element.parse, parseKeyWith, lexed, if_neg (ne_of_contains looks),
      if_neg (ne_of_contains star), first, startsWith_of_contains looks, looks, dollar, opened,
      Bool.false_eq_true, if_false, Bool.true_or, if_true]
  have whole : alternatives (escape text ++ "[]") = [escape text ++ "[]"] := by
    rw [joined, alternatives, spelled.lex_eq, splitBars_of_contains (free (by decide) (by decide)),
      List.map_singleton, spelled.reescape_eq]
  rw [readKey, whole, List.mapM_cons, read]
  rfl

end Key

theorem Spec.Siblings.ofChildren_literals {α : Type} (path : Pointer)
    {children : List (String × α)} (distinct : (children.map (·.1)).Nodup) :
    ofChildren path (children.map fun child => (.literal child.1, child.2)) =
      .ok ⟨children, [], [], .literalsOnly⟩ := by
  have forms :
      ((children.map fun child => Element.literal child.1).map Element.canonical).Nodup := by
    have wellFormed : ∀ e ∈ children.map fun child => Element.literal child.1, e.WellFormed := by
      intro e member
      obtain ⟨child, -, rfl⟩ := List.mem_map.mp member
      trivial
    have injective : Function.Injective Element.literal := fun text label same => by
      cases same
      rfl
    have split : (children.map fun child => Element.literal child.1) =
        (children.map (·.1)).map Element.literal := by
      rw [List.map_map]
      rfl
    rw [nodup_canonical_iff wellFormed, split]
    exact distinct.map injective
  have checked : check path [] (children.map fun child => (Element.literal child.1, child.2)) =
      .ok () := by
    refine (check_eq_ok List.nodup_nil).mpr ⟨?_, List.forall_mem_map.mpr fun child _ index => ?_⟩
    · simpa [Function.comp_def] using forms
    · cases index
  have literals : literalsOf (children.map fun child => (Element.literal child.1, child.2)) =
      children := by
    simp [literalsOf, List.filterMap_map, literalText?]
  have alone (role : Role) (other : role ≠ .literal) :
      (children.map fun child => (Element.literal child.1, child.2)).filter
        (fun child => child.1.role = role) = [] := by
    refine List.filter_eq_nil_iff.mpr (List.forall_mem_map.mpr fun child _ => ?_)
    rw [decide_eq_true_eq]
    exact other.symm
  rw [ofChildren, checked, ok_bind, literals, alone .computed (by decide),
    alone .special (by decide)]
  rfl

namespace Transform.Default

variable {entries : Members} {key text : String} {path : Pointer} {limit depth : Nat}

theorem splitKey_unbracketed (free : ']' ∉ text.toList) : splitKey text = (text, .object) := by
  refine splitKey_object ?_
  change (splitChars text.toList).2 = .object
  unfold splitChars
  split
  · rfl
  · rename_i rest bracketed
    exact absurd (List.mem_reverse.mp (by simp [bracketed])) free
  · rfl

/-- A backslash before the brackets keeps them in the key. -/
theorem splitKey_backslash (escaped : text.toList.getLast? = some '\\') :
    splitKey (text ++ "[]") = (text ++ "[]", .object) := by
  have chars : (text ++ "[]").toList = text.toList ++ ['[', ']'] := String.toList_append
  obtain ⟨front, split⟩ := List.getLast?_eq_some_iff.mp escaped
  refine splitKey_object ?_
  change (splitChars (text ++ "[]").toList).2 = .object
  rw [chars, split]
  simp [splitChars]

/-- Whether these are items for an array: values that are no objects, under indices in reach. -/
def AreItems (entries : Members) : Prop :=
  ∀ entry ∈ entries, (∃ index ≤ maxIndex, readIndex entry.1 = some index) ∧
    entry.2.isObject = false

def filler (entries : Members) : Siblings Node :=
  ⟨entries.map fun entry => (entry.1, .leaf entry.2), [], [], .literalsOnly⟩

/-- The node below a key that declares an array. -/
def declarer (key : String) (entries : Members) : Siblings Node :=
  ⟨[(key, .branch .array (filler entries))], [], [], .literalsOnly⟩

/-- The spec that declares an array of items under a key. -/
def declaring (key : String) (entries : Members) : Json :=
  .obj [(escape key ++ "[]", .obj entries)]

/-- A member whose key is read as one literal. -/
theorem compileMember_literal {outer inner : Container} {spelled : String} {value : Json}
    {tree : Node} (split : splitKey key = (spelled, inner))
    (read : readKey (path.child key) spelled = .ok [.literal text])
    (made : child outer inner (path.child key) (.literal text) value
      (dialect.compile limit inner (depth + 1) (path.child key) value) =
        .ok (.literal text, tree)) :
    dialect.compileMember limit outer depth path (key, value) =
      .ok [⟨path.child key, .literal text, .literal text, tree⟩] := by
  have part : dialect.splitKey key = (spelled, inner) := split
  refine Dialect.compileMember_eq_ok.mpr ⟨rfl, [.literal text], by rwa [part], ?_⟩
  rw [part, mapM_eq_ok, List.forall₂_cons]
  exact ⟨map_eq_ok.mpr ⟨_, made, rfl⟩, .nil⟩

private theorem compileMembers_items (items : AreItems entries) :
    dialect.compileMembers limit .array depth path entries =
      .ok (entries.map fun entry =>
        ⟨path.child entry.1, .literal entry.1, .literal entry.1, .leaf entry.2⟩) := by
  induction entries with
  | nil => rfl
  | cons entry rest ih =>
    obtain ⟨text, value⟩ := entry
    obtain ⟨⟨⟨index, -, read⟩, scalar⟩, later⟩ := List.forall_mem_cons.mp items
    have split : splitKey text = (text, .object) :=
      splitKey_unbracketed (not_mem_index read (by decide) (by decide))
    have literal := readKey_escape (path.child text) text
    rw [escape_index read] at literal
    refine Dialect.compileMembers_cons_eq_ok.mpr
      ⟨[⟨path.child text, .literal text, .literal text, .leaf value⟩], _, ?_, ih later, rfl⟩
    refine compileMember_literal split literal ?_
    have element : checkElement .array (.literal text) = .ok () := by
      simp [checkElement, read]
    unfold child
    rw [element]
    cases value with
    | obj => cases scalar
    | _ => rfl

private theorem compile_items (within : depth ≤ limit) (filled : entries ≠ [])
    (items : AreItems entries) (distinct : (entries.map (·.1)).Nodup) :
    dialect.compile limit .array depth path (.obj entries) = .ok (.array, filler entries) := by
  refine Dialect.compile_eq_ok.mpr ⟨within, filled, _, compileMembers_items items, rfl, ?_⟩
  have children : childrenOf (entries.map fun entry => (⟨path.child entry.1, .literal entry.1,
      .literal entry.1, .leaf entry.2⟩ : Entry Container Json)) =
      (filler entries).literals.map fun child => (.literal child.1, child.2) := by
    simp [childrenOf, filler]
  have apart : ((filler entries).literals.map (·.1)).Nodup := by
    simpa [filler, Function.comp_def] using distinct
  rw [children, Siblings.ofChildren_literals path apart]
  rfl

/-- The spec compiles, unless a backslash stands before the brackets. -/
theorem compile_declaring (enough : 2 ≤ limit) (filled : entries ≠ []) (items : AreItems entries)
    (distinct : (entries.map (·.1)).Nodup) (plain : key.toList.getLast? ≠ some '\\') :
    dialect.compileRoot limit .object (declaring key entries) =
      .ok (.object, declarer key entries) := by
  have split : splitKey (escape key ++ "[]") = (escape key, .array) :=
    splitKey_brackets (by rwa [toList_escape, getLast?_escapeChars])
  have below : dialect.compile limit .array 2 [escape key ++ "[]"] (.obj entries) =
      .ok (.array, filler entries) := compile_items enough filled items distinct
  have made : child .object .array [escape key ++ "[]"] (.literal key) (.obj entries)
      (dialect.compile limit .array 2 [escape key ++ "[]"] (.obj entries)) =
        .ok (.literal key, .branch .array (filler entries)) := by rw [child, below]; rfl
  have member : dialect.compileMember limit .object 1 [] (escape key ++ "[]", .obj entries) =
      .ok [⟨[escape key ++ "[]"], .literal key, .literal key, .branch .array (filler entries)⟩] :=
    compileMember_literal split (readKey_escape _ key) made
  rw [← Dialect.compileMembers_singleton] at member
  have accepted : Siblings.ofChildren []
      ((declarer key entries).literals.map fun child => (.literal child.1, child.2)) =
        .ok (declarer key entries) := Siblings.ofChildren_literals [] (List.nodup_singleton key)
  exact Dialect.compile_eq_ok.mpr
    ⟨by omega, List.cons_ne_nil _ _, _, member, rfl, accepted⟩

/-- A backslash before the brackets makes the spec fail. -/
theorem compile_declaring_backslash (enough : 1 ≤ limit)
    (escaped : key.toList.getLast? = some '\\') :
    dialect.compileRoot limit .object (declaring key entries) =
      .error ⟨[escape key ++ "[]"], .grammar ⟨escape key ++ "[]", .misplacedBracket⟩⟩ := by
  have split : splitKey (escape key ++ "[]") = (escape key ++ "[]", .object) :=
    splitKey_backslash (by rwa [toList_escape, getLast?_escapeChars])
  have filled : key ≠ "" := by
    rintro rfl
    cases escaped
  have failed : dialect.compileMember limit .object 1 [] (escape key ++ "[]", .obj entries) =
      .error ⟨[escape key ++ "[]"], .grammar ⟨escape key ++ "[]", .misplacedBracket⟩⟩ := by
    have part : dialect.splitKey (escape key ++ "[]") = (escape key ++ "[]", .object) := split
    have accepted : dialect.accept (.obj entries) = .ok () := rfl
    have read := readKey_bracketed (Pointer.child [] (escape key ++ "[]")) filled
    simp only [Dialect.compileMember, part, accepted, read]
    rfl
  rw [Dialect.compileRoot, declaring, Dialect.compile_obj, if_neg (Nat.not_lt.mpr enough),
    List.mapM_cons, failed]
  rfl

/-- Whether an entry has a value for the item at an index. -/
def gives (index : Nat) (entry : String × Json) : Bool :=
  readIndex entry.1 = some index && !entry.2.isNull

/-- What entries make of the item at an index: their first value for it that is not null. -/
def itemAt (entries : Members) (index : Nat) : Json :=
  ((entries.find? (gives index)).map (·.2)).getD .null

/-- An array that reaches as far as the indices of entries, with their values at them and
null elsewhere. -/
structure Holds (entries : Members) (items : List Json) : Prop where
  length : ∀ index, index < items.length ↔
    ∃ entry ∈ entries, ∃ last, readIndex entry.1 = some last ∧ index ≤ last
  item : ∀ index < items.length, items[index]? = some (itemAt entries index)

variable {w : Walk} {items : List Json} {done : Members} {own : Json} {index : Nat}

/-- What a leaf leaves at a place where it finds a value. -/
def kept (own value : Json) : Json := if value.isNull then own else value

theorem fillPlace_item (within : index ≤ maxIndex) (read : readIndex text = some index) :
    fillPlace w text (runLeaf own) (.arr items) =
      .ok (.arr (Slot.grow index (kept own ((items[index]?).getD .null)) items)) := by
  have place : (Slot.member text).index? = some index := read
  have found : seen text (.arr items) = (items[index]?).getD .null := by
    simp [seen, Slot.child?, place]
  have reached : reaches text (.arr items) = true := by
    simp [reaches, read, within, Json.isArray]
  rw [fillPlace_eq, found, runLeaf]
  simp only [Except.map, settle, reached, if_true, Slot.assign_arr place, kept]

theorem itemAt_append_of_ne (read : readIndex text = some index) {other : Nat}
    (apart : other ≠ index) : itemAt (done ++ [(text, own)]) other = itemAt done other := by
  have missed : ¬ gives other (text, own) = true := by simp [gives, read, apart.symm]
  rw [itemAt, List.find?_append, List.find?_cons_of_neg missed, List.find?_nil, Option.or_none]
  rfl

theorem itemAt_append_self (read : readIndex text = some index) :
    itemAt (done ++ [(text, own)]) index = kept own (itemAt done index) := by
  rw [itemAt, itemAt, List.find?_append]
  cases first : done.find? (gives index) with
  | none => cases own <;> simp [kept, gives, read, Json.isNull]
  | some entry =>
    have solid := List.find?_some first
    simp only [gives, Bool.and_eq_true, Bool.not_eq_true'] at solid
    simp [kept, solid.2]

namespace Holds

theorem nil : Holds [] [] := ⟨by simp, by simp⟩

private theorem getD_eq (holds : Holds done items) (index : Nat) :
    (items[index]?).getD .null = itemAt done index := by
  by_cases within : index < items.length
  · rw [holds.item index within, Option.getD_some]
  · have missed : done.find? (gives index) = none := by
      refine List.find?_eq_none.mpr fun entry member => ?_
      have other : readIndex entry.1 ≠ some index := fun read =>
        within ((holds.length index).mpr ⟨entry, member, index, read, Nat.le_refl _⟩)
      simp [gives, other]
    rw [List.getElem?_eq_none (Nat.not_lt.mp within), itemAt, missed]
    rfl

/-- One more entry puts its value where there is none yet. -/
theorem append (holds : Holds done items) (read : readIndex text = some index) :
    Holds (done ++ [(text, own)])
      (Slot.grow index (kept own ((items[index]?).getD .null)) items) where
  length other := by
    simp only [Slot.length_grow, List.mem_append, List.mem_singleton, or_and_right, exists_or,
      ← holds.length, exists_eq_left, read, Option.some.injEq, exists_eq_left']
    omega
  item other within := by
    rw [Slot.length_grow] at within
    rw [Slot.getElem?_grow, holds.getD_eq]
    by_cases same : other = index
    · subst same
      rw [if_pos rfl, itemAt_append_self read]
    · have value := holds.getD_eq other
      rw [if_neg same, itemAt_append_of_ne read same, ← value]
      split
      · rename_i held
        rw [List.getElem?_eq_getElem held, Option.getD_some]
      · rename_i beyond
        rw [List.getElem?_eq_none (Nat.not_lt.mp beyond), Option.getD_none, if_pos (by omega)]

end Holds

/-- The places of items are filled from the first entry to the last one. -/
theorem fillPlaces_items (areItems : AreItems entries) (holds : Holds done items) :
    ∃ filled, Holds (done ++ entries) filled ∧ ∀ w,
      fillPlaces w (entries.map fun entry => (entry.1, runLeaf entry.2)) (.arr items) =
        .ok (.arr filled) := by
  induction entries generalizing done items with
  | nil => exact ⟨items, by rwa [List.append_nil], fun _ => rfl⟩
  | cons entry rest ih =>
    obtain ⟨⟨⟨index, within, read⟩, -⟩, later⟩ := List.forall_mem_cons.mp areItems
    have one : Holds (done ++ [entry])
        (Slot.grow index (kept entry.2 ((items[index]?).getD .null)) items) := holds.append read
    obtain ⟨filled, full, ran⟩ := ih later one
    refine ⟨filled, by rwa [List.append_assoc] at full, fun w => ?_⟩
    rw [List.map_cons, fillPlaces, fillPlace_item within read]
    exact ran w

/-- Without wildcards the entries stay as they are. -/
theorem mapEntries_fillEntry (w : Walk) (doc : Json) :
    doc.mapEntries (fun key => fillEntry w key []) = .ok doc := by
  cases doc with
  | obj members =>
    have kept : (members.mapM fun member => (fillEntry w member.1 [] member.2).map (member.1, ·)) =
        (.ok members : Except RunError Members) :=
      (List.mapM_pure (f := id)).trans (congrArg Except.ok (List.map_id members))
    exact congrArg (Except.map Json.obj) kept
  | arr items =>
    have kept : (items.zipIdx.mapM fun item => fillEntry w (natText item.2) [] item.1) =
        (.ok items : Except RunError (List Json)) :=
      (List.mapM_pure (f := Prod.fst)).trans (congrArg Except.ok (List.zipIdx_map_fst 0 items))
    exact congrArg (Except.map Json.arr) kept
  | _ => rfl

/-- A branch of literals alone fills their places. -/
theorem runBranch_literals {container : Container} {children : Siblings Action} {matched : Match}
    {node filled value : Json} {levels : Nat} (room : w.HasRoom (levels + 1))
    (alone : children.computed = [])
    (stands : (if value.isNull then container.empty else value) = node)
    (accepted : container.accepts node = true)
    (fills : ∀ inner : Walk, inner.HasRoom levels →
      fillPlaces inner children.literals node = .ok filled) :
    runBranch container children matched w value = .ok filled := by
  obtain ⟨inner, entered, left⟩ := room.push none matched
  rw [runBranch, stands, if_pos accepted, entered, ok_bind, fillChildren, fills inner left, ok_bind,
    alone]
  exact mapEntries_fillEntry inner filled

/-- The node of an array fills in its items where there is nothing. -/
theorem run_filler (areItems : AreItems entries) :
    ∃ filled, Holds entries filled ∧ ∀ w : Walk, w.HasRoom 1 → ∀ matched,
      run (.branch .array (filler entries)) matched w .null = .ok (.arr filled) := by
  obtain ⟨filled, full, ran⟩ := fillPlaces_items areItems .nil
  refine ⟨filled, full, fun w room matched => ?_⟩
  rw [run, Tree.fold_branch]
  refine runBranch_literals room rfl rfl rfl fun inner _ => ?_
  have leaves : (Tree.foldSiblings runLeaf runBranch (filler entries)).literals =
      entries.map fun entry => (entry.1, runLeaf entry.2) := by
    simp [Tree.foldSiblings, filler, Tree.foldLiterals_eq_map, Tree.fold]
  rw [leaves]
  exact ran inner

/-- An array that a key declares is put under the key. -/
theorem run_declarer {filled : List Json} {matched : Match} (room : w.HasRoom 2)
    (ran : ∀ inner : Walk, inner.HasRoom 1 → ∀ matched,
      run (.branch .array (filler entries)) matched inner .null = .ok (.arr filled)) :
    run (.branch .object (declarer key entries)) matched w (.obj []) =
      .ok (.obj [(key, .arr filled)]) := by
  rw [run, Tree.fold_branch]
  refine runBranch_literals room rfl rfl rfl fun inner left => ?_
  have below : (Tree.foldSiblings runLeaf runBranch (declarer key entries)).literals =
      [(key, run (.branch .array (filler entries)))] := by
    simp [Tree.foldSiblings, declarer, Tree.foldLiterals_eq_map, run]
  rw [below, fillPlaces, fillPlace_eq]
  change (run (.branch .array (filler entries)) _ inner .null).map _ >>= _ = _
  rw [ran inner left]
  rfl

/-- The brackets at the end of an escaped key declare an array under the key, which holds the
values of the entries at their indices and null elsewhere. That is so for every key that does
not end in a backslash: otherwise the spec is refused, since the brackets are taken for escaped
ones where a backslash stands before them, although it is itself escaped. -/
theorem declaring_fills (maxDepth : Nat) (enough : 2 ≤ maxDepth) (key : String)
    (filled : entries ≠ []) (areItems : AreItems entries)
    (distinct : (entries.map (·.1)).Nodup) :
    (key.toList.getLast? ≠ some '\\' → ∃ t items, compile maxDepth (declaring key entries) = .ok t ∧
      t.apply (.obj []) = .ok (.obj [(key, .arr items)]) ∧ Holds entries items) ∧
    (key.toList.getLast? = some '\\' → compile maxDepth (declaring key entries) =
      .error ⟨[escape key ++ "[]"], .grammar ⟨escape key ++ "[]", .misplacedBracket⟩⟩) := by
  constructor
  · intro plain
    obtain ⟨items, holds, ran⟩ := run_filler areItems
    obtain ⟨w, entered, room⟩ := rootWalk_hasRoom maxDepth none
    have room : w.HasRoom 2 := by
      rw [Walk.HasRoom] at room ⊢
      omega
    obtain ⟨arrays, compiled⟩ : ∃ arrays, compile maxDepth (declaring key entries) =
        .ok ⟨maxDepth, declarer key entries, arrays⟩ :=
      ⟨_, by rw [compile, compile_declaring enough filled areItems distinct plain]; rfl⟩
    refine ⟨_, items, compiled, ?_, holds⟩
    rw [apply, root, ok_bind, entered, ok_bind]
    exact run_declarer room ran
  · intro escaped
    rw [compile, compile_declaring_backslash (by omega) escaped]
    rfl

/-- Some items, two of them for one index. -/
def listed : Members := [("2", .str "x"), ("+0", .null), ("0", .bool true)]

/-- Brackets after a key that ends in brackets declare an array; after a backslash they do
not. -/
theorem declaring_fills_listed :
    (∃ t, compile 2 (declaring "a[]" listed) = .ok t ∧
      t.apply (.obj []) = .ok (.obj [("a[]", .arr [.bool true, .null, .str "x"])])) ∧
    compile 2 (declaring "a\\" listed) =
      .error ⟨["a\\\\[]"], .grammar ⟨"a\\\\[]", .misplacedBracket⟩⟩ := by
  have areItems : AreItems listed := List.forall_mem_cons.mpr ⟨⟨⟨2, by decide, rfl⟩, rfl⟩,
    List.forall_mem_cons.mpr ⟨⟨⟨0, by decide, rfl⟩, rfl⟩,
      List.forall_mem_singleton.mpr ⟨⟨0, by decide, rfl⟩, rfl⟩⟩⟩
  have present : listed ≠ [] := List.cons_ne_nil _ _
  have both (key : String) := declaring_fills 2 (Nat.le_refl 2) key present areItems (by decide)
  obtain ⟨t, items, compiled, ran, holds⟩ := (both "a[]").1 (by decide)
  refine ⟨⟨t, compiled, ?_⟩, (both "a\\").2 (by decide)⟩
  have reached : 2 < items.length :=
    (holds.length 2).mpr ⟨_, List.mem_cons_self, 2, rfl, Nat.le_refl 2⟩
  have length : items.length = 3 := by
    refine Nat.le_antisymm (Nat.not_lt.mp fun more => ?_) reached
    obtain ⟨entry, member, last, read, beyond⟩ := (holds.length 3).mp more
    have within : ∀ entry ∈ listed, ∃ index < 3, readIndex entry.1 = some index :=
      List.forall_mem_cons.mpr ⟨⟨2, by decide, rfl⟩, List.forall_mem_cons.mpr
        ⟨⟨0, by decide, rfl⟩, List.forall_mem_singleton.mpr ⟨0, by decide, rfl⟩⟩⟩
    obtain ⟨index, low, also⟩ := within entry member
    rw [read, Option.some.injEq] at also
    omega
  obtain ⟨a, b, c, rfl⟩ := List.length_eq_three.mp length
  have first : a = .bool true := Option.some.inj (holds.item 0 (by simp))
  have second : b = .null := Option.some.inj (holds.item 1 (by simp))
  have third : c = .str "x" := Option.some.inj (holds.item 2 (by simp))
  rw [ran, first, second, third]

end Transform.Default

end Reshape
