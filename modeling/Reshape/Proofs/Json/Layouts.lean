import Reshape.Json.Writer

/-! The text of a document token by token. A layout is told by the blanks in it: those before
each item and before the end of a container, and those after a colon. -/

namespace Reshape.Json

structure Spacing where
  /-- What stands before what is nested so deep. -/
  gap : Nat → List Char
  /-- What stands after a colon. -/
  colon : List Char

namespace Spacing

def compact : Spacing := ⟨fun _ => [], []⟩

/-- Items and members stand on lines of their own. -/
def pretty : Spacing := ⟨fun depth => '\n' :: List.replicate (2 * depth) ' ', [' ']⟩

/-- No blank is anything but a space or a line feed. -/
structure Blank (s : Spacing) : Prop where
  gap : ∀ depth, ∀ c ∈ s.gap depth, c = ' ' ∨ c = '\n'
  colon : ∀ c ∈ s.colon, c = ' ' ∨ c = '\n'

theorem compact_blank : compact.Blank where
  gap := nofun
  colon := nofun

theorem pretty_blank : pretty.Blank where
  gap _ := List.forall_mem_cons.mpr
    ⟨.inr rfl, fun _ present => .inl (List.eq_of_mem_replicate present)⟩
  colon := List.forall_mem_cons.mpr ⟨.inl rfl, nofun⟩

end Spacing

def quoted (text : String) : List Char :=
  '\x22' :: (text.toList.flatMap (fun c => (escapeChar c).toList) ++ ['\x22'])

/-- The comma in front of all items but the first. -/
def comma (first : Bool) : List Char :=
  if first then [] else [',']

variable (s : Spacing)

mutual

/-- The characters of a document that is nested so deep. -/
def spelled (depth : Nat) : Json → List Char
  | null => ['n', 'u', 'l', 'l']
  | bool true => ['t', 'r', 'u', 'e']
  | bool false => ['f', 'a', 'l', 's', 'e']
  | num n => n.text.toList
  | str text => quoted text
  | arr [] => ['[', ']']
  | arr (item :: rest) =>
    '[' :: (spelledItems (depth + 1) true (item :: rest) ++ (s.gap depth ++ [']']))
  | obj [] => ['\x7b', '\x7d']
  | obj (member :: rest) =>
    '\x7b' :: (spelledMembers (depth + 1) true (member :: rest) ++ (s.gap depth ++ ['\x7d']))

def spelledItems (depth : Nat) (first : Bool) : List Json → List Char
  | [] => []
  | item :: rest =>
    comma first ++ (s.gap depth ++ (spelled depth item ++ spelledItems depth false rest))

def spelledMembers (depth : Nat) (first : Bool) : Members → List Char
  | [] => []
  | (key, value) :: rest =>
    comma first ++ (s.gap depth ++ (quoted key ++
      ':' :: (s.colon ++ (spelled depth value ++ spelledMembers depth false rest))))

end

theorem toList_writeText (out text : String) :
    (writeText out text).toList = out.toList ++ quoted text := by
  have folded (cs : List Char) (out : String) :
      (cs.foldl (fun out c => out ++ escapeChar c) out).toList =
        out.toList ++ cs.flatMap fun c => (escapeChar c).toList := by
    induction cs generalizing out with
    | nil => simp
    | cons c rest ih => simp [ih]
  simp [writeText, quoted, folded]

private theorem toList_separate (out : String) (first : Bool) :
    (if first then out else out.push ',').toList = out.toList ++ comma first := by
  cases first <;> simp [comma]

mutual

private theorem toList_write (out : String) (depth : Nat) :
    ∀ doc : Json, (write out doc).toList = out.toList ++ spelled .compact depth doc
  | null => by simp [write, spelled]
  | bool true => by simp [write, spelled]
  | bool false => by simp [write, spelled]
  | num n => by simp [write, spelled]
  | str text => by rw [write, spelled, toList_writeText]
  | arr [] => by simp [write, spelled, writeItems]
  | arr (item :: rest) => by
    rw [write, spelled, String.toList_push, toList_writeItems _ (depth + 1)]
    simp [Spacing.compact]
  | obj [] => by simp [write, spelled, writeMembers]
  | obj (member :: rest) => by
    rw [write, spelled, String.toList_push, toList_writeMembers _ (depth + 1)]
    simp [Spacing.compact]

private theorem toList_writeItems (out : String) (depth : Nat) (first : Bool) :
    ∀ items : List Json, (writeItems out first items).toList =
      out.toList ++ spelledItems .compact depth first items
  | [] => by simp [writeItems, spelledItems]
  | item :: rest => by
    rw [writeItems, toList_writeItems _ depth, toList_write _ depth, toList_separate]
    simp [spelledItems, Spacing.compact]

private theorem toList_writeMembers (out : String) (depth : Nat) (first : Bool) :
    ∀ members : Members, (writeMembers out first members).toList =
      out.toList ++ spelledMembers .compact depth first members
  | [] => by simp [writeMembers, spelledMembers]
  | (key, value) :: rest => by
    rw [writeMembers, toList_writeMembers _ depth, toList_write _ depth, String.toList_push,
      toList_writeText, toList_separate]
    simp [spelledMembers, Spacing.compact]

end

private theorem toList_newline (out : String) (depth : Nat) :
    (newline out depth).toList = out.toList ++ Spacing.pretty.gap depth := by
  simp [newline, Spacing.pretty]

mutual

private theorem toList_writePretty (out : String) (depth : Nat) :
    ∀ doc : Json, (writePretty out depth doc).toList = out.toList ++ spelled .pretty depth doc
  | null => by simp [writePretty, write, spelled]
  | bool true => by simp [writePretty, write, spelled]
  | bool false => by simp [writePretty, write, spelled]
  | num n => by simp [writePretty, write, spelled]
  | str text => by simp [writePretty, write, spelled, toList_writeText]
  | arr [] => by simp [writePretty, spelled]
  | arr (item :: rest) => by
    rw [writePretty, spelled, String.toList_push, toList_newline, toList_prettyItems]
    simp
  | obj [] => by simp [writePretty, spelled]
  | obj (member :: rest) => by
    rw [writePretty, spelled, String.toList_push, toList_newline, toList_prettyMembers]
    simp

private theorem toList_prettyItems (out : String) (depth : Nat) (first : Bool) :
    ∀ items : List Json, (prettyItems out depth first items).toList =
      out.toList ++ spelledItems .pretty depth first items
  | [] => by simp [prettyItems, spelledItems]
  | item :: rest => by
    rw [prettyItems, toList_prettyItems, toList_writePretty, toList_newline, toList_separate]
    simp [spelledItems]

private theorem toList_prettyMembers (out : String) (depth : Nat) (first : Bool) :
    ∀ members : Members, (prettyMembers out depth first members).toList =
      out.toList ++ spelledMembers .pretty depth first members
  | [] => by simp [prettyMembers, spelledMembers]
  | (key, value) :: rest => by
    rw [prettyMembers, toList_prettyMembers, toList_writePretty, String.toList_append,
      toList_writeText, toList_newline, toList_separate]
    simp [spelledMembers, Spacing.pretty]

end

theorem toList_compact (doc : Json) : doc.compact.toList = spelled .compact 0 doc :=
  toList_write "" 0 doc

theorem toList_pretty (doc : Json) : doc.pretty.toList = spelled .pretty 0 doc :=
  toList_writePretty "" 0 doc

end Reshape.Json
