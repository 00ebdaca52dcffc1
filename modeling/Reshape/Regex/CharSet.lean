import Reshape.Regex.Property.Age
import Reshape.Regex.Property.Break
import Reshape.Regex.Property.Folding

namespace Reshape.Regex

abbrev CharSet := Text.CodeRanges

namespace CharSet

def empty : CharSet := ⟨[]⟩

def single (c : Char) : CharSet := ⟨[(c.toNat, c.toNat)]⟩

def asciiLetters (s : CharSet) : List Nat :=
  (List.range 26).flatMap fun i =>
    if s.containsCode (65 + i) || s.containsCode (97 + i) then [65 + i, 97 + i] else []

/-- The characters of a set and those that differ from one of them in case alone. -/
def folded (s : CharSet) : CharSet := Property.foldClosure s

/-- The same for the ASCII letters alone. -/
def foldedAscii (s : CharSet) : CharSet := s.union (.ofCodes (asciiLetters s))

def asciiDigits : CharSet := ⟨[(48, 57)]⟩

def asciiBlanks : CharSet := ⟨[(9, 13), (32, 32)]⟩

def asciiWord : CharSet := ⟨[(48, 57), (65, 90), (95, 95), (97, 122)]⟩

/-- The set with a name between `[:` and `:]`. -/
def posix? (name : String) : Option CharSet :=
  match name with
  | "alnum" => some ⟨[(48, 57), (65, 90), (97, 122)]⟩
  | "alpha" => some ⟨[(65, 90), (97, 122)]⟩
  | "ascii" => some ⟨[(0, 127)]⟩
  | "blank" => some ⟨[(9, 9), (32, 32)]⟩
  | "cntrl" => some ⟨[(0, 31), (127, 127)]⟩
  | "digit" => some asciiDigits
  | "graph" => some ⟨[(33, 126)]⟩
  | "lower" => some ⟨[(97, 122)]⟩
  | "print" => some ⟨[(32, 126)]⟩
  | "punct" => some ⟨[(33, 47), (58, 64), (91, 96), (123, 126)]⟩
  | "space" => some asciiBlanks
  | "upper" => some ⟨[(65, 90)]⟩
  | "word" => some asciiWord
  | "xdigit" => some ⟨[(48, 57), (65, 70), (97, 102)]⟩
  | _ => none

/-- One character of the name of a property: case does not matter, and blanks,
underscores, hyphens and all that is not ASCII are left out. -/
def nameChar (c : Char) : List Char :=
  if c = ' ' || c = '_' || c = '-' || 127 < c.toNat then []
  else if 'A' ≤ c && c ≤ 'Z' then [Char.ofNat (c.toNat + 32)]
  else [c]

/-- The name of a property without what does not matter in it; a leading `is` does
not matter either. -/
def normalizeName (name : List Char) : String :=
  let whole := name.flatMap nameChar
  match name with
  | a :: b :: rest =>
    if (a = 'i' || a = 'I') && (b = 's' || b = 'S') then
      let short := rest.flatMap nameChar
      if short = ['c'] then "isc" else String.ofList short
    else String.ofList whole
  | _ => String.ofList whole

def byName? (name : List Char) : Option CharSet :=
  let name := normalizeName name
  ((Property.binary? name).or (Property.category? name)).or (Property.script? name)

def byValue? (property value : List Char) : Option CharSet :=
  let value := normalizeName value
  match normalizeName property with
  | "generalcategory" | "gc" => Property.category? value
  | "script" | "sc" => Property.script? value
  | "scriptextensions" | "scx" => Property.scriptExtension? value
  | "age" => Property.age? value
  | "graphemeclusterbreak" | "gcb" => Property.graphemeBreak? value
  | "wordbreak" | "wb" => Property.wordBreak? value
  | "sentencebreak" | "sb" => Property.sentenceBreak? value
  | _ => none

end CharSet

end Reshape.Regex
