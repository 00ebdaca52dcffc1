import Reshape.Key.Element

/-! Reading keys and paths. The first marker that applies decides what a key is: a
lone `@` or `*`, then an opening bracket, an at sign, a dollar sign, a bracket
elsewhere, `&`, `*`, `#`; anything else is a literal. -/

namespace Reshape.Key

/-- Where a scan of a template stands. -/
inductive TemplateMode where
  /-- In literal text. -/
  | text
  /-- Right after an ampersand. -/
  | mark
  /-- In the digits of a reference. -/
  | digits
  /-- In the parentheses of a reference, `depth` of them open. -/
  | group (depth : Nat)
deriving DecidableEq, Repr

/-- Adds literal text in front of later pieces, unless it is empty. -/
def addText (current : List Lexeme) (later : Template) : Template :=
  if current.isEmpty then later else .text (unescape current) :: later

/-- The reference with these lexemes after its ampersand. -/
def pieceOf (body : List Lexeme) : Except Fault Piece :=
  (Reference.parse '&' (unescapeChars body)).map .captured

def isPlainDigit (l : Lexeme) : Bool :=
  !l.escaped && Decimal.isDigit l.char

/-- Splits lexemes into literal text and references. `current` is the text or the
reference so far. -/
def scanTemplate (mode : TemplateMode) (current : List Lexeme) :
    List Lexeme → Except Fault Template
  | [] =>
    match mode with
    | .text => .ok (addText current [])
    | .mark | .digits => (pieceOf current).map fun piece => [piece]
    | .group _ => .error .openReference
  | l :: rest =>
    match mode with
    | .text =>
      if l.is '&' then (scanTemplate .mark [] rest).map (addText current)
      else scanTemplate .text (current ++ [l]) rest
    | .group depth =>
      if l.is '(' then scanTemplate (.group (depth + 1)) (current ++ [l]) rest
      else if l.is ')' then
        if depth ≤ 1 then do
          let piece ← pieceOf (current ++ [l])
          (scanTemplate .text [] rest).map (piece :: ·)
        else scanTemplate (.group (depth - 1)) (current ++ [l]) rest
      else scanTemplate (.group depth) (current ++ [l]) rest
    | _ =>
      if mode = .mark ∧ l.is '(' then scanTemplate (.group 1) [l] rest
      else if isPlainDigit l then scanTemplate .digits (current ++ [l]) rest
      else do
        let piece ← pieceOf current
        if l.is '&' then (scanTemplate .mark [] rest).map (piece :: ·)
        else (scanTemplate .text [l] rest).map (piece :: ·)

/-- What was read from a key, with a fault as the error of this key. -/
def located {α : Type} (key : String) : Except Fault α → Except GrammarError α
  | .ok value => .ok value
  | .error fault => .error ⟨key, fault⟩

/-- Reads what stands between the brackets of a segment. `lookup` reads the lookups in
it. -/
def parseIndexBody (lookup : String → Except GrammarError Lookup) (key : String)
    (body : List Lexeme) : Except GrammarError Step :=
  let text := unescapeChars body
  if body.isEmpty then .ok .append
  else if startsWith body '&' then
    located key ((Reference.parse '&' (text.drop 1)).map fun r => .plain (.captured r))
  else if startsWith body '#' then
    located key ((parseCounter (text.drop 1)).map fun level => .plain (.counter level))
  else if startsWith body '@' then (lookup (reescape body)).map .itemLookup
  else if text.head? = some '-' then .error ⟨key, .negativeIndex⟩
  else
    match Decimal.readIndexChars text with
    | some index => .ok (.plain (.item index))
    | none => .error ⟨key, .badIndex (String.ofList text)⟩

/-- Reads a bracketed segment. `lookup` reads the lookups in it. -/
def parseIndex (lookup : String → Except GrammarError Lookup) (key : String)
    (ls : List Lexeme) : Except GrammarError Step :=
  if count ls '[' ≠ 1 || count ls ']' ≠ 1 || !endsWith ls ']' then .error ⟨key, .bracketShape⟩
  else parseIndexBody lookup key (ls.drop 1).dropLast

/-- Reads the value after a number sign, without the parentheses around it. -/
def parseConstant (ls : List Lexeme) : Except Fault Element :=
  let body := if startsWith ls '(' && endsWith ls ')' && 2 ≤ ls.length
    then (ls.drop 1).dropLast else ls
  if body.isEmpty then .error .emptyConstant else .ok (.constant (unescape body))

/-- Reads a key. `lookup` reads the lookups in it. -/
def parseKeyWith (lookup : String → Except GrammarError Lookup) (key : String) :
    Except GrammarError Element :=
  let ls := lex key
  let fail (fault : Fault) : Except GrammarError Element := .error ⟨key, fault⟩
  if ls = [.plain '@'] then .ok .here
  else if ls = [.plain '*'] then .ok (.star .any)
  else if startsWith ls '[' then (parseIndex lookup key ls).map .step
  else if startsWith ls '@' then (lookup key).map .lookup
  else if contains ls '@' then fail .misplacedAt
  else if contains ls '$' then
    if startsWith ls '$' then
      located key ((Reference.parse '$' (unescapeChars (ls.drop 1))).map .captured)
    else fail .misplacedDollar
  else if contains ls '[' || contains ls ']' then fail .misplacedBracket
  else if contains ls '&' then
    if contains ls '*' then fail .mixedTemplate
    else located key ((scanTemplate .text [] ls).map .template)
  else if contains ls '*' then .ok (.star (.ofParts ((splitAt '*' ls).map unescape)))
  else if contains ls '#' then
    if startsWith ls '#' then located key (parseConstant (ls.drop 1)) else fail .misplacedHash
  else .ok (.literal (unescape ls))

/-- Reads the steps of a path. `lookup` reads the lookups in it. -/
def parseStepsWith (lookup : String → Except GrammarError Lookup) (path : String) :
    Except GrammarError (List Step) := do
  let segments ← segments path
  segments.mapM fun segment => do
    match ← parseKeyWith lookup segment with
    | .step s => .ok s
    | _ => .error ⟨path, .notAStep segment⟩

def refuseLookup (key : String) : Except GrammarError Lookup :=
  .error ⟨key, .nestedLookup⟩

/-- The steps without lookups, if nothing is appended and nothing looked up. -/
def plainSteps : List Step → Except Fault (List PlainStep)
  | [] => .ok []
  | .plain s :: rest => (plainSteps rest).map (s :: ·)
  | .append :: _ => .error .appendInLookup
  | _ :: _ => .error .nestedLookup

/-- Splits a lookup into its level and its path. A level comes first if there is a
digit in front, and ends at a comma or with the lookup. -/
def splitLevel (body : List Lexeme) : Except Fault (Nat × List Lexeme) :=
  match body with
  | l :: _ =>
    if isPlainDigit l then
      let digits := body.takeWhile fun l => !l.is ','
      if digits.all isPlainDigit then
        match Decimal.readWord (unescapeChars digits) with
        | some level => .ok (level, body.drop (digits.length + 1))
        | none => .error .hugeLevel
      else .error .badLevel
    else .ok (0, body)
  | [] => .ok (0, [])

/-- What stands in a lookup after its at sign, without the parentheses around it. -/
def lookupBody (ls : List Lexeme) : Except Fault (List Lexeme) :=
  if contains ls '@' then .error .nestedLookup
  else if contains ls '*' then .error .starInLookup
  else if startsWith ls '(' then
    if !endsWith ls ')' || ls.length < 2 then .error .openLookup
    else
      let body := (ls.drop 1).dropLast
      if body.isEmpty then .error .emptyLookup else .ok body
  else .ok ls

/-- Reads `@`, `@3`, `@(3)`, `@(3,a.b)`, `@(a.b)` and `@a`. -/
def Lookup.parse (key : String) : Except GrammarError Lookup :=
  match lex key with
  | [] => .error ⟨key, .notLookup⟩
  | l :: ls =>
    if !l.is '@' then .error ⟨key, .notLookup⟩
    else if ls.isEmpty then .ok ⟨0, []⟩
    else do
      let body ← located key (lookupBody ls)
      let (level, rest) ← located key (splitLevel body)
      if rest.isEmpty then .ok ⟨level, []⟩
      else
        match parseStepsWith refuseLookup (reescape rest) with
        | .ok steps => do
          let path ← located key (plainSteps steps)
          .ok ⟨level, path⟩
        | .error e => .error ⟨key, e.fault⟩

def Element.parse (key : String) : Except GrammarError Element :=
  parseKeyWith Lookup.parse key

abbrev Path := List Step

def Path.parse (path : String) : Except GrammarError Path :=
  parseStepsWith Lookup.parse path

def Path.canonical (path : Path) : String :=
  String.ofList (joinDots (path.map Step.chars))

end Reshape.Key
