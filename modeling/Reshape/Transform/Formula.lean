import Reshape.Evaluation
import Reshape.Function.Registry

namespace Reshape.Transform

inductive Formula where
  | literal (value : Json)
  | lookup (target : Key.Lookup)
  | context (path : Key.Path)
  /-- A call with the current value as its argument. -/
  | callCurrent (name : String) (function : Function)
  | call (name : String) (function : Function) (args : List Formula)

namespace Formula

/-- A split of arguments that is not closed. -/
inductive Unclosed where
  | parenthesis
  | quote
deriving DecidableEq, Repr

/-- What is wrong with a call whose arguments are not closed. -/
def Unclosed.fault (text : String) : Unclosed → SpecFault
  | parenthesis => .openCall text
  | quote => .openQuote text

/-- Splits characters at commas outside parentheses and quotes. `current` is the part
so far in reverse. -/
def splitParts (depth : Nat) (quoted : Bool) (current : List Char) :
    List Char → Except Unclosed (List (List Char))
  | [] =>
    if quoted then .error .quote
    else if depth ≠ 0 then .error .parenthesis
    else .ok [current.reverse]
  | c :: rest =>
    if c = '\'' then splitParts depth (!quoted) (c :: current) rest
    else if quoted then splitParts depth quoted (c :: current) rest
    else if c = '(' then splitParts (depth + 1) quoted (c :: current) rest
    else if c = ')' then
      if depth = 0 then .error .parenthesis else splitParts (depth - 1) quoted (c :: current) rest
    else if c = ',' ∧ depth = 0 then
      (splitParts depth quoted [] rest).map (current.reverse :: ·)
    else splitParts depth quoted (c :: current) rest

/-- Splits the text between the parentheses of a call into arguments. -/
def splitArgs (inner : List Char) : Except Unclosed (List (List Char)) :=
  if inner.all Text.isBlank then .ok [] else splitParts 0 false [] inner

def isNameChar (c : Char) : Bool :=
  ('a' ≤ c && c ≤ 'z') || ('A' ≤ c && c ≤ 'Z') || Decimal.isDigit c || c == '_'

/-- The name of a function and the function. -/
def resolve (functions : Registry) (name : List Char) : Except SpecFault (String × Function) :=
  let name := Text.trimChars name
  let text := String.ofList name
  if name.isEmpty || !name.all isNameChar then .error (.functionName text)
  else
    match functions.get? text with
    | some f => .ok (text, f)
    | none => .error (.unknownFunction text)

def readLookup (cs : List Char) : Except SpecFault Formula :=
  match Key.Lookup.parse (String.ofList cs) with
  | .ok target => .ok (.lookup target)
  | .error e => .error (.grammar e)

def readContext (cs : List Char) : Except SpecFault Formula :=
  match Key.Path.parse (String.ofList cs) with
  | .ok path => .ok (.context path)
  | .error e => .error (.grammar e)

/-- The value of an argument without a mark: a word for a value, a number, or else
the text. -/
def plainValue (cs : List Char) : Json :=
  let text := String.ofList cs
  if text = "true" then .bool true
  else if text = "false" then .bool false
  else if text = "null" then .null
  else
    match Decimal.readInteger cs, (Decimal.readFloat cs).bind Number.ofFloat? with
    | some n, _ => .ofInt n
    | none, some x => .num x
    | none, none => .str text

/-- The text of an argument in quotes. -/
def unquote? : List Char → Option (List Char)
  | '\'' :: rest => if rest.getLast? = some '\'' then some rest.dropLast else none
  | _ => none

def splitCall (cs : List Char) : List Char × Option (List Char) :=
  match cs.span (· != '(') with
  | (name, _ :: rest) => (name, some rest)
  | (name, []) => (name, none)

/-- The text before a closing parenthesis at the end. -/
def beforeClosing? (cs : List Char) : Option (List Char) :=
  if cs.getLast? = some ')' then some cs.dropLast else none

/-- A reader of what follows the equal sign of a call. -/
abbrev CallReader := List Char → Except SpecFault Formula

/-- Reads an argument without blanks around it; `call` reads the calls in it. -/
def readArg (call : CallReader) (cs : List Char) : Except SpecFault Formula :=
  match unquote? cs with
  | some inner => .ok (.literal (.str (String.ofList inner)))
  | none =>
    match cs with
    | [] => .error .emptyArgument
    | '=' :: rest => call rest
    | '@' :: rest => readLookup ('@' :: rest)
    | '^' :: rest => readContext rest
    | cs => .ok (.literal (plainValue cs))

/-- Reads the arguments of a call; `call` reads the calls in them. -/
def readArgs (call : CallReader) : List (List Char) → Except SpecFault (List Formula)
  | [] => .ok []
  | part :: rest => do
    let arg ← readArg call (Text.trimChars part)
    let more ← readArgs call rest
    .ok (arg :: more)

def readCallWith (functions : Registry) (call : CallReader) : CallReader := fun cs =>
  let text := Text.trimChars cs
  match splitCall text with
  | (name, none) => (resolve functions name).map fun (name, f) => .callCurrent name f
  | (name, some rest) =>
    match beforeClosing? rest with
    | none => .error (.openCall (String.ofList text))
    | some inner =>
      match splitArgs inner with
      | .error unclosed => .error (unclosed.fault (String.ofList text))
      | .ok parts => do
        let args ← readArgs call parts
        let (name, f) ← resolve functions name
        .ok (.call name f args)

/-- Reads a call in which calls nest at most `depth` deep. -/
def readCall (functions : Registry) : Nat → CallReader
  | 0 => readCallWith functions fun _ => .error .emptyArgument
  | depth + 1 => readCallWith functions (readCall functions depth)

/-- Whether a character at the start of a text makes it a formula. -/
def isMark (c : Char) : Bool :=
  c = '=' || c = '@' || c = '^'

def readText (functions : Registry) (text : String) : Except SpecFault Formula :=
  match text.toList with
  | '=' :: rest => readCall functions rest.length rest
  | '@' :: rest => readLookup ('@' :: rest)
  | '^' :: rest => readContext rest
  | '\\' :: c :: rest =>
    .ok (.literal (.str (if isMark c then String.ofList (c :: rest) else text)))
  | _ => .ok (.literal (.str text))

def read (functions : Registry) : Json → Except SpecFault Formula
  | .str text => readText functions text
  | value => .ok (.literal value)

mutual

/-- The value of a formula at a place of a walk with a current value; none leaves
alone what it would be written to. -/
def evaluate (w : Walk) (context : Json) (current : Option Json) :
    Formula → Except RunError (Option Json)
  | literal value => .ok (some value)
  | lookup target => target.object? w
  | .context path => path.read w context
  | callCurrent _ f => .ok (f current.toList)
  | call _ f args => (evaluateArgs w context current args).map f

/-- The values of the arguments of a call; null stands for one that has none. -/
def evaluateArgs (w : Walk) (context : Json) (current : Option Json) :
    List Formula → Except RunError (List Json)
  | [] => .ok []
  | arg :: rest => do
    let value ← evaluate w context current arg
    let more ← evaluateArgs w context current rest
    .ok (value.getD .null :: more)

end

end Formula

end Reshape.Transform
