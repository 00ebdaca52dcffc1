import Reshape.Decimal.Integer
import Reshape.Settings

namespace Reshape.CommandLine

inductive Layout where
  | pretty
  | compact
deriving DecidableEq, Repr

/-- What `transform` is asked to do. -/
structure TransformRequest where
  spec : String
  input : Option String
  output : Option String
  context : Option String
  first : Option Nat
  last : Option Nat
  maxDepth : Nat
  layout : Layout
deriving DecidableEq, Repr

inductive Command where
  | transform (request : TransformRequest)
  | check (spec : String) (maxDepth : Nat)
deriving DecidableEq, Repr

inductive Answer where
  /-- The arguments are refused. -/
  | refused
  /-- A page is shown: help, or the version. -/
  | page
deriving DecidableEq, Repr

/-- What is read from arguments, unless something else is answered. -/
abbrev Reading := Except Answer

instance {α : Type} [DecidableEq α] : DecidableEq (Reading α)
  | .ok a, .ok b => decidable_of_iff (a = b) (by simp)
  | .error a, .error b => decidable_of_iff (a = b) (by simp)
  | .ok _, .error _ => .isFalse nofun
  | .error _, .ok _ => .isFalse nofun

def orRefuse {α : Type} : Option α → Reading α
  | some found => .ok found
  | none => .error .refused

inductive ValueOption where
  | spec
  | output
  | context
  | first
  | last
  | maxDepth
  | format
deriving DecidableEq, Repr

/-- The words that name the two commands. -/
inductive Verb where
  | transform
  | check
deriving DecidableEq, Repr

def verb? (word : String) : Option Verb :=
  if word = "transform" then some .transform
  else if word = "check" then some .check
  else none

def readLayout (text : String) : Option Layout :=
  if text = "pretty" then some .pretty
  else if text = "compact" then some .compact
  else none

namespace ValueOption

/-- The option with a long name after a verb; there is none in front of it. -/
def long? (verb : Option Verb) (name : String) : Option ValueOption :=
  match verb, name with
  | some _, "spec" => some .spec
  | some _, "max-depth" => some .maxDepth
  | some .transform, "output" => some .output
  | some .transform, "context" => some .context
  | some .transform, "from" => some .first
  | some .transform, "to" => some .last
  | some .transform, "format" => some .format
  | _, _ => none

def short? (verb : Option Verb) (letter : Char) : Option ValueOption :=
  match verb, letter with
  | some _, 's' => some .spec
  | some .transform, 'o' => some .output
  | _, _ => none

/-- Whether a text can be the value of an option: a path is not empty, and a number is one of
64 bits. -/
def accepts (text : String) : ValueOption → Bool
  | spec | output | context => !text.isEmpty
  | first | last | maxDepth => (Decimal.readIndex text).isSome
  | format => (readLayout text).isSome

end ValueOption

/-- Arguments of a command as they were read: options with their values, the value
without an option, and whether the output is verbose. -/
structure Collected where
  options : List (ValueOption × String)
  operand : Option String
  verbose : Bool

namespace Collected

def empty : Collected := ⟨[], none, false⟩

/-- Adds an option, which may stand only once, with a value that it accepts. -/
def addOption (c : Collected) (option : ValueOption) (value : String) : Reading Collected :=
  if (c.options.lookup option).isNone ∧ option.accepts value then
    .ok { c with options := c.options ++ [(option, value)] }
  else .error .refused

/-- Adds a value without an option: the path of the input, which only `transform` has. -/
def addOperand (verb : Verb) (c : Collected) (value : String) : Reading Collected :=
  if verb = .transform ∧ c.operand.isNone ∧ ¬value.isEmpty then
    .ok { c with operand := some value }
  else .error .refused

/-- Asks for verbose output, which may be done only once. -/
def setVerbose (c : Collected) : Reading Collected :=
  if c.verbose then .error .refused else .ok { c with verbose := true }

end Collected

/-- What an argument that starts with a hyphen leaves to be read. -/
inductive Letters where
  /-- Nothing. -/
  | done (c : Collected)
  /-- The value of an option. -/
  | value (option : ValueOption) (c : Collected)

/-- Reads letters after one hyphen. The letters after an option, and after an equal
sign if there is one, are its value. -/
def readLetters (verb : Option Verb) (c : Collected) : List Char → Reading Letters
  | [] => .ok (.done c)
  | letter :: rest =>
    if letter = 'v' then do
      let c ← c.setVerbose
      readLetters verb c rest
    else if letter = 'h' ∨ verb = none ∧ letter = 'V' then .error .page
    else do
      let option ← orRefuse (ValueOption.short? verb letter)
      match rest with
      | [] => .ok (.value option c)
      | '=' :: value => (c.addOption option (String.ofList value)).map .done
      | value => (c.addOption option (String.ofList value)).map .done

/-- Reads a long option after its two hyphens. -/
def readLong (verb : Option Verb) (c : Collected) (text : List Char) : Reading Letters :=
  match text.span (· != '=') with
  | (name, _ :: value) => do
    let option ← orRefuse (ValueOption.long? verb (String.ofList name))
    (c.addOption option (String.ofList value)).map .done
  | (name, []) =>
    if name = "verbose".toList then c.setVerbose.map .done
    else if name = "help".toList ∨ verb = none ∧ name = "version".toList then .error .page
    else do
      let option ← orRefuse (ValueOption.long? verb (String.ofList name))
      .ok (.value option c)

/-- Whether an argument is no value but an option: it starts with a hyphen and is
longer than that. -/
def isOption (arg : String) : Bool :=
  match arg.toList with
  | '-' :: _ :: _ => true
  | _ => false

def readOption (verb : Option Verb) (c : Collected) (arg : String) : Reading Letters :=
  match arg.toList with
  | '-' :: '-' :: name => readLong verb c name
  | '-' :: letters => readLetters verb c letters
  | _ => .error .refused

/-- Reads the arguments of a command. After two hyphens alone everything is a value
without an option. -/
def collect (verb : Verb) (c : Collected) : List String → Reading Collected
  | [] => .ok c
  | arg :: rest =>
    if arg = "--" then rest.foldlM (Collected.addOperand verb) c
    else if isOption arg then do
      match ← readOption (some verb) c arg with
      | .done c => collect verb c rest
      | .value option c =>
        match rest with
        | [] => .error .refused
        | value :: rest =>
          if isOption value then .error .refused
          else do
            let c ← c.addOption option value
            collect verb c rest
    else do
      let c ← c.addOperand verb arg
      collect verb c rest

def Collected.command (verb : Verb) (c : Collected) : Reading Command := do
  let value (option : ValueOption) : Option String := c.options.lookup option
  let spec ← orRefuse (value .spec)
  let maxDepth := ((value .maxDepth).bind Decimal.readIndex).getD Options.initial.maxDepth
  match verb with
  | .check => .ok (.check spec maxDepth)
  | .transform =>
    .ok (.transform {
      spec, maxDepth
      input := c.operand
      output := value .output
      context := value .context
      first := (value .first).bind Decimal.readIndex
      last := (value .last).bind Decimal.readIndex
      layout := ((value .format).bind readLayout).getD .pretty })

/-- Reads what follows the word that asks for help: at most one name of a command. -/
def readHelp : List String → Answer
  | [] => .page
  | [word] => if word = "help" ∨ (verb? word).isSome then .page else .refused
  | _ => .refused

def readVerb (c : Collected) : List String → Reading (Verb × List String)
  | [] => .error .refused
  | arg :: rest =>
    if arg = "help" then .error (readHelp rest)
    else if isOption arg then do
      match ← readOption none c arg with
      | .done c => readVerb c rest
      | .value _ _ => .error .refused
    else do
      let verb ← orRefuse (verb? arg)
      .ok (verb, rest)

def parse (args : List String) : Reading Command := do
  let (verb, rest) ← readVerb .empty args
  let collected ← collect verb .empty rest
  collected.command verb

end Reshape.CommandLine
